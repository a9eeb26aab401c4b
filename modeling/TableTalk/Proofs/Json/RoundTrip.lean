import Mathlib.Data.Bool.AllAny
import TableTalk.Proofs.Json.Numbers
import TableTalk.Proofs.Json.Strings

/-! Values in JSON texts. A value without floats that fits the limits of the reader is read back
from its text, to the order of the members of every object in it. -/
namespace TableTalk.Json
open TableTalk.Text TableTalk.Number

/-- Values with at most so many containers around any of their parts, which the reader can tell from
their text. -/
inductive Fits : Nat → Value → Prop where
  | null {depth} : Fits depth .null
  | bool {depth} (b : Bool) : Fits depth (.bool b)
  | int {depth} {n : Int} (h : digitCount n ≤ digitLimit) : Fits depth (.int n)
  | string {depth} {text : Symbols} (h : IsJoined text) : Fits depth (.string text)
  | array {depth} {items : List Value} (h : ∀ item ∈ items, Fits depth item) :
      Fits (depth + 1) (.array items)
  | object {depth} {members : List (Symbols × Value)} (hnodup : (members.map Prod.fst).Nodup)
      (hnames : ∀ member ∈ members, IsJoined member.1)
      (hvalues : ∀ member ∈ members, Fits depth member.2) : Fits (depth + 1) (.object members)

/-- A text that begins like a value: with a character that is passed over nowhere and closes
nothing. -/
def BeginsValue (s : List Char) : Prop :=
  ∃ c after, s = c :: after ∧ isSpace c = false ∧ c ≠ ']'

variable {fuel depth : Nat} {s rest after : List Char} {item value : Value} {items : List Value}
  {name : Symbols} {members : List (Symbols × Value)}

theorem BeginsValue.skipSpace_append (h : BeginsValue s) (rest : List Char) :
    skipSpace (s ++ rest) = s ++ rest := by
  obtain ⟨c, after, rfl, hspace, -⟩ := h
  rw [List.cons_append, skipSpace, if_neg (by simp [hspace])]

/-- A value that is all of a text. -/
theorem read_of_readValue (hmark : s.head? ≠ some '\ufeff')
    (h : readValue (s.length + 1) depthLimit (skipSpace s) = .ok (value, [])) :
    read s = .ok value := by
  unfold read
  split
  case h_1 => exact absurd rfl hmark
  case h_2 =>
    rw [h]
    rfl

/-- An item with a comma after it. -/
theorem readItems_next (hitem : readValue fuel depth s = .ok (item, rest))
    (hrest : skipSpace rest = ',' :: after) :
    readItems (fuel + 1) depth items s =
      readItems fuel depth (item :: items) (skipSpace after) := by
  simp only [readItems, hitem, Except.ok_bind, hrest]

theorem readItems_last (hitem : readValue fuel depth s = .ok (item, rest))
    (hrest : skipSpace rest = ']' :: after) :
    readItems (fuel + 1) depth items s = .ok (.array (item :: items).reverse, after) := by
  simp only [readItems, hitem, Except.ok_bind, hrest]
  rfl

/-- A member with a comma after it. -/
theorem readMembers_next {text : List Char}
    (hname : readString ('"' :: s) = .ok (name, ':' :: text))
    (hvalue : readValue fuel depth (skipSpace text) = .ok (value, rest))
    (hrest : skipSpace rest = ',' :: after) :
    readMembers (fuel + 1) depth members ('"' :: s) =
      readMembers fuel depth (setMember members name value) (skipSpace after) := by
  have hcolon : skipSpace (':' :: text) = ':' :: text := rfl
  simp only [readMembers, hname, Except.ok_bind, hcolon, hvalue, hrest]

theorem readMembers_end {text : List Char}
    (hname : readString ('"' :: s) = .ok (name, ':' :: text))
    (hvalue : readValue fuel depth (skipSpace text) = .ok (value, rest))
    (hrest : skipSpace rest = '\x7d' :: after) :
    readMembers (fuel + 1) depth members ('"' :: s) =
      .ok (.object (setMember members name value), after) := by
  have hcolon : skipSpace (':' :: text) = ':' :: text := rfl
  simp only [readMembers, hname, Except.ok_bind, hcolon, hvalue, hrest]
  rfl

/-- A member under a new name goes to the end. -/
theorem setMember_of_not_mem (h : name ∉ members.map Prod.fst) (value : Value) :
    setMember members name value = members ++ [(name, value)] := by
  induction members with
  | nil => rfl
  | cons member others ih =>
    obtain ⟨other, old⟩ := member
    rw [List.map_cons, List.mem_cons, not_or] at h
    rw [setMember, if_neg (Ne.symm h.1), ih h.2, List.cons_append]

/-- A value that is read back from its text, if there is enough fuel, with anything after it that
may follow a value. -/
structure ReadsBack (depth : Nat) (value : Value) : Prop where
  begins : BeginsValue (write value)
  reads : ∀ fuel rest, (write value).length < fuel → FollowsValue rest →
    readValue fuel depth (write value ++ rest) = .ok (value, rest)

/-- No text is empty, so there is always fuel to begin with. -/
theorem ReadsBack.of_succ (hbegins : BeginsValue (write value))
    (hreads : ∀ fuel rest, (write value).length ≤ fuel → FollowsValue rest →
      readValue (fuel + 1) depth (write value ++ rest) = .ok (value, rest)) :
    ReadsBack depth value := by
  refine ⟨hbegins, ?_⟩
  intro fuel rest hfuel hrest
  obtain ⟨fuel, rfl⟩ := Nat.exists_eq_succ_of_ne_zero (Nat.ne_of_gt (Nat.zero_lt_of_lt hfuel))
  exact hreads fuel rest (Nat.le_of_lt_succ hfuel) hrest

theorem beginsValue_writeItems (hne : items ≠ []) (h : ∀ item ∈ items, ReadsBack depth item) :
    BeginsValue (writeItems items) := by
  obtain ⟨item, others, rfl⟩ := List.exists_cons_of_ne_nil hne
  obtain ⟨c, after, hwrite, hc⟩ := (h item List.mem_cons_self).begins
  cases others with
  | nil => exact ⟨c, after, hwrite, hc⟩
  | cons next more => exact ⟨c, _, by rw [writeItems, hwrite]; rfl, hc⟩

/-- Every item takes one unit of fuel, which is no more than the characters it has. -/
theorem readItems_writeItems (hne : items ≠ []) (hitems : ∀ item ∈ items, ReadsBack depth item)
    (hfuel : (writeItems items).length + 1 < fuel) (read : List Value) (rest : List Char) :
    readItems fuel depth read (writeItems items ++ ']' :: rest) =
      .ok (.array (read.reverse ++ items), rest) := by
  induction items generalizing fuel read with
  | nil => exact absurd rfl hne
  | cons item others ih =>
    obtain ⟨fuel, rfl⟩ := Nat.exists_eq_succ_of_ne_zero (Nat.ne_of_gt (Nat.zero_lt_of_lt hfuel))
    rw [List.forall_mem_cons] at hitems
    cases others with
    | nil =>
      have hitem := hitems.1.reads fuel (']' :: rest) (by simpa [writeItems] using hfuel)
        (.inr (.inl rfl))
      rw [writeItems, readItems_last hitem rfl, List.reverse_cons]
    | cons next more =>
      rw [writeItems, List.length_append, List.length_cons, List.length_cons] at hfuel
      have hitem := hitems.1.reads fuel
        (',' :: ' ' :: (writeItems (next :: more) ++ ']' :: rest)) (by omega) (.inl rfl)
      have hbegins := beginsValue_writeItems (List.cons_ne_nil next more) hitems.2
      have hspace : skipSpace (' ' :: (writeItems (next :: more) ++ ']' :: rest)) =
          writeItems (next :: more) ++ ']' :: rest := hbegins.skipSpace_append _
      rw [writeItems, List.append_assoc, List.cons_append, List.cons_append,
        readItems_next hitem rfl, hspace, ih (List.cons_ne_nil next more) hitems.2 (by omega),
        List.reverse_cons, List.append_assoc, List.singleton_append]

theorem readString_writeName (h : IsJoined name) (rest : List Char) :
    readString ('"' :: (name.flatMap writeSymbol ++ '"' :: ':' :: rest)) =
      .ok (name, ':' :: rest) := by
  have hread := readString_writeString h (':' :: rest)
  rwa [writeString, List.cons_append, List.append_assoc] at hread

theorem writeString_append (name : Symbols) (s : List Char) :
    writeString name ++ ':' :: ' ' :: s =
      '"' :: (name.flatMap writeSymbol ++ '"' :: ':' :: ' ' :: s) := by
  rw [writeString, List.cons_append, List.append_assoc]
  rfl

theorem readMembers_writeMembers (hne : members ≠ [])
    (hnames : ∀ member ∈ members, IsJoined member.1)
    (hvalues : ∀ member ∈ members, ReadsBack depth member.2)
    (hfuel : (writeMembers members).length + 1 < fuel) (read : List (Symbols × Value))
    (hnodup : ((read ++ members).map Prod.fst).Nodup) (rest : List Char) :
    readMembers fuel depth read (writeMembers members ++ '\x7d' :: rest) =
      .ok (.object (read ++ members), rest) := by
  induction members generalizing fuel read with
  | nil => exact absurd rfl hne
  | cons member others ih =>
    obtain ⟨fuel, rfl⟩ := Nat.exists_eq_succ_of_ne_zero (Nat.ne_of_gt (Nat.zero_lt_of_lt hfuel))
    obtain ⟨name, value⟩ := member
    rw [List.forall_mem_cons] at hnames hvalues
    have hnew : name ∉ read.map Prod.fst := by
      rw [List.map_append, List.map_cons, List.nodup_append] at hnodup
      exact fun hmem => hnodup.2.2 _ hmem _ List.mem_cons_self rfl
    have hset := setMember_of_not_mem hnew value
    -- The space after the colon is passed over, and no more than that.
    have hvalue (tail : List Char) (hlength : (write value).length < fuel)
        (htail : FollowsValue tail) :
        readValue fuel depth (skipSpace (' ' :: (write value ++ tail))) = .ok (value, tail) := by
      have hspace : skipSpace (' ' :: (write value ++ tail)) = write value ++ tail :=
        hvalues.1.begins.skipSpace_append tail
      rw [hspace]
      exact hvalues.1.reads fuel tail hlength htail
    cases others with
    | nil =>
      rw [writeMembers, List.length_append, List.length_cons, List.length_cons] at hfuel
      have hlast := hvalue ('\x7d' :: rest) (by omega) (.inr (.inr rfl))
      rw [writeMembers, List.append_assoc, List.cons_append, List.cons_append, writeString_append,
        readMembers_end (readString_writeName hnames.1 _) hlast rfl, hset]
    | cons next more =>
      rw [writeMembers, List.length_append, List.length_cons, List.length_cons, List.length_append,
        List.length_cons, List.length_cons] at hfuel
      have hitem := hvalue (',' :: ' ' :: (writeMembers (next :: more) ++ '\x7d' :: rest))
        (by omega) (.inl rfl)
      have hspace : skipSpace (' ' :: (writeMembers (next :: more) ++ '\x7d' :: rest)) =
          writeMembers (next :: more) ++ '\x7d' :: rest := by
        obtain ⟨other, others⟩ := next
        cases more <;> rfl
      rw [List.append_cons] at hnodup
      rw [writeMembers, List.append_assoc, List.cons_append, List.cons_append, List.append_assoc,
        List.cons_append, List.cons_append, writeString_append,
        readMembers_next (readString_writeName hnames.1 _) hitem rfl, hspace, hset,
        ih (List.cons_ne_nil next more) hnames.2 hvalues.2 (by omega) _ hnodup, List.append_assoc,
        List.singleton_append]

theorem beginsValue_integerText (n : Int) : BeginsValue (integerText n).toList := by
  cases htext : (integerText n).toList with
  | nil =>
    unfold integerText at htext
    split at htext <;> simp [naturalText, Nat.toDigits_ne_nil] at htext
  | cons c after =>
    have hmem : c ∈ (integerText n).toList := by rw [htext]; exact List.mem_cons_self
    refine ⟨c, after, rfl, ?_⟩
    rcases digit_or_minus hmem with hdigit | rfl
    · have hc := isAsciiDigit_of_isDigit hdigit
      have hspace : c ≠ ' ' := ne_of_isAsciiDigit hc rfl
      have htab : c ≠ '\t' := ne_of_isAsciiDigit hc rfl
      have hfeed : c ≠ '\n' := ne_of_isAsciiDigit hc rfl
      have hreturn : c ≠ '\r' := ne_of_isAsciiDigit hc rfl
      exact ⟨by simp [isSpace, hspace, htab, hfeed, hreturn], ne_of_isAsciiDigit hc rfl⟩
    · decide

theorem readsBack_int {n : Int} (h : digitCount n ≤ digitLimit) : ReadsBack depth (.int n) := by
  apply ReadsBack.of_succ
  · rw [write]
    exact beginsValue_integerText n
  · intro fuel rest _ hrest
    rw [write]
    exact readValue_integer h hrest fuel depth

theorem readsBack_string {text : Symbols} (h : IsJoined text) :
    ReadsBack depth (.string text) := by
  apply ReadsBack.of_succ ⟨'"', _, by rw [write, writeString], by decide, by decide⟩
  intro fuel rest _ _
  have hread := readString_writeString h rest
  rw [writeString, List.cons_append] at hread
  rw [write, writeString, List.cons_append]
  simp only [readValue, hread, Except.ok_bind]
  rfl

theorem readsBack_array (hitems : ∀ item ∈ items, ReadsBack depth item) :
    ReadsBack (depth + 1) (.array items) := by
  apply ReadsBack.of_succ ⟨'[', _, by rw [write], by decide, by decide⟩
  intro fuel rest hfuel _
  rw [write, List.length_cons, List.length_append, List.length_singleton] at hfuel
  rw [write, List.cons_append, List.append_assoc, List.singleton_append]
  by_cases hne : items = []
  · subst hne
    rfl
  · have hbegins := beginsValue_writeItems hne hitems
    have hspace := hbegins.skipSpace_append (']' :: rest)
    have hlength : (writeItems items).length + 1 < fuel := by omega
    have hread := readItems_writeItems hne hitems hlength [] rest
    obtain ⟨c, after, hwrite, -, hend⟩ := hbegins
    rw [hwrite, List.cons_append] at hspace hread ⊢
    simp only [readValue, hspace]
    split
    case h_1 heq => exact absurd (List.cons.inj heq).1 hend
    case h_2 => exact hread

theorem readsBack_object (hnodup : (members.map Prod.fst).Nodup)
    (hnames : ∀ member ∈ members, IsJoined member.1)
    (hvalues : ∀ member ∈ members, ReadsBack depth member.2) :
    ReadsBack (depth + 1) (.object members) := by
  apply ReadsBack.of_succ ⟨'\x7b', _, by rw [write], by decide, by decide⟩
  intro fuel rest hfuel _
  rw [write, List.length_cons, List.length_append, List.length_singleton] at hfuel
  rw [write, List.cons_append, List.append_assoc, List.singleton_append]
  by_cases hne : members = []
  · subst hne
    rfl
  · have hlength : (writeMembers members).length + 1 < fuel := by omega
    have hread := readMembers_writeMembers hne hnames hvalues hlength [] hnodup rest
    obtain ⟨⟨name, value⟩, others, rfl⟩ := List.exists_cons_of_ne_nil hne
    have hquote : ∃ after, writeMembers ((name, value) :: others) = '"' :: after := by
      cases others <;> exact ⟨_, rfl⟩
    obtain ⟨after, hwrite⟩ := hquote
    rw [hwrite, List.cons_append] at hread ⊢
    exact hread

theorem Fits.mono {depth' : Nat} (h : Fits depth value)
    (hdepth : depth ≤ depth') : Fits depth' value := by
  induction h generalizing depth' with
  | null => exact .null
  | bool b => exact .bool b
  | int h => exact .int h
  | string h => exact .string h
  | array _ ih =>
    obtain ⟨more, rfl⟩ := Nat.exists_eq_add_of_le' hdepth
    exact .array fun item hitem => ih item hitem (Nat.le_add_left _ more)
  | object hnodup hnames _ ih =>
    obtain ⟨more, rfl⟩ := Nat.exists_eq_add_of_le' hdepth
    exact .object hnodup hnames fun member hmember =>
      ih member hmember (Nat.le_add_left _ more)

/-- A value that fits is read back from its text. -/
theorem Fits.readsBack (h : Fits depth value) : ReadsBack depth value := by
  induction h with
  | null =>
    apply ReadsBack.of_succ ⟨'n', _, by rw [write]; rfl, by decide, by decide⟩
    intro fuel rest _ _
    rw [write]
    rfl
  | bool b =>
    cases b with
    | true =>
      apply ReadsBack.of_succ ⟨'t', _, by rw [write]; rfl, by decide, by decide⟩
      intro fuel rest _ _
      rw [write]
      rfl
    | false =>
      apply ReadsBack.of_succ ⟨'f', _, by rw [write]; rfl, by decide, by decide⟩
      intro fuel rest _ _
      rw [write]
      rfl
  | int h => exact readsBack_int h
  | string h => exact readsBack_string h
  | array _ ih => exact readsBack_array ih
  | object hnodup hnames _ ih => exact readsBack_object hnodup hnames ih

theorem writeItems_ascii (h : ∀ item ∈ items, ∀ c ∈ write item, c.toNat < 128) :
    ∀ c ∈ writeItems items, c.toNat < 128 := by
  induction items with
  | nil => exact fun c hc => nomatch hc
  | cons item others ih =>
    rw [List.forall_mem_cons] at h
    cases others with
    | nil => exact h.1
    | cons next more =>
      rw [writeItems, List.forall_mem_append, List.forall_mem_cons, List.forall_mem_cons]
      exact ⟨h.1, by decide, by decide, ih h.2⟩

theorem writeMembers_ascii (h : ∀ member ∈ members, ∀ c ∈ write member.2, c.toNat < 128) :
    ∀ c ∈ writeMembers members, c.toNat < 128 := by
  induction members with
  | nil => exact fun c hc => nomatch hc
  | cons member others ih =>
    obtain ⟨name, value⟩ := member
    rw [List.forall_mem_cons] at h
    cases others with
    | nil =>
      rw [writeMembers, List.forall_mem_append, List.forall_mem_cons, List.forall_mem_cons]
      exact ⟨writeString_ascii name, by decide, by decide, h.1⟩
    | cons next more =>
      rw [writeMembers, List.forall_mem_append, List.forall_mem_cons, List.forall_mem_cons,
        List.forall_mem_append, List.forall_mem_cons, List.forall_mem_cons]
      exact ⟨writeString_ascii name, by decide, by decide, h.1, by decide, by decide, ih h.2⟩

theorem Fits.write_ascii (h : Fits depth value) : ∀ c ∈ write value, c.toNat < 128 := by
  induction h with
  | null =>
    rw [write]
    exact List.all_iff_forall_prop.mp (by decide)
  | bool b =>
    rw [write]
    cases b <;> exact List.all_iff_forall_prop.mp (by decide)
  | int h =>
    rw [write]
    intro c hc
    rcases digit_or_minus hc with hdigit | rfl
    · have hcode := isAsciiDigit_of_isDigit hdigit
      rw [Text.isAsciiDigit, Bool.and_eq_true, decide_eq_true_iff, decide_eq_true_iff] at hcode
      omega
    · decide
  | string h =>
    rw [write]
    exact writeString_ascii _
  | array _ ih =>
    rw [write, List.forall_mem_cons, List.forall_mem_append, List.forall_mem_singleton]
    exact ⟨by decide, writeItems_ascii ih, by decide⟩
  | object _ _ _ ih =>
    rw [write, List.forall_mem_cons, List.forall_mem_append, List.forall_mem_singleton]
    exact ⟨by decide, writeMembers_ascii ih, by decide⟩

theorem read_write (h : Fits depthLimit value) : read (write value) = .ok value := by
  obtain ⟨hbegins, hreads⟩ := h.readsBack
  have hvalue := hreads ((write value).length + 1) [] (Nat.lt_succ_self _) trivial
  have hspace := hbegins.skipSpace_append []
  rw [List.append_nil] at hvalue hspace
  have hmark : (write value).head? ≠ some '\ufeff' := fun hhead =>
    absurd (h.write_ascii '\ufeff' (List.mem_of_head? hhead)) (by decide)
  exact read_of_readValue hmark (by rw [hspace, hvalue])

end TableTalk.Json
