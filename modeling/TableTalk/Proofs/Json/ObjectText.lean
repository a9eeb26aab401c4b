import TableTalk.Proofs.Json.Context
import TableTalk.Proofs.Json.RoundTrip

/-! The text of an object, by itself and in an array. White space around it says nothing, and in an
array it is the only item, unless that is one container too many. -/
namespace TableTalk.Json
open TableTalk.Text

variable {fuel depth : Nat} {s rest tail : List Char} {value : Value}
  {o alone inner array : List Char}

/-- A text with nothing but white space around another one. -/
def Pads (s padded : List Char) : Prop :=
  ∃ before after, (∀ c ∈ before, isSpace c = true) ∧ (∀ c ∈ after, isSpace c = true) ∧
    padded = before ++ (s ++ after)

/-- The text of an array with one item. -/
def inArray (item : List Char) : List Char := '[' :: (item ++ [']'])

/-- The text of one object: it begins as one, and the reader finds nothing wrong in its form. Numbers
that are too long are no matter of form, nor is how deeply containers are nested. -/
structure IsObjectText (s : List Char) : Prop where
  brace : s.head? = some '\x7b'
  wellFormed : ∀ reason left, read s ≠ .error (.malformed reason left)

/-- Whether a text was found to be no JSON by its form. -/
def isMalformed : Except Problem Value → Bool
  | .error (.malformed _ _) => true
  | _ => false

theorem isObjectText_iff :
    IsObjectText s ↔ s.head? = some '\x7b' ∧ isMalformed (read s) = false := by
  have hform : (∀ reason left, read s ≠ .error (.malformed reason left)) ↔
      isMalformed (read s) = false := by
    rcases read s with (⟨reason, left⟩ | isArray | cause) | value <;> simp [isMalformed]
  rw [← hform]
  exact ⟨fun h => ⟨h.brace, h.wellFormed⟩, fun h => ⟨h.1, h.2⟩⟩

instance (s : List Char) : Decidable (IsObjectText s) := decidable_of_iff _ isObjectText_iff.symm

theorem skipSpace_spaces {before : List Char} (h : ∀ c ∈ before, isSpace c = true)
    (s : List Char) : skipSpace (before ++ s) = skipSpace s := by
  induction before with
  | nil => rfl
  | cons c rest ih =>
    rw [List.forall_mem_cons] at h
    rw [List.cons_append, skipSpace, if_pos h.1, ih h.2]

theorem skipSpace_eq_nil (h : ∀ c ∈ s, isSpace c = true) : skipSpace s = [] := by
  rw [← List.append_nil s, skipSpace_spaces h, skipSpace]

theorem forall_isSpace_of_skipSpace (h : skipSpace s = []) : ∀ c ∈ s, isSpace c = true := by
  induction s with
  | nil => exact List.forall_mem_nil _
  | cons c rest ih =>
    rw [skipSpace] at h
    split_ifs at h with hc
    exact List.forall_mem_cons.mpr ⟨hc, ih h⟩

theorem endsValue_of_spaces (h : ∀ c ∈ tail, isSpace c = true) : EndsValue tail :=
  fun c hc => .inl (h c (List.mem_of_mem_head? hc))

theorem endsValue_closing {after : List Char} (h : ∀ c ∈ after, isSpace c = true)
    (last : List Char) : EndsValue (after ++ ']' :: last) := by
  cases after with
  | nil => exact fun c hc => .inr (Option.some.inj hc).symm
  | cons space others => exact fun c hc => .inl (h c (Option.some.inj hc ▸ List.mem_cons_self))

theorem read_of_error {problem : Problem} (hmark : s.head? ≠ some '\ufeff')
    (h : readValue (s.length + 1) depthLimit (skipSpace s) = .error problem) :
    read s = .error problem := by
  unfold read
  split
  · exact absurd rfl hmark
  · rw [h]
    rfl

/-- Whatever is left after a value is extra. -/
theorem read_of_value (hmark : s.head? ≠ some '\ufeff')
    (h : readValue (s.length + 1) depthLimit (skipSpace s) = .ok (value, rest)) :
    read s = if skipSpace rest = [] then .ok value
      else .error (.malformed .extraData (skipSpace rest)) := by
  unfold read
  split
  · exact absurd rfl hmark
  · rw [h, Except.ok_bind]
    dsimp only
    rcases skipSpace rest with _ | ⟨c, left⟩
    · exact (if_pos rfl).symm
    · exact (if_neg (List.cons_ne_nil c left)).symm

theorem read_of_ok (hmark : s.head? ≠ some '\ufeff')
    (h : readValue (s.length + 1) depthLimit (skipSpace s) = .ok (value, rest))
    (hrest : skipSpace rest = []) : read s = .ok value := by
  rw [read_of_value hmark h, if_pos hrest]

theorem IsObjectText.eq_cons (h : IsObjectText o) : ∃ rest, o = '\x7b' :: rest := by
  cases o with
  | nil => cases h.brace
  | cons c rest => exact ⟨rest, by rw [Option.some.inj h.brace]⟩

theorem IsObjectText.ne_nil (h : IsObjectText o) : o ≠ [] := by
  rintro rfl
  cases h.brace

theorem IsObjectText.head?_ne (h : IsObjectText o) : o.head? ≠ some '\ufeff' := by
  rw [h.brace]
  decide

theorem IsObjectText.skipSpace_append (h : IsObjectText o) (tail : List Char) :
    skipSpace (o ++ tail) = o ++ tail := by
  obtain ⟨rest, rfl⟩ := h.eq_cons
  rfl

/-- What an object is read as by itself: a value with white space after it, or a problem that is no
matter of form. -/
theorem IsObjectText.read_cases (h : IsObjectText o) :
    (∃ value rest, readValue (o.length + 1) depthLimit o = .ok (value, rest) ∧
      (∀ c ∈ rest, isSpace c = true) ∧ read o = .ok value) ∨
    ∃ problem, readValue (o.length + 1) depthLimit o = .error problem ∧
      read o = .error problem ∧ ∀ reason left, problem ≠ .malformed reason left := by
  have hskip : skipSpace o = o := by simpa using h.skipSpace_append []
  cases hread : readValue (o.length + 1) depthLimit o with
  | error problem =>
    have hproblem := read_of_error h.head?_ne (by rw [hskip, hread])
    refine .inr ⟨problem, rfl, hproblem, fun reason left hmalformed => ?_⟩
    exact h.wellFormed reason left (hmalformed ▸ hproblem)
  | ok result =>
    obtain ⟨value, rest⟩ := result
    by_cases hrest : skipSpace rest = []
    · exact .inl ⟨value, rest, rfl, forall_isSpace_of_skipSpace hrest,
        read_of_ok h.head?_ne (by rw [hskip, hread]) hrest⟩
    · have hextra := read_of_value h.head?_ne (by rw [hskip, hread])
      rw [if_neg hrest] at hextra
      exact absurd hextra (h.wellFormed _ _)

theorem Pads.refl (s : List Char) : Pads s s :=
  ⟨[], [], List.forall_mem_nil _, List.forall_mem_nil _, (List.append_nil s).symm⟩

theorem Pads.head?_ne (h : Pads s alone) (hs : s ≠ []) (hmark : s.head? ≠ some '\ufeff') :
    alone.head? ≠ some '\ufeff' := by
  obtain ⟨before, after, hbefore, -, rfl⟩ := h
  cases before with
  | nil => rwa [List.nil_append, List.head?_append_of_ne_nil s hs]
  | cons c rest =>
    intro hc
    have hspace := hbefore c List.mem_cons_self
    rw [Option.some.inj hc] at hspace
    cases hspace

/-- White space around an object says nothing. -/
theorem read_padded (h : IsObjectText o) (halone : Pads o alone) : read alone = read o := by
  have hmark : alone.head? ≠ some '\ufeff' := halone.head?_ne h.ne_nil h.head?_ne
  obtain ⟨before, after, hbefore, hafter, rfl⟩ := halone
  have hskip : skipSpace (before ++ (o ++ after)) = o ++ after := by
    rw [skipSpace_spaces hbefore, h.skipSpace_append]
  have hfuel : o.length + 1 ≤ (before ++ (o ++ after)).length + 1 := by
    simp only [List.length_append]
    omega
  have hcarries : Carries 0 after (readValue (o.length + 1) depthLimit o) _ :=
    readValue_carries (endsValue_of_spaces hafter) hfuel (Nat.add_zero depthLimit).symm o
  rcases h.read_cases with ⟨value, rest, hvalue, hrest, hread⟩ | ⟨problem, hvalue, hread, hform⟩
  · rw [hvalue] at hcarries
    have hresult := hcarries.of_ok.resolve_right fun hlost => hlost.1 rfl
    have hempty : skipSpace (rest ++ after) = [] := by
      rw [skipSpace_spaces hrest, skipSpace_eq_nil hafter]
    rw [hread, read_of_ok hmark (by rw [hskip, hresult]) hempty]
  · rw [hvalue] at hcarries
    have hresult := (hcarries.of_error hform).resolve_right fun hlost => hlost.1 rfl
    rw [hread, read_of_error hmark (by rw [hskip, hresult])]

/-- In an array an object is read as an item, with one container less to be opened. -/
theorem IsObjectText.readValue_inArray {before : List Char} (h : IsObjectText o)
    (hbefore : ∀ c ∈ before, isSpace c = true) (tail : List Char) (fuel depth : Nat) :
    readValue (fuel + 1) (depth + 1) ('[' :: (before ++ (o ++ tail))) =
      readItems fuel depth [] (o ++ tail) := by
  have hopen : skipSpace (before ++ (o ++ tail)) = o ++ tail := by
    rw [skipSpace_spaces hbefore, h.skipSpace_append]
  obtain ⟨rest, rfl⟩ := h.eq_cons
  rw [readValue_bracket hopen (by decide)]
  rfl

/-- An object in an array is the only item of it, unless that is one container too many. -/
theorem read_singleton (h : IsObjectText o) (hinner : Pads o inner)
    (harray : Pads (inArray inner) array) :
    (∃ value, read o = .ok value ∧ read array = .ok (.array [value])) ∨
    (∃ problem, read o = .error problem ∧ read array = .error problem) ∨
    ∃ isArray, read array = .error (.tooDeep isArray) := by
  have hmark : array.head? ≠ some '\ufeff' :=
    harray.head?_ne (List.cons_ne_nil _ _) (by simp [inArray])
  obtain ⟨before, after, hbefore, hafter, rfl⟩ := hinner
  obtain ⟨first, last, hfirst, hlast, harray⟩ := harray
  have hskip : skipSpace array = '[' :: (before ++ (o ++ (after ++ ']' :: last))) := by
    rw [harray, skipSpace_spaces hfirst]
    simp [inArray, skipSpace, isSpace]
  obtain ⟨fuel, hlength, hfuel⟩ : ∃ fuel, array.length = fuel + 1 ∧ o.length + 1 ≤ fuel := by
    refine ⟨array.length - 1, ?_⟩
    rw [harray]
    simp only [inArray, List.length_append, List.length_cons]
    omega
  have hlimit : depthLimit = 989 + 1 := rfl
  have hitems : readValue (array.length + 1) depthLimit (skipSpace array) =
      readItems (fuel + 1) 989 [] (o ++ (after ++ ']' :: last)) := by
    rw [hskip, hlength, hlimit, h.readValue_inArray hbefore]
  have hcarries : Carries 1 (after ++ ']' :: last) (readValue (o.length + 1) depthLimit o) _ :=
    readValue_carries (endsValue_closing hafter last) hfuel hlimit o
  rcases h.read_cases with ⟨value, rest, hvalue, hrest, hread⟩ | ⟨problem, hvalue, hread, hform⟩
  · rw [hvalue] at hcarries
    rcases hcarries.of_ok with hresult | ⟨-, isArray, hresult⟩
    · have hclose : skipSpace (rest ++ (after ++ ']' :: last)) = ']' :: last := by
        rw [skipSpace_spaces hrest, skipSpace_spaces hafter]
        rfl
      have harray : read array = .ok (.array [value]) :=
        read_of_ok hmark (hitems.trans (readItems_last hresult hclose)) (skipSpace_eq_nil hlast)
      exact .inl ⟨value, hread, harray⟩
    · exact .inr (.inr ⟨isArray, read_of_error hmark (hitems.trans (readItems_of_error hresult))⟩)
  · rw [hvalue] at hcarries
    rcases hcarries.of_error hform with hresult | ⟨-, isArray, hresult⟩
    · exact .inr (.inl ⟨problem, hread,
        read_of_error hmark (hitems.trans (readItems_of_error hresult))⟩)
    · exact .inr (.inr ⟨isArray, read_of_error hmark (hitems.trans (readItems_of_error hresult))⟩)

end TableTalk.Json
