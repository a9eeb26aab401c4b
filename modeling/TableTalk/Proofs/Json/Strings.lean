import Mathlib.Data.List.Chain
import TableTalk.Json.Reader
import TableTalk.Json.Writer
import TableTalk.Proofs.Except
import TableTalk.Proofs.Text.Symbols

/-! Strings in JSON texts. What was written of a string is read back, except that a high half right
before a low half would be read as the character they make. -/
namespace TableTalk.Json
open TableTalk.Text

/-- A half is one of a surrogate pair. -/
def IsProper : Symbol → Prop
  | .char _ => True
  | .half unit => isHighHalf unit = true ∨ isLowHalf unit = true

/-- Two symbols that are written like one character. -/
def Joins : Symbol → Symbol → Prop
  | .half high, .half low => isHighHalf high = true ∧ isLowHalf low = true
  | _, _ => False

instance : DecidablePred IsProper
  | .char _ => inferInstanceAs (Decidable True)
  | .half _ => inferInstanceAs (Decidable (_ ∨ _))

instance : DecidableRel Joins
  | .half _, .half _ => inferInstanceAs (Decidable (_ ∧ _))
  | .char _, _ | .half _, .char _ => inferInstanceAs (Decidable False)

structure IsJoined (text : Symbols) : Prop where
  proper : ∀ symbol ∈ text, IsProper symbol
  joined : text.IsChain (fun symbol next => ¬ Joins symbol next)

/-- The four digits of a code unit. -/
def unitDigits (unit : Nat) : List Char := (unitEscape unit).drop 2

variable {unit : Nat} {rest : List Char}

theorem unitEscape_eq (unit : Nat) : unitEscape unit = '\\' :: 'u' :: unitDigits unit := rfl

theorem isHighHalf_iff : isHighHalf unit = true ↔ 0xD800 ≤ unit ∧ unit < 0xDC00 := by
  rw [isHighHalf, Bool.and_eq_true, decide_eq_true_iff, decide_eq_true_iff]

theorem isLowHalf_iff : isLowHalf unit = true ↔ 0xDC00 ≤ unit ∧ unit < 0xE000 := by
  rw [isLowHalf, Bool.and_eq_true, decide_eq_true_iff, decide_eq_true_iff]

theorem toNat_valid (c : Char) :
    c.toNat < 0xD800 ∨ (0xDFFF < c.toNat ∧ c.toNat < 0x110000) := c.valid

theorem hexValue?_hexDigit {n : Nat} (h : n < 16) : hexValue? (hexDigit n) = some n := by
  have hall : ∀ m < 16, hexValue? (hexDigit m) = some m := by decide
  exact hall n h

theorem unit?_unitDigits (h : unit < 0x10000) : unit? (unitDigits unit) = some unit := by
  have hsum : 4096 * (unit / 4096 % 16) + 256 * (unit / 256 % 16) + 16 * (unit / 16 % 16) +
      unit % 16 = unit := by omega
  have hdigit (n : Nat) : hexValue? (hexDigit (n % 16)) = some (n % 16) :=
    hexValue?_hexDigit (Nat.mod_lt n (by decide))
  simp only [unitDigits, unitEscape, List.drop_succ_cons, List.drop_zero, unit?, hdigit,
    Option.bind_eq_bind, Option.bind_some, Option.pure_def, hsum]

theorem readUnit_unitDigits (h : unit < 0x10000) (hrest : rest ≠ []) :
    readUnit ('u' :: (unitDigits unit ++ rest)) = .ok (unit, rest) := by
  have htake : (unitDigits unit ++ rest).take 4 = unitDigits unit := List.take_left' rfl
  have hdrop : (unitDigits unit ++ rest).drop 4 = rest := List.drop_left' rfl
  have hempty : rest.isEmpty = false := by simpa using hrest
  simp only [readUnit, List.drop_succ_cons, List.drop_zero, htake, hdrop, hempty,
    Bool.false_eq_true, if_false, unit?_unitDigits h]

theorem readEscapedUnit_of_not_high (h : unit < 0x10000) (hhigh : isHighHalf unit = false)
    (hrest : rest ≠ []) :
    readEscapedUnit ('u' :: (unitDigits unit ++ rest)) = .ok (symbolOfUnit unit, rest) := by
  simp only [readEscapedUnit, readUnit_unitDigits h hrest, Except.ok_bind, hhigh,
    Bool.false_eq_true, if_false]
  rfl

theorem readEscapedUnit_high (hhigh : isHighHalf unit = true) (hrest : rest ≠ [])
    (hlow : readLowHalf rest = .ok none) :
    readEscapedUnit ('u' :: (unitDigits unit ++ rest)) = .ok (.half unit, rest) := by
  have hunit : unit < 0x10000 := by
    rw [isHighHalf_iff] at hhigh
    omega
  simp only [readEscapedUnit, readUnit_unitDigits hunit hrest, Except.ok_bind, hhigh, if_true, hlow]
  rfl

theorem readLowHalf_escape (h : unit < 0x10000) (hrest : rest ≠ []) :
    readLowHalf (unitEscape unit ++ rest) =
      .ok (if isLowHalf unit then some (unit, rest) else none) := by
  have hdrop : (unitDigits unit ++ rest).drop 4 = rest := List.drop_left' rfl
  have hempty : rest.isEmpty = false := by simpa using hrest
  simp only [unitEscape_eq, List.cons_append, readLowHalf, hdrop, hempty, Bool.false_eq_true,
    if_false, readUnit_unitDigits h hrest, Except.ok_bind]
  rfl

/-- The character that two halves make. -/
def joinHalves (high low : Nat) : Char :=
  Char.ofNat (0x10000 + 1024 * (high - 0xD800) + (low - 0xDC00))

theorem readEscapedUnit_halves {high low : Nat} (hhigh : isHighHalf high = true)
    (hlow : isLowHalf low = true) (hrest : rest ≠ []) :
    readEscapedUnit ('u' :: (unitDigits high ++ (unitEscape low ++ rest))) =
      .ok (.char (joinHalves high low), rest) := by
  have hhighUnit : high < 0x10000 := by
    rw [isHighHalf_iff] at hhigh
    omega
  have hlowUnit : low < 0x10000 := by
    rw [isLowHalf_iff] at hlow
    omega
  have hnext : unitEscape low ++ rest ≠ [] := by simp [unitEscape]
  simp only [readEscapedUnit, readUnit_unitDigits hhighUnit hnext, Except.ok_bind, hhigh, if_true,
    readLowHalf_escape hlowUnit hrest, hlow]
  rfl

/-- A character beyond 16 bits is made of its halves. -/
theorem joinHalves_of_char {c : Char} (h : 0x10000 ≤ c.toNat) :
    isHighHalf (highHalf c.toNat) = true ∧ isLowHalf (lowHalf c.toNat) = true ∧
      joinHalves (highHalf c.toNat) (lowHalf c.toNat) = c := by
  have hvalid := toNat_valid c
  refine ⟨?_, ?_, ?_⟩
  · rw [isHighHalf_iff, highHalf]
    omega
  · rw [isLowHalf_iff, lowHalf]
    omega
  · have hcode : 0x10000 + 1024 * (highHalf c.toNat - 0xD800) + (lowHalf c.toNat - 0xDC00) =
        c.toNat := by
      unfold highHalf lowHalf
      omega
    rw [joinHalves, hcode, Char.ofNat_toNat]

theorem symbolOfUnit_toNat (c : Char) : symbolOfUnit c.toNat = .char c ∧
    isHighHalf c.toNat = false ∧ isLowHalf c.toNat = false := by
  have hvalid := toNat_valid c
  have hhigh : isHighHalf c.toNat = false := by
    rw [← Bool.not_eq_true, isHighHalf_iff]
    omega
  have hlow : isLowHalf c.toNat = false := by
    rw [← Bool.not_eq_true, isLowHalf_iff]
    omega
  simp [symbolOfUnit, hhigh, hlow]

variable {start : List Char} {read : Symbols}

theorem readStringFrom_unit {symbol : Symbol} (fuel : Nat)
    (h : readEscapedUnit ('u' :: (unitDigits unit ++ rest)) = .ok (symbol, rest)) :
    readStringFrom start (fuel + 1) read (unitEscape unit ++ rest) =
      readStringFrom start fuel (symbol :: read) rest := by
  simp only [unitEscape_eq, List.cons_append, readStringFrom, h, Except.ok_bind]

theorem readStringFrom_escape {c e : Char} (fuel : Nat) (hc : c ≠ 'u')
    (h : simpleEscape? c = some e) :
    readStringFrom start (fuel + 1) read ('\\' :: c :: rest) =
      readStringFrom start fuel (.char e :: read) rest := by
  simp only [readStringFrom, h]

theorem readStringFrom_cons {c : Char} (fuel : Nat) (hquote : c ≠ '"') (hslash : c ≠ '\\')
    (hcontrol : 32 ≤ c.toNat) :
    readStringFrom start (fuel + 1) read (c :: rest) =
      readStringFrom start fuel (.char c :: read) rest := by
  rw [readStringFrom, if_neg (by omega)]
  · exact hquote
  · exact hslash

/-- The ways to write a character. -/
inductive WrittenAs (c : Char) : List Char → Prop where
  | escape {e : Char} (h : simpleEscape? e = some c) (hascii : e.toNat < 128) :
      WrittenAs c ['\\', e]
  | plain (hquote : c ≠ '"') (hslash : c ≠ '\\') (hcode : 32 ≤ c.toNat ∧ c.toNat < 127) :
      WrittenAs c [c]
  | unit (h : c.toNat < 0x10000) : WrittenAs c (unitEscape c.toNat)
  | halves (h : 0x10000 ≤ c.toNat) :
      WrittenAs c (unitEscape (highHalf c.toNat) ++ unitEscape (lowHalf c.toNat))

theorem writtenAs_writeChar (c : Char) : WrittenAs c (writeChar c) := by
  have hcode {n : Nat} (hn : c.toNat = n) : c = Char.ofNat n := by rw [← hn, Char.ofNat_toNat]
  have hescape {e d : Char} (hd : c = d) (he : simpleEscape? e = some d)
      (hascii : e.toNat < 128) : WrittenAs c ['\\', e] := by
    rw [hd]
    exact .escape he hascii
  unfold writeChar
  split_ifs with hquote hslash hfeed hreturn htab hback hform hplain hshort
  · exact hescape hquote rfl (by decide)
  · exact hescape hslash rfl (by decide)
  · exact hescape hfeed rfl (by decide)
  · exact hescape hreturn rfl (by decide)
  · exact hescape htab rfl (by decide)
  · exact hescape (hcode hback) rfl (by decide)
  · exact hescape (hcode hform) rfl (by decide)
  · exact .plain hquote hslash hplain
  · exact .unit hshort
  · exact .halves (by omega)

/-- A written character is read, whatever comes after it. -/
theorem readStringFrom_writeChar (c : Char) (hrest : rest ≠ []) (fuel : Nat) :
    readStringFrom start (fuel + 1) read (writeChar c ++ rest) =
      readStringFrom start fuel (.char c :: read) rest := by
  have hwritten := writtenAs_writeChar c
  generalize writeChar c = written at hwritten ⊢
  cases hwritten with
  | escape h _ =>
    apply readStringFrom_escape fuel _ h
    rintro rfl
    cases h
  | plain hquote hslash hcode => exact readStringFrom_cons fuel hquote hslash hcode.1
  | unit h =>
    obtain ⟨hsymbol, hhigh, -⟩ := symbolOfUnit_toNat c
    apply readStringFrom_unit
    rw [readEscapedUnit_of_not_high h hhigh hrest, hsymbol]
  | halves h =>
    obtain ⟨hhigh, hlow, hjoined⟩ := joinHalves_of_char h
    have hread := readEscapedUnit_halves hhigh hlow hrest
    rw [hjoined] at hread
    simp only [unitEscape_eq (highHalf c.toNat), List.append_assoc, List.cons_append,
      readStringFrom, hread, Except.ok_bind]

theorem isLowHalf_of_isHighHalf (h : isHighHalf unit = true) : isLowHalf unit = false := by
  rw [← Bool.not_eq_true, isLowHalf_iff]
  rw [isHighHalf_iff] at h
  omega

/-- No character is written like a low half. -/
theorem readLowHalf_writeChar (c : Char) (hrest : rest ≠ []) :
    readLowHalf (writeChar c ++ rest) = .ok none := by
  have hwritten := writtenAs_writeChar c
  generalize writeChar c = written at hwritten ⊢
  cases hwritten with
  | @escape e h _ =>
    have hu : e ≠ 'u' := by
      rintro rfl
      cases h
    unfold readLowHalf
    split
    case h_1 heq => exact absurd (List.cons.inj (List.cons.inj heq).2).1 hu
    case h_2 => rfl
  | plain _ hslash _ =>
    unfold readLowHalf
    split
    case h_1 heq => exact absurd (List.cons.inj heq).1 hslash
    case h_2 => rfl
  | unit h =>
    rw [readLowHalf_escape h hrest, (symbolOfUnit_toNat c).2.2]
    rfl
  | halves h =>
    obtain ⟨hhigh, -, -⟩ := joinHalves_of_char h
    have hunit := isHighHalf_iff.mp hhigh
    have hnext : unitEscape (lowHalf c.toNat) ++ rest ≠ [] := by simp [unitEscape]
    rw [List.append_assoc, readLowHalf_escape (by omega) hnext, isLowHalf_of_isHighHalf hhigh]
    rfl

/-- A half is read as such unless it is a high one and a low one follows. -/
theorem readStringFrom_half (hhalf : isHighHalf unit = true ∨ isLowHalf unit = true)
    (hnext : isHighHalf unit = true → readLowHalf rest = .ok none) (hrest : rest ≠ [])
    (fuel : Nat) :
    readStringFrom start (fuel + 1) read (unitEscape unit ++ rest) =
      readStringFrom start fuel (.half unit :: read) rest := by
  apply readStringFrom_unit
  by_cases hhigh : isHighHalf unit = true
  · exact readEscapedUnit_high hhigh hrest (hnext hhigh)
  · have hlow : isLowHalf unit = true := hhalf.resolve_left hhigh
    have hunit := isLowHalf_iff.mp hlow
    rw [readEscapedUnit_of_not_high (by omega) (by simpa using hhigh) hrest, symbolOfUnit, hlow,
      Bool.or_true, if_pos rfl]

/-- What follows a high half in a joined string is not read as its low half. -/
theorem readLowHalf_joined {text : Symbols} (hunit : isHighHalf unit = true)
    (h : IsJoined (.half unit :: text)) (rest : List Char) :
    readLowHalf (text.flatMap writeSymbol ++ '"' :: rest) = .ok none := by
  obtain ⟨hproper, hjoined⟩ := h
  cases text with
  | nil => rfl
  | cons next more =>
    have hrest : more.flatMap writeSymbol ++ '"' :: rest ≠ [] := by simp
    rw [List.flatMap_cons, List.append_assoc]
    cases next with
    | char c => exact readLowHalf_writeChar c hrest
    | half other =>
      have hother : isHighHalf other = true ∨ isLowHalf other = true :=
        hproper (.half other) (by simp)
      have hlow : ¬ isLowHalf other = true :=
        fun hlow => (List.isChain_cons_cons.mp hjoined).1 ⟨hunit, hlow⟩
      have hhigh := isHighHalf_iff.mp (hother.resolve_right hlow)
      rw [writeSymbol, readLowHalf_escape (by omega) hrest, if_neg hlow]

theorem IsJoined.tail {symbol : Symbol} {text : Symbols} (h : IsJoined (symbol :: text)) :
    IsJoined text :=
  ⟨fun other hother => h.proper other (List.mem_cons_of_mem symbol hother), h.joined.tail⟩

theorem readStringFrom_writeSymbols {text : Symbols} (h : IsJoined text) (rest : List Char)
    {fuel : Nat} (hfuel : text.length < fuel) (read : Symbols) :
    readStringFrom start fuel read (text.flatMap writeSymbol ++ '"' :: rest) =
      .ok (read.reverse ++ text, rest) := by
  induction text generalizing fuel read with
  | nil =>
    obtain ⟨fuel, rfl⟩ := Nat.exists_eq_succ_of_ne_zero (Nat.ne_of_gt hfuel)
    simp [readStringFrom]
  | cons symbol text ih =>
    obtain ⟨fuel, rfl⟩ := Nat.exists_eq_succ_of_ne_zero (Nat.ne_of_gt (Nat.zero_lt_of_lt hfuel))
    have hrest : text.flatMap writeSymbol ++ '"' :: rest ≠ [] := by simp
    have hstep : readStringFrom start (fuel + 1) read
        (writeSymbol symbol ++ (text.flatMap writeSymbol ++ '"' :: rest)) =
        readStringFrom start fuel (symbol :: read) (text.flatMap writeSymbol ++ '"' :: rest) := by
      cases symbol with
      | char c => exact readStringFrom_writeChar c hrest fuel
      | half unit =>
        exact readStringFrom_half (h.proper (.half unit) List.mem_cons_self)
          (fun hunit => readLowHalf_joined hunit h rest) hrest fuel
    rw [List.flatMap_cons, List.append_assoc, hstep, ih h.tail (by simpa using hfuel)]
    simp

theorem length_le_flatMap_writeSymbol (text : Symbols) :
    text.length ≤ (text.flatMap writeSymbol).length := by
  have hsymbol (symbol : Symbol) : 0 < (writeSymbol symbol).length := by
    cases symbol with
    | half unit => exact Nat.zero_lt_succ _
    | char c =>
      have hwritten := writtenAs_writeChar c
      rw [writeSymbol]
      generalize writeChar c = written at hwritten ⊢
      cases hwritten <;> exact Nat.zero_lt_succ _
  induction text with
  | nil => exact Nat.le_refl 0
  | cons symbol text ih =>
    have hfirst := hsymbol symbol
    rw [List.flatMap_cons, List.length_append, List.length_cons]
    omega

/-- A written string is read back. -/
theorem readString_writeString {text : Symbols} (h : IsJoined text) (rest : List Char) :
    readString (writeString text ++ rest) = .ok (text, rest) := by
  have hfuel : text.length < (writeString text ++ rest).length := by
    have hlength := length_le_flatMap_writeSymbol text
    rw [writeString, List.length_append, List.length_cons, List.length_append]
    omega
  have htext : (writeString text ++ rest).drop 1 =
      text.flatMap writeSymbol ++ '"' :: rest := by
    rw [writeString, List.cons_append, List.drop_succ_cons, List.drop_zero, List.append_assoc]
    rfl
  rw [readString, htext, readStringFrom_writeSymbols h rest hfuel]
  rfl

/-- A text of Unicode characters has no halves to be joined. -/
theorem isJoined_of_isWhole {text : Symbols} (h : isWhole text = true) : IsJoined text := by
  have hchar : ∀ symbol ∈ text, ∃ c, symbol = .char c := by
    intro symbol hsymbol
    have hwhole := List.all_eq_true.mp h symbol hsymbol
    cases symbol with
    | char c => exact ⟨c, rfl⟩
    | half unit => cases hwhole
  constructor
  · intro symbol hsymbol
    obtain ⟨c, rfl⟩ := hchar symbol hsymbol
    trivial
  · apply List.Pairwise.isChain
    apply List.pairwise_of_forall_mem_list
    intro symbol hsymbol next _
    obtain ⟨c, rfl⟩ := hchar symbol hsymbol
    exact id

/-- Escapes are made of ASCII characters, and all others are escaped. -/
theorem writeSymbol_ascii (symbol : Symbol) : ∀ c ∈ writeSymbol symbol, c.toNat < 128 := by
  have hunit (unit : Nat) : ∀ c ∈ unitEscape unit, c.toNat < 128 := by
    have hdigit : ∀ n < 16, (hexDigit n).toNat < 128 := by decide
    have hmod (n : Nat) : (hexDigit (n % 16)).toNat < 128 := hdigit _ (Nat.mod_lt n (by decide))
    simp only [unitEscape, List.forall_mem_cons, List.not_mem_nil, false_implies, implies_true,
      and_true, hmod]
    decide
  cases symbol with
  | half unit => exact hunit unit
  | char c =>
    have hwritten := writtenAs_writeChar c
    rw [writeSymbol]
    generalize writeChar c = written at hwritten ⊢
    cases hwritten with
    | escape _ hascii =>
      rw [List.forall_mem_cons, List.forall_mem_singleton]
      exact ⟨by decide, hascii⟩
    | plain _ _ hcode =>
      rw [List.forall_mem_singleton]
      omega
    | unit _ => exact hunit c.toNat
    | halves _ =>
      rw [List.forall_mem_append]
      exact ⟨hunit _, hunit _⟩

theorem writeString_ascii (text : Symbols) : ∀ c ∈ writeString text, c.toNat < 128 := by
  have htext : ∀ c ∈ text.flatMap writeSymbol, c.toNat < 128 := by
    intro c hc
    obtain ⟨symbol, -, hc⟩ := List.mem_flatMap.mp hc
    exact writeSymbol_ascii symbol c hc
  rw [writeString, List.forall_mem_cons, List.forall_mem_append, List.forall_mem_singleton]
  exact ⟨by decide, htext, by decide⟩

end TableTalk.Json
