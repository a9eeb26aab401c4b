import Mathlib.Data.List.TakeWhile
import Mathlib.Tactic.Ring
import TableTalk.Number.Numeral
import TableTalk.Proofs.Except
import TableTalk.Proofs.Number.Decimal

/-! Integer literals: which texts have the form of one, and that reading a text as a number fails
for no other reason than a literal with too many digits. -/
namespace TableTalk.Number
open TableTalk.Text

/-- What may stand before the digits of a number. -/
def signs : List (List Char) := [[], ['-'], ['+']]

/-- Between white space, a sign or none and then so many digits of any script. -/
def IsLiteral (s : List Char) (count : Nat) : Prop :=
  ∃ sign ∈ signs, ∃ digits, trim s = sign ++ digits ∧ (∀ c ∈ digits, isDigit c = true) ∧
    digits.length = count

theorem dropWhile_eq_self {p : Char → Bool} {s : List Char} (h : ∀ c ∈ s, p c = false) :
    s.dropWhile p = s :=
  List.dropWhile_eq_self_iff.mpr fun hpos => by simp [h _ (List.getElem_mem hpos)]

theorem reverse_dropWhile_reverse_eq_self {p : Char → Bool} {s : List Char}
    (h : ∀ c ∈ s, p c = false) : (s.reverse.dropWhile p).reverse = s := by
  rw [dropWhile_eq_self (by simpa using h), List.reverse_reverse]

theorem trim_eq_self {s : List Char} (h : ∀ c ∈ s, isBlank c = false) : trim s = s := by
  rw [trim, trimStart, trimEnd, dropWhile_eq_self h, reverse_dropWhile_reverse_eq_self h]

theorem infix_trim (s : List Char) : trim s <:+: s := by
  have hend (s : List Char) : trimEnd s <+: s := by
    rw [trimEnd, ← List.reverse_suffix, List.reverse_reverse]
    exact List.dropWhile_suffix isBlank
  exact (hend (trimStart s)).isInfix.trans (List.dropWhile_suffix isBlank).isInfix

theorem mem_trim {s : List Char} {c : Char} (hc : c ∈ s) (hblank : isBlank c = false) :
    c ∈ trim s := by
  have hkept {s : List Char} (hc : c ∈ s) : c ∈ s.dropWhile isBlank := by
    rw [← List.takeWhile_append_dropWhile (p := isBlank) (l := s), List.mem_append] at hc
    rcases hc with htaken | hdropped
    · rw [List.mem_takeWhile_imp htaken] at hblank
      cases hblank
    · exact hdropped
  rw [trim, trimEnd, List.mem_reverse]
  exact hkept (List.mem_reverse.mpr (hkept hc))

/-- A text keeps its first character if that is not blank. -/
theorem trim_cons {c : Char} (hc : isBlank c = false) (s : List Char) :
    ∃ after, trim (c :: s) = c :: after := by
  rw [trim, trimStart, List.dropWhile_cons_of_neg (by simp [hc]), trimEnd, List.reverse_cons,
    List.dropWhile_append]
  split
  · exact ⟨[], by simp [hc]⟩
  · exact ⟨_, by rw [List.reverse_append, List.reverse_singleton, List.singleton_append]⟩

theorem IsLiteral.le_length {s : List Char} {count : Nat} (h : IsLiteral s count) :
    count ≤ s.length := by
  obtain ⟨sign, -, digits, htrim, -, rfl⟩ := h
  have hlength := (infix_trim s).length_le
  rw [htrim, List.length_append] at hlength
  omega

theorem exists_sign (s : List Char) : ∃ sign ∈ signs, s = sign ++ (splitSign s).2 := by
  unfold splitSign
  split
  · exact ⟨['-'], by decide, rfl⟩
  · exact ⟨['+'], by decide, rfl⟩
  · exact ⟨[], by decide, rfl⟩

/-- A sign is split from what follows it, if that does not begin with another one. -/
theorem splitSign_signed {sign rest : List Char} (hsign : sign ∈ signs)
    (hrest : ∀ c ∈ rest.head?, c ≠ '-' ∧ c ≠ '+') :
    splitSign (sign ++ rest) = (decide (sign = ['-']), rest) := by
  simp only [signs, List.mem_cons, List.not_mem_nil, or_false] at hsign
  rcases hsign with rfl | rfl | rfl
  · cases rest with
    | nil => rfl
    | cons c rest =>
      obtain ⟨hminus, hplus⟩ := hrest c rfl
      simp [splitSign, hminus, hplus]
  · rfl
  · rfl

theorem ne_sign_of_isDigit {c : Char} (h : isDigit c = true) : c ≠ '-' ∧ c ≠ '+' := by
  constructor <;> rintro rfl <;> exact absurd h (by decide)

theorem splitSign_append {sign digits : List Char} (hsign : sign ∈ signs)
    (hdigits : ∀ c ∈ digits, isDigit c = true) : (splitSign (sign ++ digits)).2 = digits := by
  rw [splitSign_signed hsign fun c hc => ne_sign_of_isDigit (hdigits c (List.mem_of_mem_head? hc))]

theorem length_filterMap_digitValue? {digits : List Char}
    (h : ∀ c ∈ digits, isDigit c = true) :
    (digits.filterMap digitValue?).length = digits.length := by
  induction digits with
  | nil => rfl
  | cons c rest ih =>
    rw [List.forall_mem_cons] at h
    obtain ⟨v, hv⟩ := Option.isSome_iff_exists.mp h.1
    simp [hv, ih h.2]

/-- Nothing is left after the digits at the start of a text that holds only digits. -/
theorem spanDigits_snd_eq_nil_iff {s : List Char} :
    (spanDigits s).2 = [] ↔ ∀ c ∈ s, isDigit c = true := by
  rw [spanDigits, List.dropWhile_eq_nil_iff]

theorem length_spanDigits {s : List Char} (h : ∀ c ∈ s, isDigit c = true) :
    (spanDigits s).1.length = s.length := by
  rw [spanDigits, List.takeWhile_eq_self_iff.mpr h, length_filterMap_digitValue? h]

theorem readInteger_eq_error_iff {negative : Bool} {digits : List Nat} {fault : Fault} :
    readInteger negative digits = .error fault ↔
      digitLimit < digits.length ∧ fault = .literalTooLong digits.length := by
  unfold readInteger
  split
  case isTrue h => simp [h, eq_comm]
  case isFalse h => simp [h]

theorem underscore_not_mem {sign digits : List Char} (hsign : sign ∈ signs)
    (hdigits : ∀ c ∈ digits, isDigit c = true) : '_' ∉ sign ++ digits := by
  rw [List.mem_append, not_or]
  constructor
  · simp only [signs, List.mem_cons, List.not_mem_nil, or_false] at hsign
    rcases hsign with rfl | rfl | rfl <;> decide
  · exact fun hmem => absurd (hdigits _ hmem) (by decide)

/-- A literal is read as an integer. -/
theorem ofText?_literal {s sign digits : List Char} (hs : trim s = sign ++ digits)
    (hsign : sign ∈ signs) (hdigits : ∀ c ∈ digits, isDigit c = true) (hne : digits ≠ []) :
    ofText? s = readInteger (splitSign (trim s)).1 (spanDigits digits).1 >>=
      fun n => .ok (some (.int n)) := by
  have hplain : (trim s).contains '_' = false := by
    simpa [hs] using underscore_not_mem hsign hdigits
  have hrest : (splitSign (trim s)).2 = digits := by rw [hs, splitSign_append hsign hdigits]
  have hlength : (spanDigits digits).1.length ≠ 0 := by
    rwa [length_spanDigits hdigits, Ne, List.length_eq_zero_iff]
  have hend := spanDigits_snd_eq_nil_iff.mpr hdigits
  simp only [ofText?, hplain, hrest, Bool.false_eq_true, if_false]
  split
  case h_1 hspan => rw [hspan]; rfl
  case h_2 hspan =>
    cases hvalues : (spanDigits digits).1 with
    | nil => exact absurd (by rw [hvalues]; rfl) hlength
    | cons d values => exact absurd (Prod.ext hvalues hend) (hspan d values)

/-- Only a literal with too many digits cannot be read. -/
theorem ofText?_eq_error_iff {s : List Char} {fault : Fault} :
    ofText? s = .error fault ↔
      ∃ count, IsLiteral s count ∧ digitLimit < count ∧ fault = .literalTooLong count := by
  constructor
  · intro h
    simp only [ofText?] at h
    split at h
    case isTrue => cases h
    case isFalse =>
      split at h
      case h_1 d values hspan =>
        obtain ⟨sign, hsign, hs⟩ := exists_sign (trim s)
        have hdigits := spanDigits_snd_eq_nil_iff.mp (congrArg Prod.snd hspan)
        have hlength := length_spanDigits hdigits
        simp only [hspan, Except.bind_eq_error_iff, readInteger_eq_error_iff] at h hlength
        obtain ⟨hlimit, rfl⟩ | ⟨_, _, hok⟩ := h
        · exact ⟨_, ⟨sign, hsign, _, hs, hdigits, hlength.symm⟩, hlimit, rfl⟩
        · cases hok
      case h_2 =>
        split at h <;> cases h
  · rintro ⟨count, ⟨sign, hsign, digits, hs, hdigits, rfl⟩, hlimit, rfl⟩
    have hne : digits ≠ [] := by
      rintro rfl
      exact absurd hlimit (by decide)
    have herror : readInteger (splitSign (trim s)).1 (spanDigits digits).1 =
        .error (.literalTooLong digits.length) := by
      rw [readInteger_eq_error_iff, length_spanDigits hdigits]
      exact ⟨hlimit, rfl⟩
    rw [ofText?_literal hs hsign hdigits hne, herror]
    rfl

theorem ofDigits_lt {digits : List Nat} (h : ∀ d ∈ digits, d < 10) :
    ofDigits digits < 10 ^ digits.length := by
  -- Each digit read makes room for one more place above the number so far.
  have hfrom (start : Nat) (h : ∀ d ∈ digits, d < 10) :
      digits.foldl (fun n d => 10 * n + d) start < (start + 1) * 10 ^ digits.length := by
    induction digits generalizing start with
    | nil => simp
    | cons d rest ih =>
      rw [List.forall_mem_cons] at h
      calc (d :: rest).foldl (fun n d => 10 * n + d) start
          < (10 * start + d + 1) * 10 ^ rest.length := ih h.2 (10 * start + d) h.2
        _ ≤ ((start + 1) * 10) * 10 ^ rest.length := Nat.mul_le_mul_right _ (by omega)
        _ = (start + 1) * 10 ^ (d :: rest).length := by
            rw [List.length_cons, Nat.pow_succ']
            ring
  simpa [ofDigits] using hfrom 0 h

theorem spanDigits_lt (s : List Char) : ∀ d ∈ (spanDigits s).1, d < 10 := by
  intro d hd
  obtain ⟨c, -, hc⟩ := List.mem_filterMap.mp hd
  exact digitValue?_lt hc

/-- An integer is read from a literal with as many digits as it needs, or more. -/
theorem isLiteral_of_ofText?_int {s : List Char} {n : Int} (h : ofText? s = .ok (some (.int n))) :
    ∃ count, IsLiteral s count ∧ n.natAbs < 10 ^ count := by
  simp only [ofText?] at h
  split at h
  case isTrue => cases h
  case isFalse =>
    split at h
    case h_1 d values hspan =>
      obtain ⟨sign, hsign, hs⟩ := exists_sign (trim s)
      have hdigits := spanDigits_snd_eq_nil_iff.mp (congrArg Prod.snd hspan)
      have hlength := length_spanDigits hdigits
      have hbound := ofDigits_lt (spanDigits_lt (splitSign (trim s)).2)
      simp only [hspan] at hlength hbound
      refine ⟨_, ⟨sign, hsign, _, hs, hdigits, hlength.symm⟩, ?_⟩
      unfold readInteger at h
      split at h
      case isTrue => cases h
      case isFalse =>
        cases h
        rwa [natAbs_signed]
    case h_2 =>
      split at h
      case h_1 => cases h
      case h_2 =>
        simp only [Except.ok.injEq] at h
        split at h <;> cases h

/-- The value of an ASCII digit. -/
theorem digitValue?_of_isAsciiDigit {c : Char} (h : isAsciiDigit c = true) :
    digitValue? c = some (c.toNat - 48) := by
  simp only [isAsciiDigit, Bool.and_eq_true, decide_eq_true_eq] at h
  rw [digitValue?, zeroDigits, digitValueFrom, if_neg (by omega), if_pos (by omega)]

theorem isDigit_of_isAsciiDigit {c : Char} (h : isAsciiDigit c = true) : isDigit c = true := by
  rw [isDigit, digitValue?_of_isAsciiDigit h]
  rfl

/-- The digits end where something else follows. -/
theorem spanDigits_of_stop {digits rest : List Char} (h : ∀ c ∈ digits, isDigit c = true)
    (hrest : ∀ c ∈ rest.head?, isDigit c = false) :
    spanDigits (digits ++ rest) = (digits.filterMap digitValue?, rest) := by
  have hstop : rest.takeWhile isDigit = [] ∧ rest.dropWhile isDigit = rest := by
    cases rest with
    | nil => exact ⟨rfl, rfl⟩
    | cons c rest => simp [hrest c rfl]
  rw [spanDigits, List.takeWhile_append_of_pos h, List.dropWhile_append_of_pos h,
    hstop.1, hstop.2, List.append_nil]

theorem spanDigits_append {digits rest : List Char} (h : ∀ c ∈ digits, isAsciiDigit c = true)
    (hrest : ∀ c ∈ rest.head?, isDigit c = false) :
    spanDigits (digits ++ rest) = (digits.map fun c => c.toNat - 48, rest) := by
  have hvalues : digits.filterMap digitValue? = digits.map fun c => c.toNat - 48 := by
    rw [← List.filterMap_eq_map]
    exact List.filterMap_congr fun c hc => digitValue?_of_isAsciiDigit (h c hc)
  rw [spanDigits_of_stop (fun c hc => isDigit_of_isAsciiDigit (h c hc)) hrest, hvalues]

theorem spanDigits_ascii {digits : List Char} (h : ∀ c ∈ digits, isAsciiDigit c = true) :
    spanDigits digits = (digits.map fun c => c.toNat - 48, []) := by
  have hspan := spanDigits_append h (show ∀ c ∈ [].head?, isDigit c = false by simp)
  rwa [List.append_nil] at hspan

theorem splitSign_of_isAsciiDigit {c : Char} (h : isAsciiDigit c = true) (rest : List Char) :
    splitSign (c :: rest) = (false, c :: rest) := by
  have hminus : c ≠ '-' := by rintro rfl; exact absurd h (by decide)
  have hplus : c ≠ '+' := by rintro rfl; exact absurd h (by decide)
  simp [splitSign, hminus, hplus]

theorem isBlank_of_isAsciiDigit {c : Char} (h : isAsciiDigit c = true) : isBlank c = false := by
  simp only [isAsciiDigit, Bool.and_eq_true, decide_eq_true_eq] at h
  simp only [isBlank, blankRanges, inRanges]
  grind

theorem integerText_toList (n : Int) :
    (integerText n).toList = (if n < 0 then ['-'] else []) ++ Nat.toDigits 10 n.natAbs := by
  unfold integerText naturalText
  split <;> simp

/-- The decimal text of an integer within the limit is read as this integer. -/
theorem ofText?_integerText {n : Int} (h : n.natAbs < 10 ^ digitLimit) :
    ofText? (integerText n).toList = .ok (some (.int n)) := by
  have hascii := isAsciiDigit_of_mem_toDigits (n := n.natAbs)
  have hdigits : ∀ c ∈ Nat.toDigits 10 n.natAbs, isDigit c = true :=
    fun c hc => isDigit_of_isAsciiDigit (hascii c hc)
  have hlength : (Nat.toDigits 10 n.natAbs).length ≤ digitLimit :=
    (Nat.length_toDigits_le_iff (by decide) (by decide)).mpr h
  have hread (negative : Bool) :
      readInteger negative (spanDigits (Nat.toDigits 10 n.natAbs)).1 =
        .ok (signed negative n.natAbs) := by
    rw [spanDigits_ascii hascii, readInteger, if_neg (by rw [List.length_map]; omega),
      ofDigits_toDigits]
  have htrim : trim (integerText n).toList =
      (if n < 0 then ['-'] else []) ++ Nat.toDigits 10 n.natAbs := by
    rw [integerText_toList]
    apply trim_eq_self
    intro c hc
    rcases List.mem_append.mp hc with hsign | hdigit
    · split at hsign
      · rw [List.mem_singleton.mp hsign]
        decide
      · cases hsign
    · exact isBlank_of_isAsciiDigit (hascii c hdigit)
  have hsign : signed (splitSign (trim (integerText n).toList)).1 n.natAbs = n := by
    rw [htrim]
    by_cases hneg : n < 0
    · rw [if_pos hneg, List.singleton_append, splitSign, signed, if_pos rfl]
      omega
    · obtain ⟨c, rest, hcons, hc⟩ := exists_toDigits_eq_cons n.natAbs
      rw [if_neg hneg, List.nil_append, hcons, splitSign_of_isAsciiDigit hc, signed,
        if_neg Bool.false_ne_true]
      omega
  rw [ofText?_literal htrim (by split <;> decide) hdigits Nat.toDigits_ne_nil, hread, hsign]
  rfl

section Dashed
variable {c : Char} {digits rest : List Char}

theorem spanDigits_dashed (h : ∀ d ∈ digits, isAsciiDigit d = true) :
    spanDigits (digits ++ '-' :: rest) = (digits.map fun d => d.toNat - 48, '-' :: rest) := by
  refine spanDigits_append h fun d hd => ?_
  cases hd
  decide

/-- A numeral does not go on with a dash. -/
theorem readNumeral?_dashed (h : ∀ d ∈ c :: digits, isAsciiDigit d = true) :
    readNumeral? (c :: digits ++ '-' :: rest) = none := by
  have hspan : spanDigits (c :: digits ++ '-' :: rest) = _ := spanDigits_dashed h
  rw [List.cons_append] at hspan ⊢
  rw [readNumeral?, splitSign_of_isAsciiDigit (h c List.mem_cons_self)]
  simp [hspan, readExponent?]

theorem ofText?_dashed (h : ∀ d ∈ c :: digits, isAsciiDigit d = true)
    (hblank : ∀ d ∈ c :: digits ++ '-' :: rest, isBlank d = false)
    (hunderscore : '_' ∉ c :: digits ++ '-' :: rest) :
    ofText? (c :: digits ++ '-' :: rest) = .ok none := by
  have hnumeral : readNumeral? (c :: digits ++ '-' :: rest) = none := readNumeral?_dashed h
  have hspan : spanDigits (c :: digits ++ '-' :: rest) = _ := spanDigits_dashed h
  rw [ofText?, trim_eq_self hblank, List.contains_eq_mem, decide_eq_false hunderscore]
  rw [List.cons_append] at hspan hnumeral ⊢
  rw [splitSign_of_isAsciiDigit (h c List.mem_cons_self)]
  simp [hspan, hnumeral]

end Dashed

end TableTalk.Number
