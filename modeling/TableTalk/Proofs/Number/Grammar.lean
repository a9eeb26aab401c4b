import TableTalk.Cell
import TableTalk.Proofs.Number.Literal
import TableTalk.Proofs.Number.NearestFloat

/-! The grammar of numbers. An integer literal is a sign or none and digits; a decimal has digits
with a point or none, at least one digit in all, and an exponent or none. Each carries what makes it
well formed, its text and its value, and the reader takes a text apart into one of them exactly if
it is the text of one. -/
namespace TableTalk.Number
open TableTalk.Text

/-- The number that digits of any script stand for in base ten. -/
def digitsValue (digits : List Char) : Nat := Nat.ofDigits 10 (digits.reverse.filterMap digitValue?)

theorem ofDigits_filterMap (digits : List Char) :
    ofDigits (digits.filterMap digitValue?) = digitsValue digits := by
  rw [digitsValue, List.filterMap_reverse, Nat.ofDigits_eq_foldr, List.foldr_reverse, ofDigits]
  simp only [Nat.cast_id, Nat.add_comm]

/-- An integer literal: a sign or none, and digits of any script. -/
structure Literal where
  sign : List Char
  digits : List Char
  sign_mem : sign ∈ signs
  isDigit_of_mem : ∀ c ∈ digits, isDigit c = true
  digits_ne_nil : digits ≠ []

namespace Literal

def text (literal : Literal) : List Char := literal.sign ++ literal.digits

def value (literal : Literal) : ℤ :=
  if literal.sign = ['-'] then -digitsValue literal.digits else digitsValue literal.digits

variable (literal : Literal)

theorem splitSign_text : splitSign literal.text = (decide (literal.sign = ['-']), literal.digits) :=
  splitSign_signed literal.sign_mem fun c hc =>
    ne_sign_of_isDigit (literal.isDigit_of_mem c (List.mem_of_mem_head? hc))

theorem spanDigits_digits :
    spanDigits literal.digits = (literal.digits.filterMap digitValue?, []) := by
  simpa using @spanDigits_of_stop literal.digits [] literal.isDigit_of_mem (by simp)

theorem signed_value :
    signed (decide (literal.sign = ['-'])) (ofDigits (literal.digits.filterMap digitValue?)) =
      literal.value := by
  rw [ofDigits_filterMap, signed, value]
  simp only [decide_eq_true_eq]

theorem exists_values : ∃ d values, literal.digits.filterMap digitValue? = d :: values := by
  apply List.exists_cons_of_ne_nil
  rw [← List.length_pos_iff, length_filterMap_digitValue? literal.isDigit_of_mem]
  exact List.length_pos_iff.mpr literal.digits_ne_nil

end Literal

/-- A text that is a literal after its sign. -/
theorem exists_literal {s : List Char} {d : Nat} {values : List Nat}
    (h : spanDigits (splitSign s).2 = (d :: values, [])) :
    ∃ literal : Literal, literal.text = s := by
  obtain ⟨sign, hsign, hs⟩ := exists_sign s
  refine ⟨⟨sign, (splitSign s).2, hsign,
    spanDigits_snd_eq_nil_iff.mp (congrArg Prod.snd h), ?_⟩, hs.symm⟩
  intro hnil
  rw [hnil] at h
  cases h

/-- What stands after the point is the fraction. -/
theorem readNumeral?_of_point {s rest : List Char} {whole : List Nat}
    (h : spanDigits (splitSign s).2 = (whole, '.' :: rest)) :
    readNumeral? s =
      if whole ++ (spanDigits rest).1 = [] then none
      else (readExponent? (spanDigits rest).2).map fun power =>
        ⟨(splitSign s).1, whole ++ (spanDigits rest).1, power - (spanDigits rest).1.length⟩ := by
  simp [readNumeral?, h]

theorem readNumeral?_of_no_point {s rest : List Char} {whole : List Nat}
    (h : spanDigits (splitSign s).2 = (whole, rest)) (hrest : rest.head? ≠ some '.') :
    readNumeral? s =
      if whole = [] then none
      else (readExponent? rest).map fun power => ⟨(splitSign s).1, whole, power⟩ := by
  simp only [readNumeral?, h]
  split
  case h_1 => exact absurd rfl hrest
  case h_2 => simp

/-- An exponent: its mark and an integer literal. -/
structure Exponent where
  mark : Char
  power : Literal
  mark_mem : mark = 'e' ∨ mark = 'E'

/-- A decimal: a sign or none, digits with a point or none, an exponent or none. -/
structure Decimal where
  sign : List Char
  whole : List Char
  /-- What stands after the point, if there is one. -/
  fraction : Option (List Char)
  exponent : Option Exponent
  sign_mem : sign ∈ signs
  isDigit_of_mem_whole : ∀ c ∈ whole, isDigit c = true
  isDigit_of_mem_fraction : ∀ digits ∈ fraction, ∀ c ∈ digits, isDigit c = true
  digits_ne_nil : whole ++ fraction.getD [] ≠ []

namespace Decimal

/-- A point and what stands after it. -/
def pointText : Option (List Char) → List Char
  | none => []
  | some digits => '.' :: digits

def exponentText : Option Exponent → List Char
  | none => []
  | some exponent => exponent.mark :: exponent.power.text

def text (decimal : Decimal) : List Char :=
  decimal.sign ++ (decimal.whole ++ (pointText decimal.fraction ++ exponentText decimal.exponent))

def negative (decimal : Decimal) : Bool := decide (decimal.sign = ['-'])

def digits (decimal : Decimal) : List Char := decimal.whole ++ decimal.fraction.getD []

/-- The power of ten of the last digit. -/
def scale (decimal : Decimal) : ℤ :=
  (decimal.exponent.elim 0 fun exponent => exponent.power.value) -
    (decimal.fraction.getD []).length

def value (decimal : Decimal) : ℚ :=
  withValue decimal.negative (digitsValue decimal.digits * 10 ^ decimal.scale)

/-- What the reader makes of it. -/
def numeral (decimal : Decimal) : Numeral :=
  ⟨decimal.negative, decimal.digits.filterMap digitValue?, decimal.scale⟩

variable (decimal : Decimal)

theorem isDigit_of_mem_digits {c : Char} (hc : c ∈ decimal.digits) : isDigit c = true := by
  rcases List.mem_append.mp hc with hwhole | hfraction
  · exact decimal.isDigit_of_mem_whole c hwhole
  · cases h : decimal.fraction with
    | none => simp [h] at hfraction
    | some digits =>
      rw [h] at hfraction
      exact decimal.isDigit_of_mem_fraction digits h c hfraction

/-- Neither a digit nor a sign starts an exponent, and a digit is no sign. -/
theorem exponentText_head {exponent : Option Exponent} {c : Char}
    (hc : c ∈ (exponentText exponent).head?) : (c = 'e' ∨ c = 'E') ∧ isDigit c = false := by
  cases exponent with
  | none => cases hc
  | some exponent =>
    obtain rfl : exponent.mark = c := by simpa [exponentText] using hc
    refine ⟨exponent.mark_mem, ?_⟩
    rcases exponent.mark_mem with h | h <;> rw [h] <;> decide

theorem pointText_head {fraction : Option (List Char)} {exponent : Option Exponent} {c : Char}
    (hc : c ∈ (pointText fraction ++ exponentText exponent).head?) :
    (c = '.' ∨ c = 'e' ∨ c = 'E') ∧ isDigit c = false := by
  cases fraction with
  | none =>
    rw [pointText, List.nil_append] at hc
    exact (exponentText_head hc).imp_left .inr
  | some digits =>
    obtain rfl : '.' = c := by simpa [pointText] using hc
    exact ⟨.inl rfl, by decide⟩

theorem splitSign_text : splitSign decimal.text = (decimal.negative,
    decimal.whole ++ (pointText decimal.fraction ++ exponentText decimal.exponent)) := by
  apply splitSign_signed decimal.sign_mem
  intro c hc
  cases hwhole : decimal.whole with
  | nil =>
    rw [hwhole, List.nil_append] at hc
    obtain ⟨rfl | rfl | rfl, -⟩ := pointText_head hc <;> decide
  | cons d digits =>
    obtain rfl : d = c := by simpa [hwhole] using hc
    exact ne_sign_of_isDigit (decimal.isDigit_of_mem_whole d (by simp [hwhole]))

theorem readExponent?_exponentText (exponent : Option Exponent) :
    readExponent? (exponentText exponent) = some (exponent.elim 0 fun e => e.power.value) := by
  cases exponent with
  | none => rfl
  | some exponent =>
    obtain ⟨d, values, hvalues⟩ := exponent.power.exists_values
    rw [exponentText, readExponent?, if_pos exponent.mark_mem, Literal.splitSign_text]
    simp only [Literal.spanDigits_digits]
    rw [hvalues]
    simp only [Option.elim_some, Option.some.injEq]
    rw [← hvalues, Literal.signed_value]

/-- The text of a decimal is read as it. -/
theorem readNumeral?_text : readNumeral? decimal.text = some decimal.numeral := by
  have hwhole : spanDigits (splitSign decimal.text).2 = (decimal.whole.filterMap digitValue?,
      pointText decimal.fraction ++ exponentText decimal.exponent) := by
    rw [splitSign_text]
    exact spanDigits_of_stop decimal.isDigit_of_mem_whole fun c hc => (pointText_head hc).2
  have hlength := length_filterMap_digitValue? fun c => decimal.isDigit_of_mem_digits (c := c)
  have hsome : decimal.digits.filterMap digitValue? ≠ [] := by
    rw [← List.length_pos_iff, hlength]
    exact List.length_pos_iff.mpr decimal.digits_ne_nil
  cases hf : decimal.fraction with
  | none =>
    have hdigits : decimal.whole.filterMap digitValue? = decimal.digits.filterMap digitValue? := by
      rw [digits, hf, Option.getD_none, List.append_nil]
    rw [hf, pointText, List.nil_append] at hwhole
    rw [readNumeral?_of_no_point hwhole, hdigits, if_neg hsome, readExponent?_exponentText,
      splitSign_text]
    · simp [numeral, scale, hf]
    · intro hpoint
      obtain ⟨h | h, -⟩ := exponentText_head hpoint <;> exact absurd h (by decide)
  | some fraction =>
    have hfraction : spanDigits (fraction ++ exponentText decimal.exponent) =
        (fraction.filterMap digitValue?, exponentText decimal.exponent) :=
      spanDigits_of_stop (decimal.isDigit_of_mem_fraction fraction hf)
        fun c hc => (exponentText_head hc).2
    have hdigits : decimal.whole.filterMap digitValue? ++ fraction.filterMap digitValue? =
        decimal.digits.filterMap digitValue? := by
      rw [digits, hf, Option.getD_some, List.filterMap_append]
    rw [hf, pointText, List.cons_append] at hwhole
    rw [readNumeral?_of_point hwhole, hfraction, hdigits, if_neg hsome, readExponent?_exponentText,
      splitSign_text, length_filterMap_digitValue? (decimal.isDigit_of_mem_fraction fraction hf)]
    simp [numeral, scale, hf]

end Decimal

/-- Digits that were spanned, and what follows them. -/
theorem exists_digits {s rest : List Char} {values : List Nat}
    (h : spanDigits s = (values, rest)) : ∃ digits, s = digits ++ rest ∧
      (∀ c ∈ digits, isDigit c = true) ∧ values = digits.filterMap digitValue? := by
  obtain ⟨rfl, rfl⟩ := Prod.mk.inj h
  exact ⟨s.takeWhile isDigit, List.takeWhile_append_dropWhile.symm,
    fun c hc => List.mem_takeWhile_imp hc, rfl⟩

/-- An exponent that was read is written in the text. -/
theorem exists_exponent {s : List Char} {power : ℤ} (h : readExponent? s = some power) :
    ∃ exponent : Option Exponent, Decimal.exponentText exponent = s := by
  cases s with
  | nil => exact ⟨none, rfl⟩
  | cons mark rest =>
    rw [readExponent?] at h
    split_ifs at h with hmark
    dsimp only at h
    split at h
    case h_1 => cases h
    case h_2 digits hne hspan =>
      obtain ⟨d, values, rfl⟩ := List.exists_cons_of_ne_nil hne
      obtain ⟨literal, rfl⟩ := exists_literal hspan
      exact ⟨some ⟨mark, literal, hmark⟩, rfl⟩
    case h_3 => cases h

/-- A numeral is read only from the text of a decimal. -/
theorem exists_decimal {s : List Char} {numeral : Numeral} (h : readNumeral? s = some numeral) :
    ∃ decimal : Decimal, decimal.text = s := by
  obtain ⟨sign, hsign, hs⟩ := exists_sign s
  obtain ⟨values, rest, hspan⟩ : ∃ values rest, spanDigits (splitSign s).2 = (values, rest) :=
    ⟨_, _, rfl⟩
  obtain ⟨whole, hwhole, hdigits, rfl⟩ := exists_digits hspan
  by_cases hpoint : rest.head? = some '.'
  · obtain ⟨after, rfl⟩ := List.head?_eq_some_iff.mp hpoint
    rw [readNumeral?_of_point hspan] at h
    obtain ⟨values, rest, hspan⟩ : ∃ values rest, spanDigits after = (values, rest) := ⟨_, _, rfl⟩
    obtain ⟨fraction, rfl, hfraction, rfl⟩ := exists_digits hspan
    rw [hspan] at h
    split_ifs at h with hempty
    obtain ⟨power, hpower, rfl⟩ := Option.map_eq_some_iff.mp h
    obtain ⟨exponent, rfl⟩ := exists_exponent hpower
    refine ⟨⟨sign, whole, some fraction, exponent, hsign, hdigits, by simpa using hfraction, ?_⟩,
      ?_⟩
    · rintro hnil
      rw [Option.getD_some] at hnil
      exact hempty (by rw [← List.filterMap_append, hnil, List.filterMap_nil])
    · rw [hs, hwhole]
      rfl
  · rw [readNumeral?_of_no_point hspan hpoint] at h
    split_ifs at h with hempty
    obtain ⟨power, hpower, rfl⟩ := Option.map_eq_some_iff.mp h
    obtain ⟨exponent, rfl⟩ := exists_exponent hpower
    refine ⟨⟨sign, whole, none, exponent, hsign, hdigits, by simp, ?_⟩, ?_⟩
    · rintro hnil
      rw [Option.getD_none, List.append_nil] at hnil
      exact hempty (by rw [hnil, List.filterMap_nil])
    · rw [hs, hwhole]
      rfl

/-- The characters of a decimal. -/
theorem Decimal.mem_text (decimal : Decimal) {c : Char} (hc : c ∈ decimal.text) :
    isDigit c = true ∨ c ∈ ['+', '-', '.', 'e', 'E'] := by
  have hsign {sign : List Char} (hsign : sign ∈ signs) (hc : c ∈ sign) :
      c ∈ ['+', '-', '.', 'e', 'E'] := by
    simp only [signs, List.mem_cons, List.not_mem_nil, or_false] at hsign
    rcases hsign with rfl | rfl | rfl <;> simp_all
  simp only [text, List.mem_append] at hc
  rcases hc with hc | hc | hc | hc
  · exact .inr (hsign decimal.sign_mem hc)
  · exact .inl (decimal.isDigit_of_mem_whole c hc)
  · cases hf : decimal.fraction with
    | none => simp [hf, pointText] at hc
    | some fraction =>
      rw [hf, pointText, List.mem_cons] at hc
      rcases hc with rfl | hc
      · exact .inr (by decide)
      · exact .inl (decimal.isDigit_of_mem_fraction fraction hf c hc)
  · cases he : decimal.exponent with
    | none => simp [he, exponentText] at hc
    | some exponent =>
      rw [he, exponentText, List.mem_cons, Literal.text, List.mem_append] at hc
      rcases hc with rfl | hc | hc
      · rcases exponent.mark_mem with h | h <;> rw [h] <;> decide
      · exact .inr (hsign exponent.power.sign_mem hc)
      · exact .inl (exponent.power.isDigit_of_mem c hc)

variable {s : List Char} {x : Float}

theorem contains_underscore_text (decimal : Decimal) : decimal.text.contains '_' = false := by
  rw [List.contains_eq_mem, decide_eq_false_iff_not]
  intro hmem
  rcases decimal.mem_text hmem with h | h
  · exact absurd h (by decide)
  · exact absurd h (by decide)

theorem Decimal.exists_roundsTo (decimal : Decimal) :
    ∃ bits, RoundsTo (digitsValue decimal.digits * 10 ^ decimal.scale) bits ∧
      decimal.numeral.toFloat = floatOfBits decimal.negative bits := by
  obtain ⟨bits, hround, hbits⟩ :=
    roundsTo_nearestDecimalBits (digitsValue decimal.digits) decimal.scale
  refine ⟨bits, hround, ?_⟩
  rw [Numeral.toFloat, numeral, ofDigits_filterMap, floatOfBits, hbits]
  rfl

/-- The float of a decimal is the correctly rounded one, if it is finite. -/
theorem Decimal.isCorrectlyRounded_iff (decimal : Decimal) :
    IsCorrectlyRounded decimal.negative decimal.value x ↔
      isFinite decimal.numeral.toFloat = true ∧ x = decimal.numeral.toFloat := by
  obtain ⟨bits, hround, hfloat⟩ := decimal.exists_roundsTo
  rw [value, hround.isCorrectlyRounded_iff (by positivity), hfloat, isFinite_floatOfBits,
    decide_eq_true_eq]

theorem Decimal.isFinite_iff (decimal : Decimal) :
    isFinite decimal.numeral.toFloat = true ↔ |decimal.value| < floatLimit := by
  obtain ⟨bits, hround, hfloat⟩ := decimal.exists_roundsTo
  rw [value, abs_withValue (by positivity), hfloat, isFinite_floatOfBits, decide_eq_true_eq,
    ← not_le, ← not_le, hround.infinityBits_le_iff]

/-- A text that is no literal is read as a numeral or not at all. -/
theorem ofText?_of_not_literal (h : ∀ literal : Literal, literal.text ≠ trim s) :
    ofText? s = .ok (if (trim s).contains '_' then none
      else (readNumeral? (trim s)).bind fun numeral =>
        if isFinite numeral.toFloat then some (.float numeral.toFloat) else none) := by
  rw [ofText?]
  dsimp only
  split_ifs with hunderscore
  · rfl
  · split
    case h_1 hspan =>
      obtain ⟨literal, hliteral⟩ := exists_literal hspan
      exact absurd hliteral (h literal)
    case h_2 => cases readNumeral? (trim s) <;> rfl

theorem ofText?_of_literal (literal : Literal) (h : literal.text = trim s) :
    ofText? s = if digitLimit < literal.digits.length
      then .error (.literalTooLong literal.digits.length)
      else .ok (some (.int literal.value)) := by
  rw [ofText?_literal h.symm literal.sign_mem literal.isDigit_of_mem literal.digits_ne_nil,
    ← h, literal.splitSign_text, literal.spanDigits_digits, readInteger,
    length_filterMap_digitValue? literal.isDigit_of_mem, literal.signed_value]
  split_ifs <;> rfl

section Reading
variable {n : ℤ} {fault : Fault}

theorem ofText?_int_iff : ofText? s = .ok (some (.int n)) ↔
    ∃ literal : Literal, literal.text = trim s ∧ literal.digits.length ≤ digitLimit ∧
      literal.value = n := by
  constructor
  · intro hread
    by_cases h : ∃ literal : Literal, literal.text = trim s
    · obtain ⟨literal, htext⟩ := h
      rw [ofText?_of_literal literal htext] at hread
      split_ifs at hread with hlimit
      cases hread
      exact ⟨literal, htext, Nat.not_lt.mp hlimit, rfl⟩
    · rw [ofText?_of_not_literal (not_exists.mp h), Except.ok.injEq] at hread
      split_ifs at hread
      obtain ⟨numeral, -, hnumeral⟩ := Option.bind_eq_some_iff.mp hread
      split_ifs at hnumeral
      cases hnumeral
  · rintro ⟨literal, htext, hlimit, rfl⟩
    rw [ofText?_of_literal literal htext, if_neg (Nat.not_lt.mpr hlimit)]

theorem ofText?_fault_iff : ofText? s = .error fault ↔
    ∃ literal : Literal, literal.text = trim s ∧ digitLimit < literal.digits.length ∧
      fault = .literalTooLong literal.digits.length := by
  constructor
  · intro hread
    by_cases h : ∃ literal : Literal, literal.text = trim s
    · obtain ⟨literal, htext⟩ := h
      rw [ofText?_of_literal literal htext] at hread
      split_ifs at hread with hlimit
      cases hread
      exact ⟨literal, htext, hlimit, rfl⟩
    · rw [ofText?_of_not_literal (not_exists.mp h)] at hread
      cases hread
  · rintro ⟨literal, htext, hlimit, rfl⟩
    rw [ofText?_of_literal literal htext, if_pos hlimit]

/-- A literal is read as an integer or fails. -/
theorem not_literal_of_ofText? {result : Option Number} (h : ofText? s = .ok result)
    (hint : ∀ n, result ≠ some (.int n)) (literal : Literal) : literal.text ≠ trim s := by
  intro htext
  rw [ofText?_of_literal literal htext] at h
  split_ifs at h
  exact hint _ (Except.ok.inj h).symm

theorem ofText?_float_iff : ofText? s = .ok (some (.float x)) ↔
    (∀ literal : Literal, literal.text ≠ trim s) ∧
      ∃ decimal : Decimal, decimal.text = trim s ∧
        IsCorrectlyRounded decimal.negative decimal.value x := by
  constructor
  · intro hread
    have h := not_literal_of_ofText? hread (by simp)
    refine ⟨h, ?_⟩
    rw [ofText?_of_not_literal h, Except.ok.injEq] at hread
    split_ifs at hread
    obtain ⟨numeral, hnumeral, hfloat⟩ := Option.bind_eq_some_iff.mp hread
    obtain ⟨decimal, htext⟩ := exists_decimal hnumeral
    rw [← htext, decimal.readNumeral?_text, Option.some.injEq] at hnumeral
    subst hnumeral
    split_ifs at hfloat with hfinite
    cases hfloat
    exact ⟨decimal, htext, decimal.isCorrectlyRounded_iff.mpr ⟨hfinite, rfl⟩⟩
  · rintro ⟨h, decimal, htext, hround⟩
    obtain ⟨hfinite, rfl⟩ := decimal.isCorrectlyRounded_iff.mp hround
    rw [ofText?_of_not_literal h, ← htext, contains_underscore_text, decimal.readNumeral?_text]
    simp [hfinite]

theorem ofText?_none_iff : ofText? s = .ok none ↔
    (∀ literal : Literal, literal.text ≠ trim s) ∧
      ∀ decimal : Decimal, decimal.text = trim s → floatLimit ≤ |decimal.value| := by
  constructor
  · intro hread
    have h := not_literal_of_ofText? hread (by simp)
    refine ⟨h, fun decimal htext => ?_⟩
    rw [ofText?_of_not_literal h, ← htext, contains_underscore_text, decimal.readNumeral?_text]
      at hread
    rw [← not_lt, ← decimal.isFinite_iff]
    intro hfinite
    simp [hfinite] at hread
  · rintro ⟨h, hlimit⟩
    rw [ofText?_of_not_literal h, Except.ok.injEq]
    split_ifs
    · rfl
    · cases hnumeral : readNumeral? (trim s) with
      | none => rfl
      | some numeral =>
        obtain ⟨decimal, htext⟩ := exists_decimal hnumeral
        rw [← htext, decimal.readNumeral?_text, Option.some.injEq] at hnumeral
        subst hnumeral
        have hinfinite := mt decimal.isFinite_iff.mp (not_lt.mpr (hlimit decimal htext))
        rw [Option.bind_some, if_neg hinfinite]

end Reading

/-- A text denotes a number exactly by the grammar: an integer for a literal of at most so many
digits, a fault for a longer one, the correctly rounded float for any other decimal in the range of
the floats, and nothing otherwise. What it adds to a total fails alike, and is zero for nothing. No
text with a lone half denotes a number. -/
theorem toNumber?_text (s : String) :
    (∀ n, (Cell.text s).toNumber? = .ok (some (.int n)) ↔
      ∃ literal : Literal, literal.text = trim s.toList ∧ literal.digits.length ≤ 4300 ∧
        literal.value = n) ∧
    (∀ fault, (Cell.text s).toNumber? = .error fault ↔
      ∃ literal : Literal, literal.text = trim s.toList ∧ 4300 < literal.digits.length ∧
        fault = .literalTooLong literal.digits.length) ∧
    (∀ x, (Cell.text s).toNumber? = .ok (some (.float x)) ↔
      (∀ literal : Literal, literal.text ≠ trim s.toList) ∧
        ∃ decimal : Decimal, decimal.text = trim s.toList ∧
          IsCorrectlyRounded decimal.negative decimal.value x) ∧
    ((Cell.text s).toNumber? = .ok none ↔
      (∀ literal : Literal, literal.text ≠ trim s.toList) ∧
        ∀ decimal : Decimal, decimal.text = trim s.toList → floatLimit ≤ |decimal.value|) ∧
    (∀ fault, (Cell.text s).toNumberOrZero = .error fault ↔
      (Cell.text s).toNumber? = .error fault) ∧
    (∀ number, (Cell.text s).toNumberOrZero = .ok number ↔
      (Cell.text s).toNumber? = .ok (some number) ∨
        (Cell.text s).toNumber? = .ok none ∧ number = .int 0) ∧
    ∀ half : BrokenText, (Cell.broken half).toNumber? = .ok none ∧
      (Cell.broken half).toNumberOrZero = .ok (.int 0) := by
  refine ⟨fun n => ofText?_int_iff, fun fault => ofText?_fault_iff, fun x => ofText?_float_iff,
    ofText?_none_iff, fun fault => ?_, fun number => ?_, fun _ => ⟨rfl, rfl⟩⟩
  · simp [Cell.toNumberOrZero]
  · cases h : (Cell.text s).toNumber? with
    | error fault => simp [Cell.toNumberOrZero, h]
    | ok result =>
      cases result with
      | none => simp [Cell.toNumberOrZero, h, eq_comm]
      | some value => simp [Cell.toNumberOrZero, h]

end TableTalk.Number
