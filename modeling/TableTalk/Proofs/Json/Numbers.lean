import Mathlib.Data.List.TakeWhile
import TableTalk.Json.Reader
import TableTalk.Proofs.Number.Decimal

/-! Integers in JSON texts: the decimal text of one is read back, whatever may come after it. -/
namespace TableTalk.Json
open TableTalk.Text TableTalk.Number

/-- What may be left after a value: nothing, a comma or the end of a container. -/
def FollowsValue : List Char → Prop
  | [] => True
  | c :: _ => c = ',' ∨ c = ']' ∨ c = '\x7d'

/-- How many decimal digits an integer has. -/
def digitCount (n : Int) : Nat := (Nat.toDigits 10 n.natAbs).length

variable {rest : List Char}

theorem FollowsValue.not_digit (h : FollowsValue rest) : rest.takeWhile isAsciiDigit = [] := by
  cases rest with
  | nil => rfl
  | cons c after => rcases h with rfl | rfl | rfl <;> rfl

theorem readFraction_follows (h : FollowsValue rest) : readFraction rest = ([], rest) := by
  cases rest with
  | nil => rfl
  | cons c after => rcases h with rfl | rfl | rfl <;> rfl

theorem readPower_follows (h : FollowsValue rest) : readPower rest = (none, rest) := by
  cases rest with
  | nil => rfl
  | cons c after => rcases h with rfl | rfl | rfl <;> rfl

theorem spanAsciiDigits_append {digits : List Char} (h : ∀ c ∈ digits, isAsciiDigit c = true)
    (hrest : FollowsValue rest) :
    spanAsciiDigits (digits ++ rest) = (digits.map (fun c => c.toNat - 48), rest) := by
  have hnone := hrest.not_digit
  have hall : rest.dropWhile isAsciiDigit = rest := by
    have happend := List.takeWhile_append_dropWhile (p := isAsciiDigit) (l := rest)
    rwa [hnone, List.nil_append] at happend
  rw [spanAsciiDigits, List.takeWhile_append_of_pos h, List.dropWhile_append_of_pos h, hnone, hall,
    List.append_nil]

/-- Only zero begins with a zero. -/
theorem head?_toDigits_ne_zero {n : Nat} (h : 0 < n) : (Nat.toDigits 10 n).head? ≠ some '0' := by
  induction n using Nat.strongRecOn with
  | ind n ih =>
    by_cases hsmall : n < 10
    · have hdigit : ∀ m < 10, 0 < m → [Nat.digitChar m].head? ≠ some '0' := by decide
      rw [Nat.toDigits_of_lt_base hsmall]
      exact hdigit n hsmall h
    · have hfirst := ih (n / 10) (by omega) (by omega)
      rwa [Nat.toDigits_of_base_le (by decide) (by omega),
        List.head?_append_of_ne_nil _ Nat.toDigits_ne_nil]

theorem readWhole_toDigits (n : Nat) (hrest : FollowsValue rest) :
    readWhole (Nat.toDigits 10 n ++ rest) =
      ((Nat.toDigits 10 n).map (fun c => c.toNat - 48), rest) := by
  rcases Nat.eq_zero_or_pos n with rfl | hpos
  · rfl
  · have hfirst := head?_toDigits_ne_zero hpos
    obtain ⟨c, others, hdigits, -⟩ := exists_toDigits_eq_cons n
    rw [← spanAsciiDigits_append isAsciiDigit_of_mem_toDigits hrest]
    rw [hdigits] at hfirst ⊢
    rw [List.cons_append, readWhole]
    intro tail heq
    cases heq
    exact hfirst rfl

theorem readNumber_toDigits (negative : Bool) {n : Nat} (start : List Char)
    (hlimit : (Nat.toDigits 10 n).length ≤ digitLimit) (hrest : FollowsValue rest) :
    readNumber negative (Nat.toDigits 10 n ++ rest) start =
      .ok (.int (signed negative n), rest) := by
  have hread : readInteger negative ((Nat.toDigits 10 n).map (fun c => c.toNat - 48)) =
      .ok (signed negative n) := by
    rw [readInteger, if_neg (by rw [List.length_map]; omega), ofDigits_toDigits]
  have hwhole := readWhole_toDigits n hrest
  cases hdigits : (Nat.toDigits 10 n).map (fun c => c.toNat - 48) with
  | nil => exact absurd (List.map_eq_nil_iff.mp hdigits) Nat.toDigits_ne_nil
  | cons d others =>
    rw [hdigits] at hwhole hread
    simp [readNumber, hwhole, readFraction_follows hrest, readPower_follows hrest, hread]

theorem ne_of_isAsciiDigit {c d : Char} (h : isAsciiDigit c = true)
    (hd : isAsciiDigit d = false) : c ≠ d := by
  rintro rfl
  exact Bool.false_ne_true (hd.symm.trans h)

/-- No word begins with a digit, nor with a minus sign and a digit. -/
theorem readWord?_digit {c : Char} (h : isAsciiDigit c = true) (tail : List Char) :
    readWord? (c :: tail) = none ∧ readWord? ('-' :: c :: tail) = none := by
  have hn : 'n' ≠ c := (ne_of_isAsciiDigit h rfl).symm
  have ht : 't' ≠ c := (ne_of_isAsciiDigit h rfl).symm
  have hf : 'f' ≠ c := (ne_of_isAsciiDigit h rfl).symm
  have hN : 'N' ≠ c := (ne_of_isAsciiDigit h rfl).symm
  have hI : 'I' ≠ c := (ne_of_isAsciiDigit h rfl).symm
  have hminus : '-' ≠ c := (ne_of_isAsciiDigit h rfl).symm
  constructor <;> simp [readWord?, words, hn, ht, hf, hN, hI, hminus]

/-- The text of an integer within the limit is read back. -/
theorem readValue_integer {n : Int} (hlimit : digitCount n ≤ digitLimit)
    (hrest : FollowsValue rest) (fuel depth : Nat) :
    readValue (fuel + 1) depth ((integerText n).toList ++ rest) = .ok (.int n, rest) := by
  obtain ⟨c, others, hdigits, hc⟩ := exists_toDigits_eq_cons n.natAbs
  have hread (negative : Bool) (start : List Char) :=
    readNumber_toDigits negative start hlimit hrest
  obtain ⟨hword, hsigned⟩ := readWord?_digit hc (others ++ rest)
  have hquote : c ≠ '"' := ne_of_isAsciiDigit hc rfl
  have harray : c ≠ '[' := ne_of_isAsciiDigit hc rfl
  have hobject : c ≠ '\x7b' := ne_of_isAsciiDigit hc rfl
  have hminus : c ≠ '-' := ne_of_isAsciiDigit hc rfl
  rw [hdigits, List.cons_append] at hread
  unfold integerText naturalText
  split
  case isTrue hneg =>
    have hsign : signed true n.natAbs = n := by
      rw [signed, if_pos rfl]
      omega
    rw [String.toList_append, String.toList_ofList, hdigits]
    simp [readValue, readPlain, hsigned, hread, hsign]
  case isFalse hpos =>
    have hsign : signed false n.natAbs = n := by
      rw [signed, if_neg Bool.false_ne_true]
      omega
    rw [String.toList_ofList, hdigits]
    simp [readValue, readPlain, hword, hread, hsign, hquote, harray, hobject, hminus]

end TableTalk.Json
