import TableTalk.Text.Range

/-! Decimal digits of every script, and the few other characters that Unicode counts as digits. -/
namespace TableTalk.Text

/-- The zeros of the scripts with positional decimal digits; nine further digits follow each. -/
def zeroDigits : List Nat :=
  [48, 1632, 1776, 1984, 2406, 2534, 2662, 2790, 2918, 3046, 3174, 3302, 3430, 3558, 3664, 3792,
   3872, 4160, 4240, 6112, 6160, 6470, 6608, 6784, 6800, 6992, 7088, 7232, 7248, 42528, 43216,
   43264, 43472, 43504, 43600, 44016, 65296, 66720, 68912, 69734, 69872, 69942, 70096, 70384,
   70736, 70864, 71248, 71360, 71472, 71904, 72016, 72784, 73040, 73120, 92768, 92864, 93008,
   120782, 120792, 120802, 120812, 120822, 123200, 123632, 125264, 130032]

def digitValueFrom : List Nat → Nat → Option Nat
  | [], _ => none
  | base :: rest, n =>
      if n < base then none else if n ≤ base + 9 then some (n - base) else digitValueFrom rest n

/-- The value of a decimal digit of any script. -/
def digitValue? (c : Char) : Option Nat := digitValueFrom zeroDigits c.toNat

def isDigit (c : Char) : Bool := (digitValue? c).isSome

/-- Digits without a place value: superscripts, circled digits and the like. -/
def markDigitRanges : List (Nat × Nat) :=
  [(178, 179), (185, 185), (4969, 4977), (6618, 6618), (8304, 8304), (8308, 8313), (8320, 8329),
   (9312, 9320), (9332, 9340), (9352, 9360), (9450, 9450), (9461, 9469), (9471, 9471),
   (10102, 10110), (10112, 10120), (10122, 10130), (68160, 68163), (69216, 69224),
   (69714, 69722), (127232, 127242)]

/-- A decimal digit or a digit used as a mark. -/
def isDigitMark (c : Char) : Bool := isDigit c || inRanges markDigitRanges c.toNat

/-- A digit of the ASCII range, in which machine formats are written. -/
def isAsciiDigit (c : Char) : Bool := decide (48 ≤ c.toNat) && decide (c.toNat ≤ 57)

theorem digitValueFrom_lt {zeros : List Nat} {n v : Nat} (h : digitValueFrom zeros n = some v) :
    v < 10 := by
  induction zeros with
  | nil => simp [digitValueFrom] at h
  | cons base rest ih =>
    simp only [digitValueFrom] at h
    split at h
    · simp at h
    · split at h
      · have := Option.some.inj h
        omega
      · exact ih h

/-- A digit stands for less than ten. -/
theorem digitValue?_lt {c : Char} {v : Nat} (h : digitValue? c = some v) : v < 10 :=
  digitValueFrom_lt h

end TableTalk.Text
