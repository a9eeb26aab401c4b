import TableTalk.Number.Binary

/-! Decimal text of floating-point numbers: the fewest digits that read back as the same number,
or a fixed number of places. -/
namespace TableTalk.Number
open CorePowers

def digitCount (n : Nat) : Nat := (Nat.toDigits 10 n).length

/-- The place of the decimal point of a positive quotient: it lies in [10^(k-1), 10^k). -/
def decimalPoint (p q : Nat) : Int :=
  if q ≤ p then digitCount (p / q)
  else 1 - (digitCount ((q + p - 1) / p - 1) : Int)

/-- The two neighbours of a quotient on the grid of multiples of 10^-scale: the lower one, and
whether the upper one is nearer. -/
def gridBelow (p q : Nat) (scale : Int) : Nat × Bool :=
  let p := if 0 ≤ scale then p * 10 ^ scale.toNat else p
  let q := if 0 ≤ scale then q else q * 10 ^ (-scale).toNat
  (p / q, decide (q < 2 * (p % q)) || (decide (q = 2 * (p % q)) && p / q % 2 == 1))

/-- The first grid, from coarse to fine, one of whose two neighbours of p / q reads back as the
given pattern; the neighbour and the scale of its grid. -/
def shortestFrom (bits p q : Nat) (scale : Int) : Nat → Nat × Int
  | 0 => ((gridBelow p q scale).1, scale)
  | finer + 1 =>
      let (low, upper) := gridBelow p q scale
      let lowReads := nearestDecimalBits low (-scale) == bits
      let highReads := nearestDecimalBits (low + 1) (-scale) == bits
      if lowReads && highReads then (if upper then low + 1 else low, scale)
      else if lowReads then (low, scale)
      else if highReads then (low + 1, scale)
      else shortestFrom bits p q (scale + 1) finer

/-- The digits of a positive finite value without zeros at the end, and the place of its decimal
point. -/
def shortestDigits (mantissa : Nat) (exponent : Int) : List Char × Int :=
  let p := if 0 ≤ exponent then mantissa * 2 ^ exponent.toNat else mantissa
  let q := if 0 ≤ exponent then 1 else 2 ^ (-exponent).toNat
  let (digits, scale) := shortestFrom (nearestBits p q) p q (1 - decimalPoint p q) 17
  let text := Nat.toDigits 10 digits
  ((text.reverse.dropWhile (· == '0')).reverse, text.length - scale)

/-- How a floating-point number is written: which places of the point are positional, and the
least number of exponent digits. -/
structure FloatFormat where
  firstPoint : Int
  lastPoint : Int
  exponentDigits : Nat

/-- Positional from 0.0001 to below 10^16, otherwise with an exponent of two digits or more. -/
def plainFormat : FloatFormat := ⟨-3, 16, 2⟩

def padLeft (width : Nat) (fill : Char) (s : List Char) : List Char :=
  List.replicate (width - s.length) fill ++ s

/-- Digits with the point at the given place, and a fraction of at least one digit. -/
def positional (digits : List Char) (point : Int) : List Char :=
  if point ≤ 0 then ['0', '.'] ++ List.replicate (-point).toNat '0' ++ digits
  else if digits.length ≤ point.toNat then
    digits ++ List.replicate (point.toNat - digits.length) '0' ++ ['.', '0']
  else digits.take point.toNat ++ '.' :: digits.drop point.toNat

def scientific (format : FloatFormat) (digits : List Char) (point : Int) : List Char :=
  let power := point - 1
  let mark := if power < 0 then '-' else '+'
  let lead := match digits with
    | [] => []
    | [d] => [d]
    | d :: rest => d :: '.' :: rest
  lead ++ 'e' :: mark :: padLeft format.exponentDigits '0' (Nat.toDigits 10 power.natAbs)

def writeFinite (format : FloatFormat) (mantissa : Nat) (exponent : Int) : List Char :=
  if mantissa = 0 then ['0', '.', '0']
  else
    let (digits, point) := shortestDigits mantissa exponent
    if format.firstPoint ≤ point ∧ point ≤ format.lastPoint then positional digits point
    else scientific format digits point

def withSign (negative : Bool) (s : List Char) : String :=
  String.ofList (if negative then '-' :: s else s)

/-- The shortest text that reads back as the same number. -/
def floatText (x : Float) : String :=
  match Binary.ofFloat x with
  | .notANumber => "nan"
  | .infinite negative => withSign negative "inf".toList
  | .finite negative mantissa exponent =>
      withSign negative (writeFinite plainFormat mantissa exponent)

/-- Hundredths of a value, rounded to the nearest, a half to the even one. -/
def hundredths (mantissa : Nat) (exponent : Int) : Nat :=
  if 0 ≤ exponent then 100 * (mantissa * 2 ^ exponent.toNat)
  else roundDiv (100 * mantissa) (2 ^ (-exponent).toNat)

/-- Text with two places after the point; the sign of a negative zero shows. -/
def twoPlaces (x : Float) : String :=
  match Binary.ofFloat x with
  | .notANumber => "nan"
  | .infinite negative => withSign negative "inf".toList
  | .finite negative mantissa exponent =>
      let n := hundredths mantissa exponent
      withSign negative
        (Nat.toDigits 10 (n / 100) ++ '.' :: padLeft 2 '0' (Nat.toDigits 10 (n % 100)))

end TableTalk.Number
