import TableTalk.Number.Integer

/-! Binary floating-point numbers as exact values: a sign, a mantissa and a power of two. Every
real quotient has a nearest one, ties going to the even mantissa. -/
namespace TableTalk.Number
open CorePowers

/-- What a 64-bit pattern stands for. -/
inductive Binary where
  | notANumber
  | infinite (negative : Bool)
  /-- The value mantissa times two to the exponent, with a sign. -/
  | finite (negative : Bool) (mantissa : Nat) (exponent : Int)
  deriving DecidableEq, Repr

def Binary.ofBits (bits : Nat) : Binary :=
  let negative := decide (2 ^ (63 : Nat) ≤ bits)
  let field : Nat := bits / 2 ^ (52 : Nat) % 2 ^ (11 : Nat)
  let fraction := bits % 2 ^ (52 : Nat)
  if field = 2047 then if fraction = 0 then .infinite negative else .notANumber
  else if field = 0 then .finite negative fraction (-1074)
  else .finite negative (2 ^ (52 : Nat) + fraction) ((field : Int) - 1075)

def Binary.ofFloat (x : Float) : Binary := .ofBits x.toBits.toNat

def isFinite (x : Float) : Bool :=
  match Binary.ofFloat x with
  | .finite .. => true
  | _ => false

def isNaN (x : Float) : Bool :=
  match Binary.ofFloat x with
  | .notANumber => true
  | _ => false

/-- Whether a value is finite and its size is below a power of two. -/
def isBelow (bits : Nat) : Binary → Bool
  | .finite _ mantissa exponent =>
      if 0 ≤ exponent then decide (mantissa * 2 ^ exponent.toNat < 2 ^ bits)
      else decide (mantissa < 2 ^ bits * 2 ^ (-exponent).toNat)
  | _ => false

/-- The integer that a finite value equals, if it has no fraction. -/
def Binary.toInteger? : Binary → Option Int
  | .finite negative mantissa exponent =>
      if 0 ≤ exponent then some (signed negative (mantissa * 2 ^ exponent.toNat))
      else if mantissa % 2 ^ (-exponent).toNat = 0 then
        some (signed negative (mantissa / 2 ^ (-exponent).toNat))
      else none
  | _ => none

/-- The quotient rounded to the nearest natural number, a half to the even one. -/
def roundDiv (p q : Nat) : Nat :=
  if 2 * (p % q) < q then p / q
  else if q < 2 * (p % q) then p / q + 1
  else p / q + p / q % 2

/-- The largest power of two that is not above the quotient of two positive numbers. -/
def floorLog2 (p q : Nat) : Int :=
  let k : Int := p.log2 - q.log2
  if (if 0 ≤ k then q * 2 ^ k.toNat ≤ p else q ≤ p * 2 ^ (-k).toNat) then k else k - 1

/-- The bit pattern nearest to a quotient, without its sign; from 2047 times 2 to the 52 on the
quotient is beyond every finite value. -/
def nearestBits (p q : Nat) : Nat :=
  if p = 0 then 0
  else
    let e := max (floorLog2 p q - 52) (-1074)
    let m := if 0 ≤ e then roundDiv p (q * 2 ^ e.toNat) else roundDiv (p * 2 ^ (-e).toNat) q
    (e + 1074).toNat * 2 ^ (52 : Nat) + m

def infinityBits : Nat := 2047 * 2 ^ (52 : Nat)

def floatOfBits (negative : Bool) (bits : Nat) : Float :=
  Float.ofBits (UInt64.ofNat ((if negative then 2 ^ (63 : Nat) else 0) + min bits infinityBits))

/-- The float nearest to a signed quotient, infinite when the quotient is beyond the range. -/
def nearestRatio (negative : Bool) (p q : Nat) : Float := floatOfBits negative (nearestBits p q)

/-- The pattern nearest to a decimal value. Powers of ten far outside the range decide at once. -/
def nearestDecimalBits (digits : Nat) (exponent : Int) : Nat :=
  let size : Int := (Nat.toDigits 10 digits).length
  if digits = 0 ∨ exponent + size < -400 then 0
  else if 400 < exponent + size then infinityBits
  else if 0 ≤ exponent then nearestBits (digits * 10 ^ exponent.toNat) 1
  else nearestBits digits (10 ^ (-exponent).toNat)

/-- The float nearest to an integer, infinite beyond the range. -/
def nearestFloat (n : Int) : Float := nearestRatio (decide (n < 0)) n.natAbs 1

/-- The float nearest to an integer, which must lie in the range. -/
def floatOfInteger (n : Int) : Except Fault Float :=
  if infinityBits ≤ nearestBits n.natAbs 1 then .error .integerBeyondFloat else .ok (nearestFloat n)

end TableTalk.Number
