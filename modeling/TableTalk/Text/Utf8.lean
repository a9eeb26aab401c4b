import TableTalk.Number.Power

/-! Text from bytes in UTF-8, and where and why bytes are not such a text. -/
namespace TableTalk.Text.Utf8
open CorePowers

inductive Reason where
  | badStart
  | badContinuation
  | endsEarly
  deriving DecidableEq, Repr

def Reason.text : Reason → String
  | .badStart => "invalid start byte"
  | .badContinuation => "invalid continuation byte"
  | .endsEarly => "unexpected end of data"

/-- The bytes that cannot be read: the first of them, its position, and how many there are. -/
structure Problem where
  reason : Reason
  byte : UInt8
  position : Nat
  count : Nat
  deriving DecidableEq, Repr

def hexPair (byte : UInt8) : String :=
  let digits := Nat.toDigits 16 byte.toNat
  String.ofList (if digits.length < 2 then '0' :: digits else digits)

def Problem.message (problem : Problem) : String :=
  let place := if problem.count = 1 then
      "byte 0x" ++ hexPair problem.byte ++ " in position " ++ toString problem.position
    else "bytes in position " ++ toString problem.position ++ "-" ++
      toString (problem.position + problem.count - 1)
  "'utf-8' codec can't decode " ++ place ++ ": " ++ problem.reason.text

/-- A character of which some bytes are still to come. -/
structure Open where
  /-- The first byte and its position. -/
  byte : UInt8
  position : Nat
  /-- How many bytes have come. -/
  taken : Nat
  /-- How many bytes are to come after the next one. -/
  further : Nat
  /-- Bounds of the next byte. -/
  low : Nat
  high : Nat
  code : Nat
  deriving DecidableEq, Repr

/-- What a first byte begins: a character of its own, or one with more bytes. -/
def openWith? (position : Nat) (byte : UInt8) : Option (Char ⊕ Open) :=
  let n := byte.toNat
  if n < 0x80 then some (.inl (Char.ofNat n))
  else if n < 0xC2 then none
  else if n < 0xE0 then some (.inr ⟨byte, position, 1, 0, 0x80, 0xBF, n - 0xC0⟩)
  else if n < 0xF0 then
    some (.inr ⟨byte, position, 1, 1, if n = 0xE0 then 0xA0 else 0x80,
      if n = 0xED then 0x9F else 0xBF, n - 0xE0⟩)
  else if n < 0xF5 then
    some (.inr ⟨byte, position, 1, 2, if n = 0xF0 then 0x90 else 0x80,
      if n = 0xF4 then 0x8F else 0xBF, n - 0xF0⟩)
  else none

/-- The character with one more byte; none if the byte cannot go on with it. -/
def Open.extend? (o : Open) (byte : UInt8) : Option (Char ⊕ Open) :=
  if o.low ≤ byte.toNat ∧ byte.toNat ≤ o.high then
    let code := 64 * o.code + (byte.toNat - 0x80)
    match o.further with
    | 0 => some (.inl (Char.ofNat code))
    | further + 1 =>
        some (.inr { o with taken := o.taken + 1, further, low := 0x80, high := 0xBF, code })
  else none

def Open.problem (o : Open) (reason : Reason) : Problem := ⟨reason, o.byte, o.position, o.taken⟩

/-- Reads from a position on; what was read before stands last one first. -/
def decodeFrom : Nat → Option Open → List Char → List UInt8 → Except Problem (List Char)
  | _, none, read, [] => .ok read.reverse
  | _, some o, _, [] => .error (o.problem .endsEarly)
  | position, none, read, byte :: rest =>
      match openWith? position byte with
      | none => .error ⟨.badStart, byte, position, 1⟩
      | some (.inl c) => decodeFrom (position + 1) none (c :: read) rest
      | some (.inr o) => decodeFrom (position + 1) (some o) read rest
  | position, some o, read, byte :: rest =>
      match o.extend? byte with
      | none => .error (o.problem .badContinuation)
      | some (.inl c) => decodeFrom (position + 1) none (c :: read) rest
      | some (.inr o) => decodeFrom (position + 1) (some o) read rest

/-- The text of bytes. -/
def decode (bytes : List UInt8) : Except Problem (List Char) := decodeFrom 0 none [] bytes

/-- The bytes of a character. -/
def encodeChar (c : Char) : List UInt8 :=
  let n := c.toNat
  let tail (k : Nat) : UInt8 := UInt8.ofNat (0x80 + n / 64 ^ k % 64)
  if n < 0x80 then [UInt8.ofNat n]
  else if n < 0x800 then [UInt8.ofNat (0xC0 + n / 64), tail 0]
  else if n < 0x10000 then [UInt8.ofNat (0xE0 + n / 4096), tail 1, tail 0]
  else [UInt8.ofNat (0xF0 + n / 262144), tail 2, tail 1, tail 0]

def encode (s : List Char) : List UInt8 := s.flatMap encodeChar

end TableTalk.Text.Utf8
