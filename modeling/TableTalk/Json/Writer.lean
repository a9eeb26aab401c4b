import TableTalk.Json.Value
import TableTalk.Number.Shortest

/-! The text of JSON values in ASCII, on one line, with a space after each comma and colon. -/
namespace TableTalk.Json
open TableTalk.Text TableTalk.Number

def hexDigit (n : Nat) : Char := Nat.digitChar n

/-- A code unit of 16 bits as an escape of four hexadecimal digits. -/
def unitEscape (unit : Nat) : List Char :=
  ['\\', 'u', hexDigit (unit / 4096 % 16), hexDigit (unit / 256 % 16), hexDigit (unit / 16 % 16),
   hexDigit (unit % 16)]

/-- The two halves of a character beyond 16 bits. -/
def highHalf (code : Nat) : Nat := 0xD800 + (code - 0x10000) / 1024

def lowHalf (code : Nat) : Nat := 0xDC00 + (code - 0x10000) % 1024

def writeChar (c : Char) : List Char :=
  if c = '"' then ['\\', '"']
  else if c = '\\' then ['\\', '\\']
  else if c = '\n' then ['\\', 'n']
  else if c = '\r' then ['\\', 'r']
  else if c = '\t' then ['\\', 't']
  else if c.toNat = 8 then ['\\', 'b']
  else if c.toNat = 12 then ['\\', 'f']
  else if 32 ≤ c.toNat ∧ c.toNat < 127 then [c]
  else if c.toNat < 0x10000 then unitEscape c.toNat
  else unitEscape (highHalf c.toNat) ++ unitEscape (lowHalf c.toNat)

def writeSymbol : Symbol → List Char
  | .char c => writeChar c
  | .half unit => unitEscape unit

def writeString (text : Symbols) : List Char := '"' :: (text.flatMap writeSymbol ++ ['"'])

def writeFloat (x : Float) : List Char :=
  match Binary.ofFloat x with
  | .notANumber => "NaN".toList
  | .infinite negative => if negative then "-Infinity".toList else "Infinity".toList
  | .finite .. => (floatText x).toList

mutual

def write : Value → List Char
  | .null => "null".toList
  | .bool b => if b then "true".toList else "false".toList
  | .int n => (integerText n).toList
  | .float x => writeFloat x
  | .string text => writeString text
  | .array items => '[' :: (writeItems items ++ [']'])
  | .object members => '\x7b' :: (writeMembers members ++ ['\x7d'])

def writeItems : List Value → List Char
  | [] => []
  | [item] => write item
  | item :: next :: rest => write item ++ ',' :: ' ' :: writeItems (next :: rest)

def writeMembers : List (Symbols × Value) → List Char
  | [] => []
  | [(name, value)] => writeString name ++ ':' :: ' ' :: write value
  | (name, value) :: next :: rest =>
      writeString name ++ ':' :: ' ' :: (write value ++ ',' :: ' ' :: writeMembers (next :: rest))

end

end TableTalk.Json
