/-! Texts from outside, in which half of a surrogate pair may stand without the other half. -/
namespace TableTalk.Text

/-- A character of a text: a Unicode character, or half of a surrogate pair. -/
inductive Symbol where
  | char (c : Char)
  | half (unit : Nat)
  deriving DecidableEq, Repr

abbrev Symbols := List Symbol

def symbols (s : String) : Symbols := s.toList.map Symbol.char

/-- The text of symbols; a lone half shows as the replacement character. -/
def shownChar : Symbol → Char
  | .char c => c
  | .half _ => Char.ofNat 0xFFFD

def shown (text : Symbols) : String := String.ofList (text.map shownChar)

def Symbol.isHalf : Symbol → Bool
  | .char _ => false
  | .half _ => true

/-- Whether the symbols are a text of Unicode characters. -/
def isWhole (text : Symbols) : Bool := text.all (fun symbol => !symbol.isHalf)

/-- A text with a lone half in it. -/
structure BrokenText where
  symbols : Symbols
  isBroken : isWhole symbols = false
  deriving DecidableEq, Repr

/-- The change of a text that changes each part between lone halves on its own; the part that was
read stands last one first. -/
def mapPartsFrom (f : List Char → List Char) (part : List Char) : Symbols → Symbols
  | [] => (f part.reverse).map .char
  | .char c :: rest => mapPartsFrom f (c :: part) rest
  | .half unit :: rest =>
      (f part.reverse).map .char ++ .half unit :: mapPartsFrom f [] rest

def mapParts (f : List Char → List Char) (text : Symbols) : Symbols := mapPartsFrom f [] text

/-- Where the first lone halves of a text stand: the first of them, its place, and how many there
are in a row. -/
def firstHalves? (text : Symbols) : Option (Nat × Nat × Nat) :=
  match text.dropWhile (fun symbol => !symbol.isHalf) with
  | .half unit :: rest =>
      some (unit, (text.takeWhile (fun symbol => !symbol.isHalf)).length,
        (rest.takeWhile Symbol.isHalf).length + 1)
  | _ => none

/-- Kinds of characters among which are those of Unicode. -/
class Letter (α : Type) where
  ofChar : Char → α

instance : Letter Char := ⟨id⟩

instance : Letter Symbol := ⟨.char⟩

@[simp] theorem ofChar_char (c : Char) : (Letter.ofChar c : Char) = c := rfl

@[simp] theorem ofChar_symbol (c : Char) : (Letter.ofChar c : Symbol) = .char c := rfl

theorem shown_symbols (s : String) : shown (symbols s) = s := by
  simp [shown, symbols, shownChar, Function.comp_def]

end TableTalk.Text
