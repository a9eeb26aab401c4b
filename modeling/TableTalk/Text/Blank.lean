import TableTalk.Text.Range

/-! White space of a text: the characters that separate words and that trimming removes. -/
namespace TableTalk.Text

/-- White space by Unicode, with the four separator controls 28 to 31. -/
def blankRanges : List (Nat × Nat) :=
  [(9, 13), (28, 32), (133, 133), (160, 160), (5760, 5760), (8192, 8202), (8232, 8233),
   (8239, 8239), (8287, 8287), (12288, 12288)]

def isBlank (c : Char) : Bool := inRanges blankRanges c.toNat

def trimStart (s : List Char) : List Char := s.dropWhile isBlank

def trimEnd (s : List Char) : List Char := (s.reverse.dropWhile isBlank).reverse

/-- A text without the white space at its two ends. -/
def trim (s : List Char) : List Char := trimEnd (trimStart s)

def startsBlank : List Char → Bool
  | [] => false
  | c :: _ => isBlank c

/-- Runs of white space become one separator each. -/
def collapseBlanks (separator : Char) : List Char → List Char
  | [] => []
  | c :: rest =>
      if isBlank c then
        if startsBlank rest then collapseBlanks separator rest
        else separator :: collapseBlanks separator rest
      else c :: collapseBlanks separator rest

end TableTalk.Text
