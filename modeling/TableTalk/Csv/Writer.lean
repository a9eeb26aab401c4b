import TableTalk.Text.Symbol

/-! Comma-separated text: one record per line, its fields between commas. A field with a comma, a
quote or a line feed stands in quotes, and quotes inside it are written twice. A carriage return
alone does not need quotes. -/
namespace TableTalk.Csv
open TableTalk.Text Letter

variable {α : Type} [DecidableEq α] [Letter α]

/-- Whether a field cannot stand by itself. -/
def needsQuotes (field : List α) : Bool :=
  field.any (fun c => c = ofChar ',' || c = ofChar '"' || c = ofChar '\n')

def doubleQuotes : List α → List α
  | [] => []
  | c :: rest =>
      if c = ofChar '"' then ofChar '"' :: ofChar '"' :: doubleQuotes rest
      else c :: doubleQuotes rest

def quoteField (field : List α) : List α :=
  ofChar '"' :: (doubleQuotes field ++ [ofChar '"'])

def writeField (field : List α) : List α :=
  if needsQuotes field then quoteField field else field

/-- Fields with a comma before each of them. -/
def writeFurther : List (List α) → List α
  | [] => []
  | field :: rest => ofChar ',' :: (writeField field ++ writeFurther rest)

/-- One record as a line. A single empty field is quoted, to tell it from no field at all. -/
def writeRecord : List (List α) → List α
  | [] => [ofChar '\n']
  | [[]] => [ofChar '"', ofChar '"', ofChar '\n']
  | field :: rest => writeField field ++ writeFurther rest ++ [ofChar '\n']

def writeRecords (records : List (List (List α))) : List α := records.flatMap writeRecord

def write (records : List (List String)) : String :=
  String.ofList (writeRecords (records.map (fun fields => fields.map String.toList)))

section Char

variable {c : Char} {field : List Char}

theorem needsQuotes_eq_false_iff :
    needsQuotes field = false ↔ ∀ c ∈ field, (c ≠ ',' ∧ c ≠ '"') ∧ c ≠ '\n' := by
  simp [needsQuotes]

theorem doubleQuotes_quote (rest : List Char) :
    doubleQuotes ('"' :: rest) = '"' :: '"' :: doubleQuotes rest := rfl

theorem doubleQuotes_of_ne (hc : c ≠ '"') (rest : List Char) :
    doubleQuotes (c :: rest) = c :: doubleQuotes rest := if_neg hc

theorem quoteField_eq (field : List Char) :
    quoteField field = '"' :: (doubleQuotes field ++ ['"']) :=
  rfl

theorem writeFurther_cons (field : List Char) (rest : List (List Char)) :
    writeFurther (field :: rest) = ',' :: (writeField field ++ writeFurther rest) := rfl

end Char

end TableTalk.Csv
