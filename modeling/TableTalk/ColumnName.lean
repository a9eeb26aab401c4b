import TableTalk.Text.Blank
import TableTalk.Text.LowerCase
import TableTalk.Text.Word

/-! Clean column names: lower-case word characters, with an underscore for white space. -/
namespace TableTalk.ColumnName
open TableTalk.Text

/-- The clean form of a column name. -/
def normalizeChars (name : List Char) : List Char :=
  collapseBlanks '_' ((lower (trim name)).filter (fun c => isWord c || isBlank c))

def normalize (name : String) : String := String.ofList (normalizeChars name.toList)

end TableTalk.ColumnName
