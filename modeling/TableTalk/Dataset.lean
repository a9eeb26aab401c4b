import TableTalk.Answer
import TableTalk.Problem

/-! The table in use: its rows with the schema and the classification made of them. -/
namespace TableTalk

structure Dataset where
  rows : Table
  columns : List (String × ColumnType)
  filename : String
  classification : Classification

/-- What is shown of a dataset at first sight. -/
structure Overview where
  filename : String
  totalRows : Nat
  totalColumns : Nat
  numeric : List String
  text : List String
  date : List String
  preview : Table

namespace Dataset

/-- The dataset of some rows, of which there must be one, all with legal cells. -/
def build (settings : Settings) (rows : Table) (filename : String) : Except Problem Dataset := do
  if rows.isEmpty then .error .noData
  let sampling := Sampling.ofSettings settings none none
  let classification ← (Classification.classify sampling rows).mapError .fault
  (Answer.checkCells "DatasetContext" rows).mapError .fault
  return ⟨rows, rows.schema classification, filename, classification⟩

/-- How many rows an overview shows unless told otherwise. -/
def previewSize : Int := 5

def overview (dataset : Dataset) (previewRows : Int) : Overview :=
  { filename := dataset.filename
    totalRows := dataset.classification.totalRows
    totalColumns := dataset.classification.totalColumns
    numeric := dataset.classification.numeric
    text := dataset.classification.text
    date := dataset.classification.date
    preview := Table.takeFirst dataset.rows previewRows }

end Dataset
end TableTalk
