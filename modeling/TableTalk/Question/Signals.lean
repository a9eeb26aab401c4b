import TableTalk.Cell.Coercion

/-! The operations that a question asks for, and the query text that describes them. -/
namespace TableTalk

structure Signals where
  limitHead : Option Int := none
  limitTail : Option Int := none
  filterColumn : Option String := none
  /-- Whether grouping was asked for, with or without a column. -/
  groupRequested : Bool := false
  groupColumn : Option String := none
  averageRequested : Bool := false
  sumRequested : Bool := false
  aggregateColumn : Option String := none
  deriving DecidableEq, Repr

namespace Signals
open TableTalk.Number Coercion Verdict

/-- A column name that can be used: no name and the empty name cannot. -/
def named? (column : Option String) : Option String := column.filter (· ≠ "")

/-- Whether no operation is asked for. -/
def isEmpty (signals : Signals) : Bool :=
  signals.limitHead.isNone && signals.limitTail.isNone && (named? signals.filterColumn).isNone &&
    !signals.groupRequested && !signals.averageRequested && !signals.sumRequested

/-- What the query selects: groups go before averages, averages before sums. -/
def projection (signals : Signals) : String :=
  if signals.groupRequested then "*, COUNT(*) as count"
  else match named? signals.aggregateColumn with
    | none => "*"
    | some column =>
        if signals.averageRequested then "AVG(" ++ column ++ ") as average_" ++ column
        else if signals.sumRequested then "SUM(" ++ column ++ ") as total_" ++ column
        else "*"

/-- The query text; filters and rows taken from the end are not shown. -/
def query (signals : Signals) : Except Fault String :=
  let select := "SELECT " ++ signals.projection ++ " FROM data"
  match signals.limitHead with
  | none => .ok select
  | some count => return select ++ " LIMIT " ++ (← writeInteger count)

/-- Signals from cells by field name. Refused fields are counted in the fault. -/
def ofCells (cells : List (String × Cell)) : Except Fault Signals :=
  let find? (name : String) : Option Cell := cells.lookup name
  let verdict := (((((((Verdict.apply (.ok Signals.mk)
    (field find? "limit_head" none (optional integer))).apply
    (field find? "limit_tail" none (optional integer))).apply
    (field find? "filter_column" none (optional name))).apply
    (field find? "group_requested" false truth)).apply
    (field find? "group_column" none (optional name))).apply
    (field find? "aggregate_average" false truth)).apply
    (field find? "aggregate_sum" false truth)).apply
    (field find? "aggregate_column" none (optional name))
  verdict.mapError (fun refused => .invalidValues "QuerySignals" refused.length)

end Signals
end TableTalk
