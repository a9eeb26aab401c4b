/-! Counting how often values occur. -/
namespace TableTalk.Tally

variable {α : Type} [DecidableEq α]

/-- Counts with one more occurrence of a value; a new value comes last. -/
def add (counts : List (α × Nat)) (value : α) : List (α × Nat) :=
  match counts with
  | [] => [(value, 1)]
  | (other, n) :: rest =>
      if other = value then (other, n + 1) :: rest else (other, n) :: add rest value

/-- The distinct values in order of first appearance, with how often each occurs. -/
def ofList (values : List α) : List (α × Nat) := values.foldl add []

/-- The first value with the greatest count. -/
def mostFrequent? (counts : List (α × Nat)) : Option (α × Nat) :=
  counts.foldl (fun best next =>
    match best with
    | none => some next
    | some best => if best.2 < next.2 then some next else some best) none

end TableTalk.Tally
