import TableTalk.Number.Integer

/-! Names of columns from a header line: no name is empty, and none occurs twice. -/
namespace TableTalk.Csv.Header
open TableTalk.Number

/-- The name of a column that has none. -/
def placeholder (index : Nat) : String := "Unnamed: " ++ naturalText index

def numbered (name : String) (n : Nat) : String := name ++ "." ++ naturalText n

/-- The first number from the given one on that makes a name which is not taken. -/
def freeNumber (taken : List String) (name : String) : Nat → Nat → Nat
  | 0, n => n
  | fuel + 1, n =>
      if taken.contains (numbered name n) then freeNumber taken name fuel (n + 1) else n

/-- Names with how often each was met, or with the number that is tried next. -/
abbrev Seen := List (String × Nat)

def Seen.count (seen : Seen) (name : String) : Nat := (seen.lookup name).getD 0

def Seen.set (seen : Seen) (name : String) (n : Nat) : Seen := (name, n) :: seen

/-- Gives the column at an index a name of its own. -/
def settle (state : List String × Seen) (index : Nat) : List String × Seen :=
  let (names, seen) := state
  let name := names.getD index ""
  let n := seen.count name
  if n = 0 then (names, seen.set name 1)
  else
    let n := freeNumber names name (names.length + 1) n
    (names.set index (numbered name n), (seen.set name (n + 1)).set (numbered name n) 1)

/-- Distinct names for the texts of a header. A repeated name gets a number; names given go before
placeholders. -/
def names (texts : List String) : List String :=
  let indexed := texts.zipIdx
  let named := (indexed.filter (fun entry => !entry.1.isEmpty)).map Prod.snd
  let unnamed := (indexed.filter (fun entry => entry.1.isEmpty)).map Prod.snd
  let filled := indexed.map (fun entry => if entry.1.isEmpty then placeholder entry.2 else entry.1)
  ((named ++ unnamed).foldl settle (filled, [])).1

end TableTalk.Csv.Header
