/-! Character classes given by sorted ranges of code points. -/
namespace TableTalk.Text

/-- Whether a code point lies in one of the closed ranges, which are disjoint and increasing;
the search stops at the first range beyond it. -/
def inRanges : List (Nat × Nat) → Nat → Bool
  | [], _ => false
  | (first, last) :: rest, n =>
      if n < first then false else decide (n ≤ last) || inRanges rest n

end TableTalk.Text
