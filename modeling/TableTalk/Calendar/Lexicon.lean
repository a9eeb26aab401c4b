import TableTalk.Text.LowerCase

/-! English words of dates and times, in any letter case. -/
namespace TableTalk.Calendar
open TableTalk.Text

/-- A word of a date text, as it was written. -/
abbrev Token := List Char

def lowered (token : Token) : String := String.ofList (lower token)

/-- The position of the first group that has the word. -/
def groupOf? (groups : List (List String)) (token : Token) : Option Nat :=
  groups.findIdx? (fun group => group.contains (lowered token))

def weekdays : List (List String) :=
  [["mon", "monday"], ["tue", "tuesday"], ["wed", "wednesday"], ["thu", "thursday"],
   ["fri", "friday"], ["sat", "saturday"], ["sun", "sunday"]]

def months : List (List String) :=
  [["jan", "january"], ["feb", "february"], ["mar", "march"], ["apr", "april"], ["may"],
   ["jun", "june"], ["jul", "july"], ["aug", "august"], ["sep", "sept", "september"],
   ["oct", "october"], ["nov", "november"], ["dec", "december"]]

def clockUnits : List (List String) :=
  [["h", "hour", "hours"], ["m", "minute", "minutes"], ["s", "second", "seconds"]]

def dayHalves : List (List String) := [["am", "a"], ["pm", "p"]]

/-- Words and marks that join the parts of a date and say nothing themselves. -/
def connectives : List String :=
  [" ", ".", ",", ";", "-", "/", "'", "at", "on", "and", "ad", "m", "t", "of",
   "st", "nd", "rd", "th"]

def isWeekday (token : Token) : Bool := (groupOf? weekdays token).isSome

/-- The number of a month, from one. -/
def month? (token : Token) : Option Nat := (groupOf? months token).map (· + 1)

/-- Hours, minutes or seconds, as 0, 1 and 2. -/
def clockUnit? (token : Token) : Option Nat := groupOf? clockUnits token

/-- Before noon as 0, after noon as 1. -/
def dayHalf? (token : Token) : Option Nat := groupOf? dayHalves token

def isConnective (token : Token) : Bool := connectives.contains (lowered token)

def isOf (token : Token) : Bool := lowered token == "of"

/-- Names of universal time. -/
def isUniversal (token : Token) : Bool := ["utc", "gmt", "z"].contains (lowered token)

end TableTalk.Calendar
