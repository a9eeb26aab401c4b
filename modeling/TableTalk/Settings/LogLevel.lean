import TableTalk.Fault
import TableTalk.Text.LowerCase
import TableTalk.Text.Symbol

/-! The level named by a setting, and where a log is written. -/
namespace TableTalk.LogLevel
open TableTalk.Text

/-- The named levels, by weight. -/
def levels : List (String × Nat) :=
  [("CRITICAL", 50), ("FATAL", 50), ("ERROR", 40), ("WARNING", 30), ("WARN", 30), ("INFO", 20),
   ("DEBUG", 10), ("NOTSET", 0)]

def lineFormat : String := "%(levelname)s:%(name)s:%(message)s"

/-- The weight of a level in any letter case; a name that stands for nothing means INFO, and the
name of the line format is refused. -/
def ofName (name : Symbols) : Except Fault Nat :=
  let name := String.ofList (upperAscii (shown name).toList)
  if name = "BASIC_FORMAT" then .error (.unknownLevel lineFormat)
  else .ok ((levels.lookup name).getD 20)

inductive Destination where
  | console
  | file
  deriving DecidableEq, Repr

def destinations (toFile : Bool) : List Destination :=
  if toFile then [.console, .file] else [.console]

end TableTalk.LogLevel
