import TableTalk.Settings
import TableTalk.Text.LowerCase

/-! Starting the server: what it is called with, and what is logged around the call. -/
namespace TableTalk.Launch
open TableTalk.Text TableTalk.Number

structure ServerCall where
  app : String
  host : Symbols
  port : Int
  reload : Bool
  logLevel : Symbols
  deriving DecidableEq, Repr

/-- How the call of the server ends. -/
inductive Ending where
  | returned
  | interrupted
  | failed (reason : String)
  deriving DecidableEq, Repr

inductive Severity where
  | info
  | error
  deriving DecidableEq, Repr

def Severity.name : Severity → String
  | .info => "INFO"
  | .error => "ERROR"

def call (settings : Settings) : ServerCall :=
  { app := "src.ask_your_data.api.routes:app"
    host := settings.host
    port := settings.port
    reload := settings.debug
    logLevel := mapParts lower settings.logLevel }

def ruler : String := "".pushn '=' 50

/-- The lines logged before the call. -/
def banner (settings : Settings) : List Symbols :=
  [symbols ruler,
   symbols "STARTING " ++ settings.appName,
   symbols "Version: " ++ settings.appVersion,
   symbols ("Environment: " ++ (if settings.debug then "Development" else "Production")),
   symbols ("Type sampling: " ++ integerText settings.typeSampleSize ++ " rows, threshold " ++
     floatText settings.typeThreshold),
   symbols ruler]

/-- The lines logged after the call. -/
def Ending.lines : Ending → List (Severity × Symbols)
  | .returned => []
  | .interrupted => [(.info, symbols "Shutting down server...")]
  | .failed reason => [(.error, symbols ("Failed to start server: " ++ reason))]

def log (settings : Settings) (ending : Ending) : List (Severity × Symbols) :=
  (banner settings).map (fun line => (.info, line)) ++ ending.lines

/-- A failure of the server leaves the program; an interruption does not. -/
def Ending.failure? : Ending → Option String
  | .failed reason => some reason
  | _ => none

end TableTalk.Launch
