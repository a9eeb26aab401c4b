import TableTalk.Cell.Coercion

/-! The settings of the program. Each field is taken from a given value, else from the environment
variable of its name, else from its default; every field that is refused is reported. -/
namespace TableTalk
open TableTalk.Text

structure Settings where
  appName : Symbols := symbols "Ask Your Data"
  appVersion : Symbols := symbols "1.0.0"
  debug : Bool := false
  logLevel : Symbols := symbols "INFO"
  logDirectory : Symbols := symbols "logs"
  logToFile : Bool := true
  host : Symbols := symbols "0.0.0.0"
  port : Int := 8000
  /-- The largest file that is read, in units of 1048576 bytes. -/
  maxUploadSize : Int := 10
  /-- How many rows at the start decide the type of a column. -/
  typeSampleSize : Int := 100
  /-- The share of cells that must be passed for a column to have a type. -/
  typeThreshold : Float := 0.8
  /-- The count of rows where a question gives none. -/
  defaultLimit : Int := 10
  resultPreviewRows : Int := 50
  chartMaxPoints : Int := 20

namespace Settings
open Verdict

/-- Where values come from: those given, then those of the environment. -/
structure Sources where
  given : List (String × Cell)
  environment : List (String × String)

def Sources.find? (sources : Sources) (name : String) : Option Cell :=
  (sources.given.lookup name).or ((sources.environment.lookup name).map .text)

/-- A share above zero, and at most the whole. -/
def readShare (cell : Cell) : Except Refusal Float := do
  let share ← Coercion.float cell
  if 0 < share ∧ share ≤ 1 then .ok share else .error .outOfRange

def readPositive (cell : Cell) : Except Refusal Int := do
  let n ← Coercion.integer cell
  if 0 < n then .ok n else .error .outOfRange

/-- The settings of given values and an environment. -/
def ofSources (sources : Sources) : Verdict Settings :=
  let defaults : Settings := {}
  ((((((((((((((Verdict.apply (.ok Settings.mk)
    (field sources.find? "APP_NAME" defaults.appName Coercion.text)).apply
    (field sources.find? "APP_VERSION" defaults.appVersion Coercion.text)).apply
    (field sources.find? "DEBUG" defaults.debug Coercion.truth)).apply
    (field sources.find? "LOG_LEVEL" defaults.logLevel Coercion.text)).apply
    (field sources.find? "LOG_DIR" defaults.logDirectory Coercion.text)).apply
    (field sources.find? "LOG_TO_FILE" defaults.logToFile Coercion.truth)).apply
    (field sources.find? "HOST" defaults.host Coercion.text)).apply
    (field sources.find? "PORT" defaults.port Coercion.integer)).apply
    (field sources.find? "MAX_UPLOAD_SIZE_MB" defaults.maxUploadSize Coercion.integer)).apply
    (field sources.find? "TYPE_SAMPLE_SIZE" defaults.typeSampleSize readPositive)).apply
    (field sources.find? "TYPE_THRESHOLD" defaults.typeThreshold readShare)).apply
    (field sources.find? "DEFAULT_LIMIT" defaults.defaultLimit readPositive)).apply
    (field sources.find? "RESULT_PREVIEW_ROWS" defaults.resultPreviewRows Coercion.integer)).apply
    (field sources.find? "CHART_MAX_POINTS" defaults.chartMaxPoints Coercion.integer))

end Settings
end TableTalk
