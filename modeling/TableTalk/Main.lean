import TableTalk.Launch

/-! The command that starts the program: it reads the settings from the environment and logs what
the server is started with. -/
namespace TableTalk.Main

def settingNames : List String :=
  ["APP_NAME", "APP_VERSION", "DEBUG", "LOG_LEVEL", "LOG_DIR", "LOG_TO_FILE", "HOST", "PORT",
   "MAX_UPLOAD_SIZE_MB", "TYPE_SAMPLE_SIZE", "TYPE_THRESHOLD", "DEFAULT_LIMIT",
   "RESULT_PREVIEW_ROWS", "CHART_MAX_POINTS"]

/-- The variables of the environment that are settings. -/
def environment : IO (List (String × String)) := do
  let values ← settingNames.mapM fun name => return (name, ← IO.getEnv name)
  return values.filterMap (fun (name, value) => value.map (fun value => (name, value)))

end TableTalk.Main

def main : IO UInt32 := do
  match TableTalk.Settings.ofSources ⟨[], ← TableTalk.Main.environment⟩ with
  | .ok settings =>
      for (severity, line) in TableTalk.Launch.log settings .returned do
        IO.println (severity.name ++ " " ++ TableTalk.Text.shown line)
      return 0
  | .error refused =>
      for (name, refusal) in refused do
        IO.eprintln (name ++ ": " ++ refusal.code)
      return 1
