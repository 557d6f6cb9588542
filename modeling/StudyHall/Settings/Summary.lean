import StudyHall.Settings.Basic
import StudyHall.Text.Quoted

/-!
# Settings on one line

What may be shown of the settings: no secret, no password and no address of the database.
-/

namespace StudyHall

open Text

namespace Settings

/-- The name of an environment in a summary. -/
def environmentWord : Environment → String
  | .development => "Development"
  | .production => "Production"

/-- The settings that may be shown, with their values as they are written. -/
def shown (s : Settings) : List (String × String) :=
  [ ("app_name", quoted s.appName),
    ("app_version", quoted s.appVersion),
    ("env", environmentWord s.env),
    ("http_port", natText s.httpPort.toNat),
    ("pg_pool_max", natText s.pgPoolMax.toNat),
    ("admin_username", quoted s.adminUsername),
    ("allowed_origins", quoted s.allowedOrigins),
    ("metrics_enabled", if s.metricsEnabled then "true" else "false") ]

/-- The settings on one line; the dots at its end stand for what is not shown. -/
def summary (s : Settings) : String :=
  "ApiConfig \x7b " ++ String.join (s.shown.map fun f => f.1 ++ ": " ++ f.2 ++ ", ") ++ ".. \x7d"

end Settings

end StudyHall
