import StudyHall.Log.Filter
import StudyHall.Settings.Basic

/-!
# The command

What becomes of the process before it serves anybody: without settings it ends at once; with
settings it sets up its log, where it tells which directives it ignores, and ends when the database
cannot be reached. Each end is a failure, told in one line with the cause below it.
-/

namespace StudyHall.Command

/-- Why the process ends before it serves. -/
inductive Failure where
  /-- The environment does not give the settings. -/
  | configuration (cause : SettingsError)
  /-- A directive of the log is to be cut within a character. -/
  | brokenDirective
  /-- The database is not there. -/
  | database
  deriving DecidableEq

namespace Failure

/-- The first line of the report; that of a breakdown is empty. -/
def headline : Failure → String
  | .configuration _ => "Error: failed to load configuration"
  | .brokenDirective => ""
  | .database => "Error: failed to connect to Postgres"

/-- The cause below the first line, if there is one to tell. -/
def cause? : Failure → Option String
  | .configuration cause => some cause.message
  | .brokenDirective => some "a directive of the log is cut within a character"
  | .database => none

/-- The lines of the report. -/
def lines (f : Failure) : List String :=
  match f.cause? with
  | some cause => [f.headline, "", "Caused by:", "    " ++ cause]
  | none => [f.headline]

/-- The exit code of a process that failed; a breakdown has one of its own. -/
def exitCode : Failure → UInt32
  | .configuration _ => 1
  | .brokenDirective => 101
  | .database => 1

end Failure

/-- How a process ends before it serves. -/
structure Ending where
  /-- What it ignored among the directives of its log. -/
  ignored : List Log.Ignored
  failure : Failure
  deriving DecidableEq

/-- The lines on the error channel. -/
def Ending.lines (e : Ending) : List String :=
  e.ignored.map Log.Ignored.message ++ e.failure.lines

/-- The variable that holds a list of directives for the log. -/
def logVariable : String := "RUST_LOG"

/-- How a process ends that is given an environment and no database. -/
def withoutDatabase (vars : List (String × String)) : Ending :=
  match Settings.read vars with
  | .error e => ⟨[], .configuration e⟩
  | .ok s =>
      let setup := Log.Setup.of s.logLevel (vars.lookup logVariable)
      ⟨setup.ignored, if setup.filter?.isSome then .database else .brokenDirective⟩

end StudyHall.Command
