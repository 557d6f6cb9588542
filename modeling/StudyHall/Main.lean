import StudyHall.Command

/-!
# The program

Reads the variables of the service from the environment, under their names in capitals, and
reports how the process ends. No database is linked in, so the process never comes to serve.
-/

/-- The variables that are set, under their names in capitals. -/
def StudyHall.Command.setVariables : IO (List (String × String)) := do
  let names := StudyHall.Variable.all.map fun v => StudyHall.Text.asciiUpper v.name
  (names ++ [StudyHall.Command.logVariable]).filterMapM fun name => do
    match ← IO.getEnv name with
    | some value => return some (name, value)
    | none => return none

/-- Reports the failure on the error channel and ends with its exit code. -/
def main : IO UInt32 := do
  let ending := StudyHall.Command.withoutDatabase (← StudyHall.Command.setVariables)
  for line in ending.lines do
    IO.eprintln line
  return ending.failure.exitCode
