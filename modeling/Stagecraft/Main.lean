import Stagecraft.Performance

/-!
The command line: a script, and a playbill if there is one. The log and the last state of the scene
go to the standard output, a setback to the standard error.
-/

namespace Stagecraft.CommandLine

def reason : IO.Error → String
  | .noFileOrDirectory _ _ _ => "No such file or directory (os error 2)"
  | .permissionDenied _ _ _ => "Permission denied (os error 13)"
  | error => error.toString

def read (path : String) : IO Material := do
  try
    let text ← IO.FS.readFile path
    return ⟨path, .ok text⟩
  catch error => return ⟨path, .error (reason error)⟩

def variableNames : List String :=
  ["PIVOT_MAX_CASCADE_DEPTH", "PIVOT_MAX_EVENTS", "PIVOT_STEP_BUDGET"]

def readVariables : IO (String → Option String) := do
  let entries ← variableNames.mapM fun name => do return (name, ← IO.getEnv name)
  return fun name => (entries.lookup name).join

def describe (setback : Setback) : String :=
  let cause := match setback.cause? with
    | some cause => "\n\nCaused by:\n    " ++ cause
    | none => ""
  "Error: " ++ setback.message ++ cause

def perform (args : List String) : IO UInt32 := do
  let script ← args[0]?.mapM read
  let playbill ← args[1]?.mapM read
  let performance := Performance.of ⟨script, playbill, ← readVariables⟩
  for line in performance.logLines do
    IO.println line
  match performance.ending with
  | .ok snapshot =>
    IO.println ("INFO pivot_runner: final scene:\n" ++ Performance.finalText snapshot)
    return 0
  | .error setback =>
    IO.eprintln (describe setback)
    return 1

end Stagecraft.CommandLine

def main (args : List String) : IO UInt32 := Stagecraft.CommandLine.perform args
