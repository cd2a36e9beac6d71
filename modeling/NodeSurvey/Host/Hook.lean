import NodeSurvey.Host.Basic
import NodeSurvey.Host.Script

/-! Running a file of a host. The first line of the file names the interpreter. -/

namespace NodeSurvey.Host

def shells : List String :=
  ["/bin/sh", "/usr/bin/sh", "/bin/dash", "/usr/bin/dash", "/bin/bash", "/usr/bin/bash",
    "/usr/bin/env"]

def interpreter? (text : List Char) : Option String :=
  match text with
  | '#' :: '!' :: r =>
    ((Text.words (r.takeWhile (· ≠ '\n'))).head?).map String.ofList
  | _ => none

def run (h : Host) (path : String) : Except IoError Script.Outcome := do
  let text ← h.readText path
  match interpreter? text.toList with
  | none => .error .notExecutable
  | some shell =>
    if shells.contains shell then .ok (Script.execute text.toList) else .error .notFound

end NodeSurvey.Host
