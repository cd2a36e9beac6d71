import NodeSurvey.Agent.Run
import NodeSurvey.CommandLine.Basic
import NodeSurvey.Labeler.Offline

/-! The program. The files that the sources may look at are named on the standard input, one path a
line; they are read again every second. The labels of each cycle are printed, and what there is to
report goes to the error output. Without a network every dial fails, so only a dry run lasts. -/

namespace NodeSurvey.Program

def name : String := "nfd-worker"

def usage : String :=
  "Usage: " ++ name ++ " [OPTIONS]\n\nOptions:\n" ++
    String.join (CommandLine.Opt.all.map fun o =>
      "  --" ++ o.long ++ (if o.takesValue then " <VALUE>" else "") ++ "\n")

/-- How long the program waits before it looks at the files again. -/
def tick : Nat := 1000

partial def readLines (input : IO.FS.Stream) : IO (List String) := do
  let line ← input.getLine
  if line.isEmpty then return []
  return Text.trimString line :: (← readLines input)

def readHost (paths : List String) : IO Host := do
  let mut changes := []
  for path in paths do
    match ← (IO.FS.readBinFile path).toBaseIO with
    | .ok bytes => changes := Host.Change.write path (.bytes bytes.toList) :: changes
    | .error _ => pure ()
  return (Host.empty "/").applyAll changes.reverse

def tell (l : Logged (Agent.Run × List Agent.Act)) : IO Agent.Run := do
  for notice in l.notices do IO.eprintln notice.line
  for act in l.value.2 do
    match act with
    | .discovered labels =>
      for label in labels.toList do IO.println (label.1 ++ "=" ++ label.2)
    | _ => pure ()
  return l.value.1

/-- What a new look at the files shows of the configuration file. -/
def events (path : Path) (before after : Host) : List Watch.Event :=
  let read (h : Host) := (h.readNamed h.readText path.toString).toOption
  if read before = read after then [] else [⟨.modified .any, [path]⟩]

partial def serve (paths : List String) (started : Nat) (run : Agent.Run) : IO UInt32 := do
  match run.progress with
  | .ended _ (.ok ()) => return 0
  | .ended _ (.error e) =>
    IO.eprintln ("Error: " ++ e.message)
    return 1
  | .serving x =>
    IO.sleep tick.toUInt32
    let host ← readHost paths
    let now := Duration.ofMilliseconds ((← IO.monoMsNow) - started)
    let events := events x.agent.configPath run.site.host host
    let site := { run.site with host := host, clock := now, events := events }
    serve paths started (← tell ({ run with site := site }).settle)

def run (o : AgentOptions) : IO UInt32 := do
  let made := Agent.ofOptions o ((← IO.getEnv "NODE_NAME").getD "unknown")
  for notice in made.notices do IO.eprintln notice.line
  match made.value with
  | .error e =>
    IO.eprintln ("Error: " ++ e.message)
    return 1
  | .ok agent =>
    let listed ← readLines (← IO.getStdin)
    let credentials := [o.labeler.authorityFile, o.labeler.certificateFile, o.labeler.keyFile]
    let paths := agent.configPath.toString :: credentials.filterMap id ++ listed
    let site : Agent.Site := ⟨← readHost paths, .zero, [],
      .offline agent.connection.dialLimit, fun _ => .accepted⟩
    serve paths (← IO.monoMsNow) (← tell (Agent.Run.start site agent))

end NodeSurvey.Program

def main (args : List String) : IO UInt32 :=
  match NodeSurvey.CommandLine.read args with
  | .ok invocation => NodeSurvey.Program.run invocation.agent
  | .error .displayHelp => do
    IO.print NodeSurvey.Program.usage
    return 0
  | .error .displayVersion => do
    IO.println (NodeSurvey.Program.name ++ " " ++ NodeSurvey.version)
    return 0
  | .error e => do
    IO.eprintln ("error: " ++ e.message)
    return 2
