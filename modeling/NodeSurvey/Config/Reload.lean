import NodeSurvey.Label.Aggregation

/-! Loading a configuration. It is built from nothing every time: the defaults of the sources, the
file, the options of the command line, and last what the command line forces. -/

namespace NodeSurvey

/-- What is found at the path of the configuration file. -/
abbrev FileState := Except IoError String

namespace Config

def applyFile (c : Config) (path : String) : FileState → Logged Config
  | .ok text =>
    match c.applyDocument text with
    | (c, none) => return c
    | (c, some e) => do
      Logged.report (.configRefused e)
      return c
  | .error e => do
    Logged.report (.configUnreadable path e)
    return c

def applyOptions (c : Config) (options : String) : Logged Config :=
  match c.applyDocument options with
  | (c, none) => return c
  | (c, some e) => do
    Logged.report (.optionsRefused e)
    return c

def force (c : Config) : Option Bool → Config
  | some b => { c with core := { c.core with noPublish := b } }
  | none => c

def load (sources : List Source) (path : String) (file : FileState) (options : String)
    (forced : Option Bool) : Logged Config := do
  let c := ofDefaults (sources.map fun s => (s.name, s.defaults))
  let c ← c.applyFile path file
  let c ← c.applyOptions options
  return c.force forced

def installSettings (c : Config) (sources : List ActiveSource) : Logged (List ActiveSource) :=
  sources.mapM fun a =>
    match c.sources.get? a.source.name with
    | some given => return ⟨a.source, ← a.source.install a.settings given⟩
    | none => return a

/-- Loads the configuration and puts it in force. -/
def reload (sources : List ActiveSource) (path : String) (file : FileState) (options : String)
    (forced : Option Bool) : Logged (Config × List ActiveSource) := do
  let c ← load (sources.map (·.source)) path file options forced
  return (c, ← c.installSettings sources)

end Config

end NodeSurvey
