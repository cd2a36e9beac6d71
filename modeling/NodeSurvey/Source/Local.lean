import NodeSurvey.Source.Basic

/-! Features that the operator puts on the host: lines that hooks print and lines of feature files.
Their labels have no common start, so they can stand in for those of every other source. -/

namespace NodeSurvey.Source.Local

def hookDirectory : String := "etc/kubernetes/node-feature-discovery/source.d"

def featureDirectory : String := "etc/kubernetes/node-feature-discovery/features.d"

/-- The feature on a line: a name with a value, or a name alone. -/
def feature? (line : List Char) : Option (String × FeatureValue) :=
  let line := Text.trim line
  if line.isEmpty then none
  else
    match Text.splitOnce '=' line with
    | some (name, value) => some (String.ofList name, .text (String.ofList value))
    | none => some (String.ofList line, .present)

def features (text : String) : List (String × FeatureValue) :=
  (Text.lines text.toList).filterMap feature?

/-- Adds the features of a text to those that are known, line by line. -/
def addFeatures (known : Features) (text : String) : Features :=
  (features text).foldl (fun d e => d.insert e.1 e.2) known

def listOptional (h : Host) (directory : String) : Discovery (List String) :=
  match h.list directory with
  | .error .notFound => return []
  | result => Discovery.reading (.listDirectory (h.fullName directory)) result

/-- What comes of running a file. -/
abbrev Runner := String → Except IoError Script.Outcome

def runHook (h : Host) (run : Runner) (path : String) : Except Failure String :=
  match run path with
  | .error e => .error (.within (.runHook (h.fullName path)) (.io e))
  | .ok outcome =>
    if outcome.status.succeeded then .ok outcome.output
    else .error (.hook (h.fullName path) outcome.status)

/-- What a hook prints, if it ends well. Files that are not executable are no hooks. -/
def hookText? (h : Host) (run : Runner) (name : String) : Logged (Option String) :=
  let path := hookDirectory ++ "/" ++ name
  if h.isExecutable path then
    match runHook h run path with
    | .ok output => return some output
    | .error f => do
      Logged.report (.hookFailed f)
      return none
  else return none

def fileText? (h : Host) (read : String → Except IoError String) (name : String) :
    Logged (Option String) :=
  let path := featureDirectory ++ "/" ++ name
  if h.isFile path then
    match read path with
    | .ok text => return some text
    | .error e => do
      Logged.report (.featureFileUnreadable (h.fullName path) e)
      return none
  else return none

/-- Adds what an item of a directory states to what is known; an item without a text adds
nothing. -/
def addItem (text? : String → Logged (Option String)) (known : Features) (name : String) :
    Logged Features := do
  match ← text? name with
  | some text => return addFeatures known text
  | none => return known

/-- First the hooks and then the feature files, each in order of their names. -/
def discoverBy (run : Runner) (read : String → Except IoError String) (h : Host) :
    Discovery Features := do
  let hooks ← listOptional h hookDirectory
  let printed ← ExceptT.lift (hooks.foldlM (addItem (hookText? h run)) .empty)
  let files ← listOptional h featureDirectory
  ExceptT.lift (files.foldlM (addItem (fileText? h read)) printed)

def discover (h : Host) : Discovery Features := discoverBy h.run h.readText h

end NodeSurvey.Source.Local

namespace NodeSurvey.Source

def local' : Source := ⟨"local", false, .none, fun _ => Local.discover⟩

end NodeSurvey.Source
