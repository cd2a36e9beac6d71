import NodeSurvey.Label.Whitelist
import NodeSurvey.Source.Basic

/-! From the findings of the sources to the labels of a node. Every feature gives at most one label,
whose name and value must be well formed and whose name must be on the whitelist. Labels of later
sources win, and a source in trouble loses nothing but its own. -/

namespace NodeSurvey

abbrev Labels := Dict String

structure Finding where
  source : String
  /-- Whether the labels of the source begin with its name. -/
  prefixed : Bool
  outcome : Except Trouble Features

namespace Label

def localPart (name : String) : String :=
  match Text.splitOnce '/' name.toList with
  | some (_, part) => String.ofList part
  | none => name

def isNamespaced (name : String) : Bool := (Text.splitOnce '/' name.toList).isSome

def stem (source : String) (prefixed : Bool) : String := if prefixed then source ++ "-" else ""

/-- The label for a feature. A feature with a domain keeps its name. -/
def labelName (stem feature : String) : String :=
  if isNamespaced feature then feature else stem ++ feature

/-- What is checked in place of a label name. A name that has no domain of its own is checked behind
a domain, so that it is a name part and nothing else. -/
def checkedName (stem feature : String) : String :=
  if isNamespaced feature then feature else "ns/" ++ stem ++ feature

def listedName (stem feature : String) : String :=
  if isNamespaced feature then localPart feature else stem ++ feature

def ofFeature (w : Whitelist) (stem feature : String) (value : FeatureValue) :
    Except Notice (String × String) :=
  let label := labelName stem feature
  let value := value.render
  match nameViolations (checkedName stem feature), valueViolations value with
  | v :: vs, _ => .error (.invalidName label (v :: vs))
  | [], v :: vs => .error (.invalidValue label value (v :: vs))
  | [], [] =>
    let name := listedName stem feature
    if w.accepts name then .ok (label, value) else .error (.notListed name w.pattern)

def ofFeatures (w : Whitelist) (stem : String) :
    List (String × FeatureValue) → Logged (List (String × String))
  | [] => return []
  | (feature, value) :: r =>
    match ofFeature w stem feature value with
    | .ok label => return label :: (← ofFeatures w stem r)
    | .error n => do
      Logged.report n
      ofFeatures w stem r

def ofFinding (w : Whitelist) (f : Finding) : Logged (Except SourceError Labels) :=
  match f.outcome with
  | .error t => return .error ⟨f.source, t⟩
  | .ok features => do
    let labels ← ofFeatures w (stem f.source f.prefixed) features.toList
    return .ok (.ofList labels)

/-- Adds what one source gives to the labels of those before it. -/
def addFinding (w : Whitelist) (labels : Labels) (f : Finding) : Logged Labels := do
  match ← ofFinding w f with
  | .ok more => return labels.union more
  | .error e => do
    Logged.report (.sourceLost e)
    Logged.report .continuing
    return labels

end Label

def Source.find (s : Source) (settings : SourceSettings) (h : Host) : Logged Finding := do
  return ⟨s.name, s.prefixed, ← (s.discover settings h).run⟩

structure ActiveSource where
  source : Source
  settings : SourceSettings

namespace ActiveSource

def start (s : Source) : ActiveSource := ⟨s, s.defaults⟩

def find (a : ActiveSource) (h : Host) : Logged Finding := a.source.find a.settings h

end ActiveSource

def discoverAll (w : Label.Whitelist) (sources : List ActiveSource) (h : Host) : Logged Labels :=
  sources.foldlM (fun labels a => do Label.addFinding w labels (← a.find h)) .empty

end NodeSurvey
