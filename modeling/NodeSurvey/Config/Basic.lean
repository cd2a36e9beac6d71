import NodeSurvey.Settings.Basic
import NodeSurvey.Yaml.Document

/-! The configuration of an agent: its core settings and those of its sources. A document is laid
over a configuration section by section; a section that does not fit keeps its value and hinders no
other, and the first failure in the order of the document is reported. -/

namespace NodeSurvey

open Yaml Settings

structure Config where
  core : CoreSettings
  sources : Dict SourceSettings

inductive ConfigPart where
  | topLevel
  | sources
deriving DecidableEq

inductive ConfigError where
  | malformed
  | notAMapping (part : ConfigPart)
  | core (e : DecodeError)
  | source (name : String) (e : DecodeError)
deriving DecidableEq

def ConfigError.message : ConfigError → String
  | malformed => "invalid YAML"
  | notAMapping .topLevel => "top level section must be a mapping"
  | notAMapping .sources => "sources section must be a mapping"
  | core e => "failed to parse core config: " ++ e.message
  | source name e => "failed to parse " ++ Text.quoted name ++ " source config: " ++ e.message

namespace Config

/-- The configuration before any document: every source has its default settings. -/
def ofDefaults (sources : List (String × SourceSettings)) : Config := ⟨{}, .ofList sources⟩

def applySource (d : Dict SourceSettings) (key patch : Value) :
    Dict SourceSettings × Option ConfigError :=
  match key.text? with
  | none => (d, none)
  | some name =>
    match d.get? name with
    | none => (d, none)
    | some settings =>
      match settings.overlay patch with
      | .ok settings => (d.insert name settings, none)
      | .error e => (d, some (.source name e))

def applySources (d : Dict SourceSettings) :
    List (Value × Value) → Dict SourceSettings × Option ConfigError
  | [] => (d, none)
  | (key, patch) :: r =>
    let (d, e) := applySource d key patch
    let (d, e') := applySources d r
    (d, e <|> e')

/-- Whether a key of a document is one of the two spellings of a name. -/
def isKey (name capitalised : String) (key : Value) : Bool :=
  key.text? = some name || key.text? = some capitalised

def isCoreKey (key : Value) : Bool := isKey "core" "Core" key

def isSourcesKey (key : Value) : Bool := isKey "sources" "Sources" key

def applyEntry (c : Config) (key patch : Value) : Config × Option ConfigError :=
  if isCoreKey key then
    match overlay c.core patch with
    | .ok core => ({ c with core := core }, none)
    | .error e => (c, some (.core e))
  else if isSourcesKey key then
    match patch with
    | .null => (c, none)
    | .mapping entries =>
      let (sources, e) := applySources c.sources entries
      ({ c with sources := sources }, e)
    | _ => (c, some (.notAMapping .sources))
  else (c, none)

def applyEntries (c : Config) : List (Value × Value) → Config × Option ConfigError
  | [] => (c, none)
  | (key, patch) :: r =>
    let (c, e) := applyEntry c key patch
    let (c, e') := applyEntries c r
    (c, e <|> e')

def applyValue (c : Config) : Value → Config × Option ConfigError
  | .null => (c, none)
  | .mapping entries => applyEntries c entries
  | _ => (c, some (.notAMapping .topLevel))

/-- Lays a document over the configuration. Text that is no document changes nothing. -/
def applyDocument (c : Config) (text : String) : Config × Option ConfigError :=
  match Document.parse? text with
  | none => (c, some .malformed)
  | some v => applyValue c v

end Config

end NodeSurvey
