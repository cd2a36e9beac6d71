import NodeSurvey.Config.Basic
import NodeSurvey.Duration.Basic
import NodeSurvey.Label.Syntax
import NodeSurvey.Source.Trouble

/-! What is reported to the operator on the way, and computations that report. -/

namespace NodeSurvey

inductive Bus where
  | pci
  | usb
deriving DecidableEq

def Bus.name : Bus → String
  | pci => "PCI"
  | usb => "USB"

inductive Notice where
  | shortInterval (given least : Duration)
  | unknownSources (names : List String)
  | foreignSettings (source : String)
  | configUnreadable (path : String) (e : IoError)
  | configRefused (e : ConfigError)
  | optionsRefused (e : ConfigError)
  | unknownField (bus : Bus) (field : String)
  | noFields (bus : Bus)
  | kconfigUnreadable (f : Failure)
  | ruleFailed (rule : String) (f : Failure)
  | hookFailed (f : Failure)
  | featureFileUnreadable (path : String) (e : IoError)
  | invalidName (label : String) (violations : List Label.Violation)
  | invalidValue (label value : String) (violations : List Label.Violation)
  | notListed (name pattern : String)
  | sourceLost (e : SourceError)
  | continuing
  | watchError (text : String)
deriving DecidableEq

inductive Severity where
  | warning
  | error
deriving DecidableEq

def Notice.severity : Notice → Severity
  | watchError _ => .error
  | _ => .warning

def Notice.text : Notice → String
  | shortInterval given least =>
    "too short sleep interval specified (" ++ given.text ++ "), forcing to " ++ least.text
  | unknownSources names =>
    "skipping unknown source(s) " ++ Text.quoted (", ".intercalate names) ++
      " specified in --sources"
  | foreignSettings source => "Ignoring config of unexpected type for source " ++ source
  | configUnreadable path e =>
    "Failed to read config file " ++ Text.quotedPath path ++ ": " ++ e.message
  | configRefused e => "Failed to parse config file: " ++ e.message
  | optionsRefused e => "Failed to parse --options: " ++ e.message
  | unknownField bus field =>
    "Invalid " ++ bus.name ++ " label field " ++ Text.quoted field ++ ", ignoring it"
  | noFields bus => "No valid " ++ bus.name ++ " label fields specified, using defaults"
  | kconfigUnreadable f => "Failed to read kconfig: " ++ f.message
  | ruleFailed rule f =>
    "Failed to evaluate custom rule " ++ Text.quoted rule ++ ": " ++ f.message
  | hookFailed f => f.message
  | featureFileUnreadable path e => "Failed to read feature file " ++ path ++ ": " ++ e.message
  | invalidName label violations =>
    "Ignoring invalid feature name '" ++ label ++ "': " ++
      Text.quotedList (violations.map (·.message))
  | invalidValue label value violations =>
    "Ignoring invalid feature value " ++ label ++ "=" ++ value ++ ": " ++
      Text.quotedList (violations.map (·.message))
  | notListed name pattern =>
    Text.quoted name ++ " does not match the whitelist (" ++ pattern ++
      ") and will not be published."
  | sourceLost e => e.message
  | continuing => "continuing ..."
  | watchError text => "config file watcher error: " ++ text

def Notice.line (n : Notice) : String :=
  (match n.severity with
    | .warning => "WARN: "
    | .error => "ERROR: ") ++ n.text

/-- A value and what was reported while computing it. -/
structure Logged (α : Type) where
  value : α
  notices : List Notice

namespace Logged

variable {α β : Type}

instance : Monad Logged where
  pure a := ⟨a, []⟩
  bind m f := ⟨(f m.value).value, m.notices ++ (f m.value).notices⟩

@[simp] theorem value_pure (a : α) : (pure a : Logged α).value = a := rfl

theorem notices_pure (a : α) : (pure a : Logged α).notices = [] := rfl

@[simp] theorem value_bind (m : Logged α) (f : α → Logged β) :
    (m >>= f).value = (f m.value).value := rfl

instance : LawfulMonad Logged :=
  LawfulMonad.mk' Logged (fun m => by cases m; simp [Functor.map]) (fun _ _ => rfl)
    (fun m f g => by simp [bind])

@[simp] theorem value_map (f : α → β) (m : Logged α) : (f <$> m).value = f m.value := rfl

@[simp] theorem value_foldlM (f : β → α → Logged β) (b : β) (l : List α) :
    (l.foldlM f b).value = l.foldl (fun b a => (f b a).value) b := by
  induction l generalizing b with
  | nil => rfl
  | cons a l ih => rw [List.foldlM_cons, value_bind, ih, List.foldl_cons]

@[simp] theorem value_mapM (f : α → Logged β) (l : List α) :
    (l.mapM f).value = l.map fun a => (f a).value := by
  induction l with
  | nil => rfl
  | cons a l ih => rw [List.mapM_cons, value_bind, value_bind, value_pure, ih, List.map_cons]

def report (n : Notice) : Logged Unit := ⟨(), [n]⟩

def reportAll (ns : List Notice) : Logged Unit := ⟨(), ns⟩

end Logged

end NodeSurvey
