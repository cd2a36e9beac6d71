import NodeSurvey.Feature
import NodeSurvey.Host.Hook
import NodeSurvey.Notice

/-! Feature sources. A source looks at a host under its settings; it reports on the way, and ends
with features or in trouble. Discovering changes neither the host nor the settings. -/

namespace NodeSurvey

/-- A discovery may report and may end in trouble, and keeps its reports when it does. -/
abbrev Discovery (α : Type) := ExceptT Trouble Logged α

namespace Discovery

variable {α : Type}

def report (n : Notice) : Discovery Unit := ExceptT.lift (Logged.report n)

def fail (t : Trouble) : Discovery α := throw t

def reading (purpose : Purpose) : Except IoError α → Discovery α
  | .ok a => pure a
  | .error e => fail (.failed (.within purpose (.io e)))

def ofExcept : Except Trouble α → Discovery α
  | .ok a => pure a
  | .error t => fail t

theorem value_bind {β : Type} (m : Discovery α) (f : α → Discovery β) :
    (m >>= f).run.value = m.run.value >>= fun a => (f a).run.value := by
  rw [ExceptT.run_bind, Logged.value_bind]
  cases m.run.value <;> rfl

end Discovery

structure Source where
  name : String
  /-- Whether the labels of the source begin with its name. -/
  prefixed : Bool
  defaults : SourceSettings
  discover : SourceSettings → Host → Discovery Features

def SourceSettings.sameKind : SourceSettings → SourceSettings → Bool
  | .none, .none | .cpu _, .cpu _ | .kernel _, .kernel _ | .pci _, .pci _ | .usb _, .usb _
  | .fake _, .fake _ | .custom _, .custom _ => true
  | _, _ => false

/-- The settings that a source has in force after it was given some. A source without settings
ignores all, the others refuse those of another kind. -/
def Source.install (s : Source) (current given : SourceSettings) : Logged SourceSettings :=
  match s.defaults with
  | .none => pure current
  | defaults =>
    if given.sameKind defaults then pure given
    else do
      Logged.report (.foreignSettings s.name)
      return current

def Source.plain (name : String) (discover : Host → Discovery Features) : Source :=
  ⟨name, true, .none, fun _ => discover⟩

def FeatureValue.present : FeatureValue := .bool true

/-- A whole number below `2 ^ 32`, perhaps with a plus sign. -/
def Text.count? (s : List Char) : Option Nat :=
  let digits := match s with
    | '+' :: r => r
    | s => s
  if digits.isEmpty || !digits.all Char.isDigit then none
  else
    let n := digits.foldl (fun n c => 10 * n + (c.toNat - 48)) 0
    if n < Nat.pow 2 32 then some n else none

end NodeSurvey
