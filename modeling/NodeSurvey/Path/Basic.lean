import NodeSurvey.Text.Blank

/-! Slash-separated paths and their clean form, in which no step is left out that can be taken
without looking at the disk. -/

namespace NodeSurvey

inductive PathStep where
  | here
  | up
  | down (name : String)
deriving DecidableEq

def PathStep.ofText (s : List Char) : PathStep :=
  match s with
  | ['.'] => .here
  | ['.', '.'] => .up
  | s => .down (String.ofList s)

def PathStep.text : PathStep → String
  | .here => "."
  | .up => ".."
  | .down n => n

/-- A path starts at the root or where the process stands. -/
structure Path where
  absolute : Bool
  steps : List PathStep
deriving DecidableEq

namespace Path

/-- Reads a path; empty names between slashes do not count. -/
def ofString (s : String) : Path :=
  ⟨s.toList.head? = some '/',
    ((Text.split '/' s.toList).filter (!·.isEmpty)).map PathStep.ofText⟩

/-- Writes a path; the one that goes nowhere is a point. -/
def toString (p : Path) : String :=
  if p.absolute then "/" ++ "/".intercalate (p.steps.map PathStep.text)
  else if p.steps.isEmpty then "."
  else "/".intercalate (p.steps.map PathStep.text)

def join (p q : Path) : Path := if q.absolute then q else ⟨p.absolute, p.steps ++ q.steps⟩

/-- Takes one more step. The steps so far are given last first. A step up undoes a name, has no
effect at the root, and is kept at the start of a relative path. -/
def cleanStep (absolute : Bool) (taken : List PathStep) : PathStep → List PathStep
  | .here => taken
  | .down n => .down n :: taken
  | .up =>
    match taken with
    | .down _ :: r => r
    | r => if absolute then r else .up :: r

def clean (p : Path) : Path :=
  ⟨p.absolute, (p.steps.foldl (cleanStep p.absolute) []).reverse⟩

/-- The directory that holds a path; a path without steps holds itself. -/
def parent (p : Path) : Path := ⟨p.absolute, p.steps.dropLast⟩

def lineage (p : Path) : List Path :=
  if p.steps = [] then [p] else p :: lineage p.parent
termination_by p.steps.length
decreasing_by
  rename_i h
  have := List.length_pos_iff.2 h
  simp only [parent, List.length_dropLast]
  omega

end Path

end NodeSurvey
