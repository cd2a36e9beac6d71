import NodeSurvey.Source.Basic
import NodeSurvey.Text.Uppercase

/-! Processor features: the flags of the first processor, filtered by the settings, and whether its
cores run more than one thread each. -/

namespace NodeSurvey.Source.Cpu

def firstBlock : List Char → List Char
  | [] => []
  | '\n' :: '\n' :: _ => []
  | c :: r => c :: firstBlock r

structure Info where
  flags : List Char
  siblings : Option Nat
  cores : Option Nat

def Info.unknown : Info := ⟨[], none, none⟩

/-- Takes in one line `key : value`; a later line for a key replaces an earlier one. -/
def Info.addLine (info : Info) (line : List Char) : Info :=
  match Text.splitOnce ':' line with
  | none => info
  | some (key, value) =>
    let key := String.ofList (Text.trim key)
    let value := Text.trim value
    if key = "flags" || key = "Features" then { info with flags := value }
    else if key = "siblings" then { info with siblings := Text.count? value }
    else if key = "cpu cores" then { info with cores := Text.count? value }
    else info

def Info.ofText (text : List Char) : Info :=
  (Text.lines (firstBlock text)).foldl addLine unknown

def Info.flagNames (info : Info) : List String :=
  (Text.words info.flags).map fun w => String.ofList (Text.upper w)

def Info.multithreaded (info : Info) : Bool :=
  match info.siblings, info.cores with
  | some siblings, some cores => cores < siblings
  | _, _ => false

def isReported (s : CpuSettings) (flag : String) : Bool :=
  if s.cpuid.attributeWhitelist.isEmpty then !s.cpuid.attributeBlacklist.contains flag
  else s.cpuid.attributeWhitelist.contains flag

def features (s : CpuSettings) (info : Info) : Features :=
  let flags := (info.flagNames.filter (isReported s)).map fun f => ("cpuid." ++ f, .present)
  Dict.ofList (flags ++
    if info.multithreaded then [("hardware_multithreading", .present)] else [])

def discover (s : CpuSettings) (h : Host) : Discovery Features := do
  let path := "proc/cpuinfo"
  let text ← Discovery.reading (.readFile (h.fullName path)) (h.readTrimmed path)
  return features s (Info.ofText text.toList)

end NodeSurvey.Source.Cpu

namespace NodeSurvey.Source

def cpu : Source where
  name := "cpu"
  prefixed := true
  defaults := .cpu .defaults
  discover
    | .cpu s, h => Cpu.discover s h
    | _, h => Cpu.discover .defaults h

end NodeSurvey.Source
