import NodeSurvey.Source.Pci

/-! Features by rules of the operator. A rule gives its feature if one of its entries matches, and
an entry matches if everything that it asks for is there. The devices and the modules of the host
are looked at when the first entry asks for them. -/

namespace NodeSurvey.Source.Custom

/-- Whether a list of allowed values admits an attribute; an empty list admits everything. -/
def admits (allowed : List String) (value : Option (List Char)) : Bool :=
  allowed.isEmpty || value.any fun v => allowed.contains (String.ofList v)

def matchesDevice (r : PciIdRule) (d : PciDevice) : Bool :=
  admits r.classes (d.attribute? .class') && admits r.vendors (d.attribute? .vendor) &&
    admits r.devices (d.attribute? .device)

def loadedModules (h : Host) : Except Trouble (List String) :=
  match h.readTrimmed "proc/modules" with
  | .ok text =>
    .ok ((Text.lines text.toList).filterMap fun l => ((Text.words l).head?).map String.ofList)
  | .error e => .error (.failed (.within .loadedModules (.io e)))

/-- What the rules have found out about the host so far. -/
structure Gathered where
  devices : Option (List PciDevice)
  modules : Option (List String)

def Gathered.empty : Gathered := ⟨none, none⟩

/-- A question to the host that may be in trouble, and keeps what was gathered when it is. -/
abbrev Gathering (α : Type) := ExceptT Trouble (StateM Gathered) α

/-- What is gathered is not looked at again. What could not be read is tried again. -/
def lookOnce {α : Type} (kept : Gathered → Option α) (keep : Gathered → α → Gathered)
    (look : Except Trouble α) : Gathering α := do
  match kept (← get) with
  | some a => return a
  | none =>
    let a ← look
    modify (keep · a)
    return a

def devices (h : Host) : Gathering (List PciDevice) :=
  lookOnce (·.devices) (fun g devices => { g with devices := some devices }) (Pci.scan h)

def modules (h : Host) : Gathering (List String) :=
  lookOnce (·.modules) (fun g modules => { g with modules := some modules }) (loadedModules h)

def matchesPci (h : Host) : Option PciIdRule → Gathering Bool
  | none => return true
  | some r => return (← devices h).any (matchesDevice r)

def matchesModules (h : Host) : Option (List String) → Gathering Bool
  | none => return true
  | some names => do
    let loaded ← modules h
    return names.all loaded.contains

/-- Whether an entry matches. The modules are looked at only if the devices match. -/
def matchesEntry (h : Host) (e : MatchRule) : Gathering Bool := do
  if !(← matchesPci h e.pciId) then return false
  if !(← matchesModules h e.loadedKMod) then return false
  return e.pciId.isSome || e.loadedKMod.isSome

/-- Whether one of the entries of a rule matches. An entry that cannot be decided is reported, and
the next one is tried. -/
def matchesAny (h : Host) (rule : String) (g : Gathered) :
    List MatchRule → Discovery (Bool × Gathered)
  | [] => return (false, g)
  | e :: r =>
    match (matchesEntry h e).run.run g with
    | (.ok true, g) => return (true, g)
    | (.ok false, g) => matchesAny h rule g r
    | (.error (.failed f), g) => do
      Discovery.report (.ruleFailed rule f)
      matchesAny h rule g r
    | (.error t, _) => Discovery.fail t

def discoverRules (h : Host) (g : Gathered) :
    List CustomRule → Discovery (List (String × FeatureValue))
  | [] => return []
  | rule :: r => do
    let (matched, g) ← matchesAny h rule.name g rule.matchOn
    let rest ← discoverRules h g r
    return if matched then (rule.name, .present) :: rest else rest

def discover (s : CustomSettings) (h : Host) : Discovery Features :=
  return Dict.ofList (← discoverRules h .empty s.rules)

end NodeSurvey.Source.Custom

namespace NodeSurvey.Source

def custom : Source where
  name := "custom"
  prefixed := true
  defaults := .custom .defaults
  discover
    | .custom s, h => Custom.discover s h
    | _, h => Custom.discover .defaults h

end NodeSurvey.Source
