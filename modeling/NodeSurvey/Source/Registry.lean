import NodeSurvey.Source.Cpu
import NodeSurvey.Source.Custom
import NodeSurvey.Source.Kernel
import NodeSurvey.Source.Local
import NodeSurvey.Source.Plain
import NodeSurvey.Source.Rehearsal
import NodeSurvey.Source.System
import NodeSurvey.Source.Usb

/-! The known sources in their order, and the choice among them. Of two sources with one label the
later one wins, so the order of a choice is always that of the registry. -/

namespace NodeSurvey.Registry

/-- The sources for use. The local one is last, so that its labels win over all others. -/
def production : List Source :=
  [.cpu, .iommu, .kernel, .memory, .network, .pci, .storage, .system, .usb, .custom, .local']

def testing : List Source := [.fake, .panicFake]

def known : List Source := production ++ testing

def find? (name : String) : Option Source := known.find? fun s => s.name = name

/-- The name that stands for all sources for use, if it is the only one. -/
def allName : String := "all"

/-- The names of a request without blanks around them; empty ones do not count. -/
def requestedNames (request : List String) : List String :=
  (request.map Text.trimString).filter (!·.isEmpty)

def sortedNames (names : List String) : List String :=
  (Dict.ofList (names.map fun n => (n, ()))).keys

def isForAll (request : List String) : Bool :=
  match request with
  | [name] => Text.trimString name = allName
  | _ => false

/-- A choice on its way through the registry: the chosen sources, and the wanted names that no source
has answered to. -/
structure Choice where
  active : List Source
  wanted : List String

def Choice.ofRequest (request : List String) : Choice :=
  ⟨[], sortedNames (requestedNames request)⟩

/-- A source is chosen if its name is wanted, and then the name is no longer wanted. -/
def Choice.offer (c : Choice) (s : Source) : Choice :=
  if c.wanted.contains s.name then ⟨c.active ++ [s], c.wanted.erase s.name⟩ else c

/-- The sources that a request asks for, in the order of the registry. Names of no source are
reported together. -/
def select (request : List String) : Logged (List Source) :=
  if isForAll request then return production
  else
    let choice := known.foldl Choice.offer (.ofRequest request)
    if choice.wanted.isEmpty then return choice.active
    else do
      Logged.report (.unknownSources choice.wanted)
      return choice.active

end NodeSurvey.Registry
