import NodeSurvey.Config.Reload
import NodeSurvey.Labeler.Connection
import NodeSurvey.Source.Registry
import NodeSurvey.Watch.Basic

/-! The agent of a node: its sources, the configuration in force and the connection to the labeler.
Whatever an agent does is a function of itself and its surroundings, so that the order of things is
open to whoever runs it. -/

namespace NodeSurvey

structure AgentOptions where
  configFile : String
  /-- A document that is laid over the configuration file. -/
  overrides : String
  labeler : Labeler.Settings
  whitelist : String
  oneshot : Bool
  /-- The time between two cycles; without any there is one cycle for every configuration. -/
  interval : Duration
  sources : List String
  /-- Whether nothing is published, if that is not left to the configuration. -/
  forced : Option Bool
deriving DecidableEq

namespace AgentOptions

def defaultConfigFile : String := "/etc/kubernetes/node-feature-discovery/nfd-worker.conf"

def defaultServer : String := "localhost:8080"

def default : AgentOptions :=
  ⟨defaultConfigFile, "", .plain defaultServer, "", false, .ofSeconds 60, [Registry.allName], none⟩

end AgentOptions

def version : String := "0.1.0"

inductive StartError where
  | connection (e : Labeler.ConnectionError)
  | invalidWhitelist (pattern : String)
deriving DecidableEq

def StartError.message : StartError → String
  | connection e => e.message
  | invalidWhitelist pattern => "error parsing label whitelist regex (" ++ pattern ++ ")"

inductive AgentError where
  | watch (e : Watch.SetupError)
  | connection (e : Labeler.ConnectionError)
deriving DecidableEq

def AgentError.message : AgentError → String
  | watch e => e.message
  | connection e => e.message

structure Agent where
  options : AgentOptions
  /-- The clean path of the configuration file. -/
  configPath : Path
  node : String
  whitelist : Label.Whitelist
  sources : List ActiveSource
  config : Config
  connection : Labeler.Connection

namespace Agent

inductive Act where
  | loaded
  | discovered (labels : Labels)
  | traffic (t : Labeler.Traffic)

/-- The world around an agent while it does one thing. -/
structure Surroundings where
  now : Duration
  done : Duration
  host : Host
  /-- What is found at the path of the configuration file. -/
  file : FileState
  watching : Watch.Service
  read : Labeler.Reader
  transport : Labeler.Transport
  answer : Labeler.Request → Labeler.ReportOutcome

def leastInterval : Duration := .ofSeconds 1

/-- Whether an interval is too short, but is one. -/
def isShort (d : Duration) : Bool := Duration.zero < d && d < leastInterval

def effectiveInterval (d : Duration) : Duration := if isShort d then leastInterval else d

/-- Makes an agent from its options and the sources that it is to ask, in the order in which their
labels win. -/
def create (o : AgentOptions) (sources : List Source) (node : String) :
    Logged (Except StartError Agent) := do
  if isShort o.interval then Logged.report (.shortInterval o.interval leastInterval)
  match o.labeler.validate, Label.Whitelist.parse? o.whitelist with
  | .error e, _ => return .error (.connection e)
  | .ok (), none => return .error (.invalidWhitelist o.whitelist)
  | .ok (), some w =>
    return .ok
      { options := { o with interval := effectiveInterval o.interval }
        configPath := (Path.ofString o.configFile).clean
        node := node
        whitelist := w
        sources := sources.map .start
        config := .ofDefaults []
        connection := .create o.labeler }

def ofOptions (o : AgentOptions) (node : String) : Logged (Except StartError Agent) := do
  let sources ← Registry.select o.sources
  create o sources node

def sourceNames (a : Agent) : List String := a.sources.map (·.source.name)

/-- Loads the configuration and puts it in force, the dry run included. -/
def configure (a : Agent) (w : Surroundings) : Logged Agent := do
  let loaded ← Config.reload a.sources a.configPath.toString w.file a.options.overrides
    a.options.forced
  return { a with
    config := loaded.1
    sources := loaded.2
    connection := a.connection.setDryRun loaded.1.core.noPublish }

def discover (a : Agent) (w : Surroundings) : Logged Labels :=
  discoverAll a.whitelist a.sources w.host

def request (a : Agent) (labels : Labels) : Labeler.Request := ⟨version, a.node, labels⟩

structure Outcome where
  agent : Agent
  acts : List Act
  result : Except AgentError Unit

def Outcome.ofCall (a : Agent) (c : Labeler.Call) : Outcome :=
  ⟨{ a with connection := c.connection }, c.traffic.map .traffic, c.result.mapError .connection⟩

def connect (a : Agent) (w : Surroundings) : Outcome :=
  .ofCall a (a.connection.connect w.read w.transport)

def ensureConnected (a : Agent) (w : Surroundings) : Outcome :=
  if a.connection.isConnected then ⟨a, [], .ok ()⟩ else a.connect w

def labelCycle (a : Agent) (w : Surroundings) : Logged Outcome := do
  let labels ← a.discover w
  if a.connection.isConnected then
    let sent := Outcome.ofCall a (a.connection.report w.answer (a.request labels))
    return { sent with acts := .discovered labels :: sent.acts }
  else return ⟨a, [.discovered labels], .ok ()⟩

end Agent

end NodeSurvey
