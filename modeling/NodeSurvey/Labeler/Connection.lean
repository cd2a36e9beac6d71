import NodeSurvey.Dict
import NodeSurvey.Labeler.Settings

/-! The one connection of an agent to the labeler. In a dry run nothing is dialed and nothing is
sent. What the network does is given from outside; every call tells what it put on the wire. -/

namespace NodeSurvey.Labeler

structure Request where
  version : String
  node : String
  labels : Dict String

inductive ReportOutcome where
  | accepted
  | rejected (status : Status)
  | timedOut
deriving DecidableEq

inductive Traffic where
  | dial (endpoint : Endpoint)
  | request (r : Request)

inductive ConnectionState where
  | disconnected
  | connected
  | dryRun
deriving DecidableEq

structure Connection where
  settings : Settings
  /-- Whether a client is held. -/
  client : Bool
  dryRun : Bool
  dialLimit : Duration
  reportLimit : Duration
deriving DecidableEq

/-- A call that may use the wire: the connection after it, what it sent, and how it ended. -/
structure Call where
  connection : Connection
  traffic : List Traffic
  result : Except ConnectionError Unit

namespace Connection

def defaultDialLimit : Duration := .ofSeconds 60

def defaultReportLimit : Duration := .ofSeconds 10

def create (settings : Settings) : Connection :=
  ⟨settings, false, false, defaultDialLimit, defaultReportLimit⟩

def withLimits (c : Connection) (dial report : Duration) : Connection :=
  { c with dialLimit := dial, reportLimit := report }

def state (c : Connection) : ConnectionState :=
  if c.client then .connected else if c.dryRun then .dryRun else .disconnected

def isConnected (c : Connection) : Bool := c.client

def disconnect (c : Connection) : Connection := { c with client := false }

/-- Enters or leaves the dry run. Entering drops the client. -/
def setDryRun (c : Connection) (on : Bool) : Connection :=
  let c := { c with dryRun := on }
  if on then c.disconnect else c

def prepare (c : Connection) (read : Reader) (via : Transport) :
    Except ConnectionError Endpoint := do
  c.settings.validate
  c.settings.endpoint read via

/-- Dials the labeler. A dry run needs no connection. -/
def connect (c : Connection) (read : Reader) (via : Transport) : Call :=
  if c.dryRun then ⟨c, [], .ok ()⟩
  else if c.client then ⟨c, [], .error .alreadyConnected⟩
  else
    match c.prepare read via with
    | .error e => ⟨c, [], .error e⟩
    | .ok endpoint =>
      match via.dial endpoint with
      | .connected => ⟨{ c with client := true }, [.dial endpoint], .ok ()⟩
      | .failed => ⟨c, [.dial endpoint], .error (.dialFailed c.settings.server)⟩
      | .timedOut => ⟨c, [.dial endpoint], .error (.dialTimedOut c.settings.server c.dialLimit)⟩

def report (c : Connection) (answer : Request → ReportOutcome) (r : Request) : Call :=
  if !c.client then ⟨c, [], .error .notConnected⟩
  else
    match answer r with
    | .accepted => ⟨c, [.request r], .ok ()⟩
    | .rejected status => ⟨c, [.request r], .error (.rejected status)⟩
    | .timedOut => ⟨c, [.request r], .error (.reportTimedOut c.reportLimit)⟩

end Connection

end NodeSurvey.Labeler
