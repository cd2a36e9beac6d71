import NodeSurvey.Agent.Step
import NodeSurvey.Host.Change

/-! Runs of an agent. A site has a host, a clock and the events that wait to be served; after
everything that happens there the agent is served until nothing is due, events first, so that a
burst of changes at one instant is seen as one. -/

namespace NodeSurvey.Agent

structure Site where
  host : Host
  clock : Duration
  /-- What happened at watched places and was not served yet. -/
  events : List Watch.Event
  transport : Labeler.Transport
  answer : Labeler.Request → Labeler.ReportOutcome

inductive Happening where
  | changed (changes : List Host.Change) (events : List Watch.Event)
  | passed (time : Duration)
  | cancelled

namespace Site

/-- Whether there is something at a path. What leads to the root of the host is there. -/
def isThere (s : Site) (p : Path) : Bool :=
  match s.host.below? p.toString with
  | some name =>
    match s.host.find name with
    | .ok _ => true
    | .error _ => false
  | none => true

/-- The site as an agent meets it. Serving takes no time. -/
def surroundings (s : Site) (a : Agent) : Surroundings where
  now := s.clock
  done := s.clock
  host := s.host
  file := s.host.readNamed s.host.readText a.configPath.toString
  watching := .ok s.isThere
  read := s.host.readNamed s.host.readContent
  transport := s.transport
  answer := s.answer

def next (s : Site) (x : Serving) : Option (Occasion × Site) :=
  match s.events with
  | e :: r => some (.event e, { s with events := r })
  | [] =>
    if x.isDue s.clock .configTimer then some (.configTimer, s)
    else if x.isDue s.clock .labelTimer then some (.labelTimer, s)
    else none

def after (s : Site) : Happening → Site
  | .changed changes events =>
    { s with host := s.host.applyAll changes, events := s.events ++ events }
  | .passed time => { s with clock := s.clock + time }
  | .cancelled => s

end Site

structure Run where
  site : Site
  progress : Progress

namespace Run

def agent (r : Run) : Agent :=
  match r.progress with
  | .serving x => x.agent
  | .ended a _ => a

def isServing (r : Run) : Bool :=
  match r.progress with
  | .serving _ => true
  | .ended .. => false

def serveTimes : Nat → Run → Logged (Run × List Act)
  | 0, r => return (r, [])
  | n + 1, r =>
    match r.progress with
    | .ended .. => return (r, [])
    | .serving x =>
      match r.site.next x with
      | none => return (r, [])
      | some (occasion, site) => do
        let turn ← x.serve (site.surroundings x.agent) occasion
        let rest ← serveTimes n ⟨site, turn.progress⟩
        return (rest.1, turn.acts ++ rest.2)

/-- Serves the agent until nothing is due. After the events that wait there is one load of the
configuration at most and one cycle, since each timer is set anew for a later time. -/
def settle (r : Run) : Logged (Run × List Act) := serveTimes (r.site.events.length + 2) r

def start (s : Site) (a : Agent) : Logged (Run × List Act) := do
  let turn ← a.begin (s.surroundings a)
  let rest ← settle ⟨s, turn.progress⟩
  return (rest.1, turn.acts ++ rest.2)

def stop (r : Run) : Logged (Run × List Act) :=
  match r.progress with
  | .ended .. => return (r, [])
  | .serving x => do
    let turn ← x.serve (r.site.surroundings x.agent) .shutdown
    return (⟨r.site, turn.progress⟩, turn.acts)

def happen (r : Run) (h : Happening) : Logged (Run × List Act) :=
  match h with
  | .cancelled => r.stop
  | h => settle { r with site := r.site.after h }

end Run

end NodeSurvey.Agent
