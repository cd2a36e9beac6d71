import NodeSurvey.Agent.Basic

/-! The loop of an agent. It waits for four things: the time for a cycle, a change near the
configuration file, the end of the pause that follows changes, and the request to stop. Which of
those that are due is served first is left open; each is served to its end before the next. -/

namespace NodeSurvey.Agent

/-- An agent between two things that it serves. -/
structure Serving where
  agent : Agent
  watcher : Watch.Watcher
  labelTimer : Option Duration
  configTimer : Option Duration

inductive Occasion where
  | shutdown
  | labelTimer
  | configTimer
  | event (e : Watch.Event)
  | watchError (text : String)

inductive Progress where
  | serving (s : Serving)
  | ended (agent : Agent) (result : Except AgentError Unit)

structure Turn where
  progress : Progress
  acts : List Act

def pause : Duration := .ofSeconds 1

/-- The end of an agent, on which its connection is closed. -/
def conclude (a : Agent) (result : Except AgentError Unit) : Progress :=
  .ended { a with connection := a.connection.disconnect } result

namespace Serving

def isDue (s : Serving) (now : Duration) : Occasion → Bool
  | .labelTimer => s.labelTimer.any (· ≤ now)
  | .configTimer => s.configTimer.any (· ≤ now)
  | _ => true

def nextCycle (s : Serving) (done : Duration) : Option Duration :=
  if .zero < s.agent.options.interval then some (done + s.agent.options.interval) else none

def serveLabelTimer (s : Serving) (w : Surroundings) : Logged Turn := do
  let o ← s.agent.labelCycle w
  match o.result with
  | .error e => return ⟨conclude o.agent (.error e), o.acts⟩
  | .ok () =>
    if o.agent.options.oneshot then return ⟨conclude o.agent (.ok ()), o.acts⟩
    else
      return ⟨.serving { s with agent := o.agent, labelTimer := s.nextCycle w.done }, o.acts⟩

/-- Loads the configuration anew. What it changes shows at once, so the next cycle is due. -/
def serveConfigTimer (s : Serving) (w : Surroundings) : Logged Turn := do
  let a ← s.agent.configure w
  let o := a.ensureConnected w
  let acts := .loaded :: o.acts
  match o.result with
  | .error e => return ⟨conclude o.agent (.error e), acts⟩
  | .ok () =>
    return ⟨.serving
      { s with agent := o.agent, labelTimer := some w.done, configTimer := none }, acts⟩

/-- Something happened at a watched place. Every change starts the pause anew, so a burst of
changes leads to one load of the configuration. -/
def serveEvent (s : Serving) (w : Surroundings) (e : Watch.Event) : Turn :=
  match s.watcher.handle w.watching e with
  | .error e => ⟨conclude s.agent (.error (.watch e)), []⟩
  | .ok .irrelevant => ⟨.serving s, []⟩
  | .ok (.rebuilt watcher) =>
    ⟨.serving { s with watcher := watcher, configTimer := some (w.done + pause) }, []⟩

def serve (s : Serving) (w : Surroundings) : Occasion → Logged Turn
  | .shutdown => return ⟨conclude s.agent (.ok ()), []⟩
  | .labelTimer => s.serveLabelTimer w
  | .configTimer => s.serveConfigTimer w
  | .event e => return s.serveEvent w e
  | .watchError text => do
    Logged.report (.watchError text)
    return ⟨.serving s, []⟩

end Serving

/-- The start of an agent: it watches the configuration file, loads it and dials the labeler. The
first cycle is due at once. -/
def begin (a : Agent) (w : Surroundings) : Logged Turn :=
  match Watch.Watcher.create w.watching a.configPath with
  | .error e => return ⟨.ended a (.error (.watch e)), []⟩
  | .ok watcher => do
    let a ← a.configure w
    let o := a.connect w
    let acts := .loaded :: o.acts
    match o.result with
    | .error e => return ⟨.ended o.agent (.error e), acts⟩
    | .ok () => return ⟨.serving ⟨o.agent, watcher, some w.done, none⟩, acts⟩

end NodeSurvey.Agent
