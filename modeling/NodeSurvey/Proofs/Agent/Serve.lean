import NodeSurvey.Agent.Step
import NodeSurvey.Proofs.Labeler.Connection

/-! One passage through the loop of an agent. `Serves` lists all that can come of serving one
occasion; whatever holds of every passage is proved by its cases. -/

namespace NodeSurvey

/-- Whether an error tells of a call over the connection that was made in the wrong state. -/
def AgentError.isMisuse : AgentError → Bool
  | .watch _ => false
  | .connection e => e.isMisuse

namespace Agent

open Labeler

def Act.request? : Act → Option Request
  | .traffic t => t.request?
  | _ => none

def requests (acts : List Act) : List Request := acts.filterMap Act.request?

variable {a : Agent} {w : Surroundings}

theorem requests_traffic (l : List Traffic) :
    requests (l.map .traffic) = l.filterMap Traffic.request? := by
  rw [requests, List.filterMap_map]
  rfl

theorem isMisuse_mapError {x : Except ConnectionError Unit} (hx : Proper x) {e : AgentError}
    (h : x.mapError AgentError.connection = .error e) : e.isMisuse = false := by
  cases x with
  | ok u => cases h
  | error e' =>
    cases h
    exact hx e' rfl

theorem labelCycle_of_client (hc : a.connection.client = true) :
    (a.labelCycle w).value =
      let call := a.connection.report w.answer (a.request (a.discover w).value)
      ⟨a, .discovered (a.discover w).value :: call.traffic.map .traffic,
        call.result.mapError .connection⟩ := by
  simp only [labelCycle, Logged.value_bind, Connection.isConnected, hc, if_true, Logged.value_pure,
    Outcome.ofCall, Connection.connection_report]

theorem labelCycle_of_no_client (hc : a.connection.client = false) :
    (a.labelCycle w).value = ⟨a, [.discovered (a.discover w).value], .ok ()⟩ := by
  simp only [labelCycle, Logged.value_bind, Connection.isConnected, hc, Bool.false_eq_true,
    if_false, Logged.value_pure]

@[simp] theorem agent_labelCycle (a : Agent) (w : Surroundings) :
    (a.labelCycle w).value.agent = a := by
  cases hc : a.connection.client with
  | false => rw [labelCycle_of_no_client hc]
  | true => rw [labelCycle_of_client hc]

theorem requests_labelCycle (a : Agent) (w : Surroundings) :
    requests (a.labelCycle w).value.acts =
      if a.connection.client then [a.request (a.discover w).value] else [] := by
  cases hc : a.connection.client with
  | false =>
    rw [labelCycle_of_no_client hc]
    rfl
  | true =>
    rw [labelCycle_of_client hc]
    simp only [Connection.traffic_report hc]
    rfl

theorem labelCycle_isMisuse {e : AgentError} (h : (a.labelCycle w).value.result = .error e) :
    e.isMisuse = false := by
  cases hc : a.connection.client with
  | false =>
    rw [labelCycle_of_no_client hc] at h
    cases h
  | true =>
    rw [labelCycle_of_client hc] at h
    exact isMisuse_mapError (Connection.proper_report hc) h

@[simp] theorem config_connect (a : Agent) (w : Surroundings) :
    (a.connect w).agent.config = a.config := rfl

def reconfigure (a : Agent) (w : Surroundings) : Outcome :=
  (a.configure w).value.ensureConnected w

namespace Serving

/-- All that can come of serving an occasion. -/
inductive Serves (s : Serving) (w : Surroundings) : Occasion → Turn → Prop
  | stopped : Serves s w .shutdown ⟨conclude s.agent (.ok ()), []⟩
  | unsent (e : AgentError) : (s.agent.labelCycle w).value.result = .error e →
      Serves s w .labelTimer
        ⟨conclude s.agent (.error e), (s.agent.labelCycle w).value.acts⟩
  | only : (s.agent.labelCycle w).value.result = .ok () → s.agent.options.oneshot = true →
      Serves s w .labelTimer ⟨conclude s.agent (.ok ()), (s.agent.labelCycle w).value.acts⟩
  | cycled : (s.agent.labelCycle w).value.result = .ok () → s.agent.options.oneshot = false →
      Serves s w .labelTimer
        ⟨.serving { s with labelTimer := s.nextCycle w.done }, (s.agent.labelCycle w).value.acts⟩
  | unconnected (e : AgentError) : (s.agent.reconfigure w).result = .error e →
      Serves s w .configTimer
        ⟨conclude (s.agent.reconfigure w).agent (.error e),
          .loaded :: (s.agent.reconfigure w).acts⟩
  | reloaded : (s.agent.reconfigure w).result = .ok () →
      Serves s w .configTimer
        ⟨.serving
          { s with
            agent := (s.agent.reconfigure w).agent
            labelTimer := some w.done
            configTimer := none },
          .loaded :: (s.agent.reconfigure w).acts⟩
  | blind (e : Watch.Event) (x : Watch.SetupError) : s.watcher.isRelevant e = true →
      Watch.Watcher.create w.watching s.watcher.path = .error x →
      Serves s w (.event e) ⟨conclude s.agent (.error (.watch x)), []⟩
  | ignored (e : Watch.Event) : s.watcher.isRelevant e = false →
      Serves s w (.event e) ⟨.serving s, []⟩
  | rebuilt (e : Watch.Event) (watcher : Watch.Watcher) : s.watcher.isRelevant e = true →
      Watch.Watcher.create w.watching s.watcher.path = .ok watcher →
      Serves s w (.event e)
        ⟨.serving { s with watcher := watcher, configTimer := some (w.done + pause) }, []⟩
  | troubled (text : String) : Serves s w (.watchError text) ⟨.serving s, []⟩

theorem serves_labelTimer (s : Serving) (w : Surroundings) :
    Serves s w .labelTimer (s.serveLabelTimer w).value := by
  have ha := agent_labelCycle s.agent w
  simp only [serveLabelTimer, Logged.value_bind]
  cases hr : (s.agent.labelCycle w).value.result with
  | error e =>
    simp only [ha, Logged.value_pure]
    exact .unsent e hr
  | ok u =>
    cases ho : s.agent.options.oneshot with
    | true =>
      simp only [ha, ho, if_true, Logged.value_pure]
      exact .only hr ho
    | false =>
      simp only [ha, ho, Bool.false_eq_true, if_false, Logged.value_pure]
      exact .cycled hr ho

theorem serves_configTimer (s : Serving) (w : Surroundings) :
    Serves s w .configTimer (s.serveConfigTimer w).value := by
  simp only [serveConfigTimer, Logged.value_bind]
  cases hr : ((s.agent.configure w).value.ensureConnected w).result with
  | error e => exact .unconnected e hr
  | ok u => exact .reloaded hr

theorem serves_event (s : Serving) (w : Surroundings) (e : Watch.Event) :
    Serves s w (.event e) (s.serveEvent w e) := by
  simp only [serveEvent, Watch.Watcher.handle]
  cases hr : s.watcher.isRelevant e with
  | false => exact .ignored e hr
  | true =>
    cases hc : Watch.Watcher.create w.watching s.watcher.path with
    | error x => exact .blind e x hr hc
    | ok watcher => exact .rebuilt e watcher hr hc

theorem serves (s : Serving) (w : Surroundings) (o : Occasion) :
    Serves s w o (s.serve w o).value := by
  cases o with
  | shutdown => exact .stopped
  | labelTimer => exact s.serves_labelTimer w
  | configTimer => exact s.serves_configTimer w
  | event e => exact s.serves_event w e
  | watchError text => exact .troubled text

end Serving

inductive Begins (a : Agent) (w : Surroundings) : Turn → Prop
  | blind (x : Watch.SetupError) : Watch.Watcher.create w.watching a.configPath = .error x →
      Begins a w ⟨.ended a (.error (.watch x)), []⟩
  | unconnected (watcher : Watch.Watcher) (e : AgentError) :
      Watch.Watcher.create w.watching a.configPath = .ok watcher →
      ((a.configure w).value.connect w).result = .error e →
      Begins a w ⟨.ended ((a.configure w).value.connect w).agent (.error e),
        .loaded :: ((a.configure w).value.connect w).acts⟩
  | begun (watcher : Watch.Watcher) :
      Watch.Watcher.create w.watching a.configPath = .ok watcher →
      ((a.configure w).value.connect w).result = .ok () →
      Begins a w ⟨.serving ⟨((a.configure w).value.connect w).agent, watcher, some w.done, none⟩,
        .loaded :: ((a.configure w).value.connect w).acts⟩

theorem begins (a : Agent) (w : Surroundings) : Begins a w (a.begin w).value := by
  rw [begin]
  cases hc : Watch.Watcher.create w.watching a.configPath with
  | error x => exact .blind x hc
  | ok watcher =>
    simp only [Logged.value_bind]
    cases hr : ((a.configure w).value.connect w).result with
    | error e => exact .unconnected watcher e hc hr
    | ok u => exact .begun watcher hc hr

theorem eq_of_begin {s : Serving} (h : (a.begin w).value.progress = .serving s) :
    Watch.Watcher.create w.watching a.configPath = .ok s.watcher ∧
      ((a.configure w).value.connect w).result = .ok () ∧
      s = ⟨((a.configure w).value.connect w).agent, s.watcher, some w.done, none⟩ := by
  have hb := begins a w
  generalize (a.begin w).value = turn at hb h
  cases hb with
  | begun watcher hc hr =>
    cases h
    exact ⟨hc, hr, rfl⟩
  | _ => cases h

theorem exists_serving (hw : (Watch.Watcher.create w.watching a.configPath).isOk = true)
    (hr : ((a.configure w).value.connect w).result.isOk = true) :
    ∃ s, (a.begin w).value.progress = .serving s ∧
      Watch.Watcher.create w.watching a.configPath = .ok s.watcher ∧
      s.agent = ((a.configure w).value.connect w).agent ∧ s.labelTimer = some w.done := by
  have hb := begins a w
  generalize (a.begin w).value = turn at hb
  cases hb with
  | blind x hx =>
    rw [hx] at hw
    cases hw
  | unconnected watcher e _ he =>
    rw [he] at hr
    cases hr
  | begun watcher hc => exact ⟨_, rfl, hc, rfl, rfl⟩

end Agent

end NodeSurvey
