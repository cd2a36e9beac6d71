import NodeSurvey.Proofs.Agent.Course
import NodeSurvey.Proofs.Label.Aggregation

/-! The dry run along a course. Whenever an agent waits in its loop, its connection agrees with the
configuration in force: a client is held exactly when labels are to be published. So a cycle sends
what it discovered or nothing at all, and no call is made in the wrong state. -/

namespace NodeSurvey.Agent

open Labeler

structure Settled (a : Agent) : Prop where
  dryRun : a.connection.dryRun = a.config.core.noPublish
  client : a.connection.client = !a.config.core.noPublish

variable {a : Agent} {w : Surroundings}

theorem dryRun_configure (a : Agent) (w : Surroundings) :
    (a.configure w).value.connection.dryRun = (a.configure w).value.config.core.noPublish :=
  Connection.dryRun_setDryRun _ _

theorem client_configure (a : Agent) (w : Surroundings) :
    (a.configure w).value.connection.client =
      (a.connection.client && !(a.configure w).value.config.core.noPublish) :=
  Connection.client_setDryRun _ _

theorem noPublish_configure {b : Bool} (hf : a.options.forced = some b) :
    (a.configure w).value.config.core.noPublish = b := by
  simp [configure, Config.reload, Config.load, Config.force, hf]

theorem Outcome.result_ofCall_ok {c : Call} (h : (Outcome.ofCall a c).result = .ok ()) :
    c.result = .ok () := by
  cases hr : c.result with
  | ok u => rfl
  | error e =>
    simp only [Outcome.ofCall, hr] at h
    cases h

theorem settled_connect (hd : a.connection.dryRun = a.config.core.noPublish)
    (hc : a.connection.client = false) (h : (a.connect w).result = .ok ()) :
    Settled (a.connect w).agent := by
  have hr := Outcome.result_ofCall_ok h
  constructor
  · exact (Connection.dryRun_connect a.connection w.read w.transport).trans hd
  · exact (Connection.client_connect hc hr).trans (congrArg (!·) hd)

theorem connect_isMisuse (hc : a.connection.client = false) {e : AgentError}
    (h : (a.connect w).result = .error e) : e.isMisuse = false :=
  isMisuse_mapError (Connection.proper_connect hc) h

theorem result_connect_of_dryRun (h : a.connection.dryRun = true) :
    (a.connect w).result = .ok () := by
  rw [connect, Connection.connect_of_dryRun h]
  rfl

theorem requests_connect (a : Agent) (w : Surroundings) : requests (a.connect w).acts = [] :=
  (requests_traffic _).trans (Connection.requests_connect a.connection w.read w.transport)

theorem settled_begin (hc : a.connection.client = false)
    (h : ((a.configure w).value.connect w).result = .ok ()) :
    Settled ((a.configure w).value.connect w).agent := by
  refine settled_connect (dryRun_configure a w) ?_ h
  rw [client_configure, hc, Bool.false_and]

theorem settled_reconfigure (h : (a.reconfigure w).result = .ok ()) :
    Settled (a.reconfigure w).agent := by
  rw [reconfigure, ensureConnected, Connection.isConnected] at h ⊢
  cases hc : (a.configure w).value.connection.client with
  | true =>
    rw [if_pos rfl]
    refine ⟨dryRun_configure a w, ?_⟩
    rw [client_configure, Bool.and_eq_true] at hc
    rw [client_configure, hc.1, Bool.true_and]
  | false =>
    rw [hc, if_neg (by simp)] at h
    rw [if_neg (by simp)]
    exact settled_connect (dryRun_configure a w) hc h

theorem reconfigure_isMisuse {e : AgentError} (h : (a.reconfigure w).result = .error e) :
    e.isMisuse = false := by
  rw [reconfigure, ensureConnected, Connection.isConnected] at h
  split at h
  · cases h
  · rename_i hc
    exact connect_isMisuse (Bool.eq_false_iff.mpr hc) h

theorem requests_reconfigure (a : Agent) (w : Surroundings) :
    requests (a.reconfigure w).acts = [] := by
  rw [reconfigure, ensureConnected]
  split
  · rfl
  · exact requests_connect _ w

namespace Serving

variable {s : Serving} {o : Occasion} {turn : Turn}

theorem Serves.settled (h : s.Serves w o turn) (hs : Settled s.agent) {s' : Serving}
    (hp : turn.progress = .serving s') : Settled s'.agent := by
  cases h with
  | stopped | unsent e | only | unconnected e | blind e x => cases hp
  | cycled | ignored e | rebuilt e watcher | troubled text =>
    cases hp
    exact hs
  | reloaded hr =>
    cases hp
    exact settled_reconfigure hr

theorem Serves.requests_of_ne (h : s.Serves w o turn) (ho : o ≠ .labelTimer) :
    requests turn.acts = [] := by
  cases h with
  | unsent | only | cycled => exact absurd rfl ho
  | unconnected e | reloaded => exact requests_reconfigure s.agent w
  | _ => rfl

theorem Serves.requests_labelTimer (h : s.Serves w .labelTimer turn) :
    requests turn.acts =
      if s.agent.connection.client then [s.agent.request (s.agent.discover w).value] else [] := by
  cases h <;> exact requests_labelCycle s.agent w

theorem Serves.isMisuse (h : s.Serves w o turn) {b : Agent} {e : AgentError}
    (hp : turn.progress = .ended b (.error e)) : e.isMisuse = false := by
  cases h with
  | unsent e' hr =>
    cases hp
    exact labelCycle_isMisuse hr
  | unconnected e' hr =>
    cases hp
    exact reconfigure_isMisuse hr
  | blind e' x =>
    cases hp
    rfl
  | _ => cases hp

end Serving

variable {rounds : List Round} {t : Duration}

theorem Course.settled (hc : a.connection.client = false) {p : Progress}
    (h : Course a w rounds t p) {s : Serving} (hp : p = .serving s) : Settled s.agent := by
  induction h generalizing s with
  | begin =>
    have hb := begins a w
    generalize (a.begin w).value = turn at hb hp
    cases hb with
    | begun watcher _ hr =>
      cases hp
      exact settled_begin hc hr
    | _ => cases hp
  | @serve _ _ s₀ o v h _ _ _ ih => exact (s₀.serves v o).settled (ih rfl) hp

/-- With a client at the start, an agent comes to wait in its loop only if its first load drops the
client. -/
theorem configure_disconnect (h : ((a.configure w).value.connect w).result = .ok ()) :
    ({ a with connection := a.connection.disconnect }.configure w).value =
      (a.configure w).value := by
  have hr := Outcome.result_ofCall_ok h
  simp only [configure, Logged.value_bind, Logged.value_pure] at hr ⊢
  generalize (Config.reload _ _ _ _ _).value = loaded at hr ⊢
  cases hn : loaded.1.core.noPublish with
  | true => rfl
  | false =>
    rw [hn] at hr
    have hc := Connection.client_of_connect (Connection.dryRun_setDryRun _ _) hr
    rw [Connection.client_setDryRun, Bool.not_false, Bool.and_true] at hc
    have hd : a.connection.disconnect = a.connection := by rw [Connection.disconnect, ← hc]
    rw [hd]

theorem begin_disconnect {s : Serving} (h : (a.begin w).value.progress = .serving s) :
    ({ a with connection := a.connection.disconnect }.begin w).value.progress = .serving s := by
  obtain ⟨hw, hr, -⟩ := eq_of_begin h
  rw [← h, begin, begin, hw]
  simp only [Logged.value_bind, configure_disconnect hr]

theorem Course.unconnected {s : Serving} (h : Course a w rounds t (.serving s)) :
    Course { a with connection := a.connection.disconnect } w rounds t (.serving s) := by
  induction rounds generalizing t s with
  | nil =>
    obtain ⟨hw, rfl, hp⟩ := course_nil h
    rw [← begin_disconnect hp.symm]
    exact .begin hw
  | cons r rounds ih =>
    obtain ⟨t', hc, hd, ht, hv, rfl, hp⟩ := course_cons h
    rw [hp]
    exact .serve r.occasion r.surroundings (ih hc) hd ht hv

theorem Course.isMisuse (hc : a.connection.client = false) {p : Progress}
    (h : Course a w rounds t p) {b : Agent} {e : AgentError} (hp : p = .ended b (.error e)) :
    e.isMisuse = false := by
  cases h with
  | begin =>
    have hb := begins a w
    generalize (a.begin w).value = turn at hb hp
    cases hb with
    | blind x =>
      cases hp
      rfl
    | unconnected watcher e' _ hr =>
      cases hp
      refine connect_isMisuse ?_ hr
      rw [client_configure, hc, Bool.false_and]
    | begun watcher => cases hp
  | @serve _ _ s o v => exact (s.serves v o).isMisuse hp

theorem requests_begin (a : Agent) (w : Surroundings) :
    requests (a.begin w).value.acts = [] := by
  have hb := begins a w
  generalize (a.begin w).value = turn at hb
  cases hb with
  | blind x => rfl
  | unconnected watcher e | begun watcher => exact requests_connect _ w

/-- Along every course of an agent that starts without a client, the dry run is what the
configuration in force says, a client is held if and only if labels are published, and each cycle
sends the labels that it just discovered, once, or nothing. -/
theorem course_publishing (hc : a.connection.client = false) {p : Progress}
    (h : Course a w rounds t p) :
    (∀ s, p = .serving s → s.agent.connection.dryRun = s.agent.config.core.noPublish ∧
      (s.agent.connection.client = true ↔ s.agent.config.core.noPublish = false)) ∧
    requests (a.begin w).value.acts = [] ∧
    (∀ r ∈ rounds, r.occasion ≠ .labelTimer → requests r.turn.acts = []) ∧
    (∀ r ∈ rounds, r.occasion = .labelTimer → requests r.turn.acts =
      if r.before.agent.config.core.noPublish then []
      else [⟨version, a.node,
        (discoverAll a.whitelist r.before.agent.sources r.surroundings.host).value⟩]) ∧
    (∀ b e, p = .ended b (.error e) →
      e ≠ .connection .alreadyConnected ∧ e ≠ .connection .notConnected) := by
  refine ⟨fun s hp => ?_, requests_begin a w, fun r hr ho => ?_, fun r hr ho => ?_,
    fun b e hp => ?_⟩
  · obtain ⟨hd, hclient⟩ := h.settled hc hp
    exact ⟨hd, by simp [hclient]⟩
  · exact (r.before.serves r.surroundings r.occasion).requests_of_ne ho
  · obtain ⟨earlier, t', hb⟩ := h.before hr
    have hclient := (hb.settled hc rfl).client
    have hsame := hb.sameSetup
    have hs : r.before.Serves r.surroundings .labelTimer r.turn :=
      ho ▸ r.before.serves r.surroundings r.occasion
    have hnode : r.before.agent.node = a.node := hsame.node
    have hlist : r.before.agent.whitelist = a.whitelist := hsame.whitelist
    rw [hs.requests_labelTimer, hclient, request, discover, hnode, hlist]
    cases r.before.agent.config.core.noPublish <;> rfl
  · have he := h.isMisuse hc hp
    constructor <;> rintro rfl <;> simp [AgentError.isMisuse, ConnectionError.isMisuse] at he

/-- An agent whose first report is not answered in time has sent it all the same. -/
theorem course_publishing_forced :
    let a := sample { AgentOptions.default with forced := some false }
      [.constant "cpu" true (.ok (.ofList [("model", .text "arm64")]))]
    let w : Surroundings :=
      { Surroundings.calm .zero .zero (.error .notFound) with answer := fun _ => .timedOut }
    a.connection.client = false ∧ ∃ s p, Course a w [⟨s, .labelTimer, w⟩] .zero p ∧
      requests (Round.turn ⟨s, .labelTimer, w⟩).acts =
        [⟨version, "node", (discoverAll a.whitelist s.agent.sources w.host).value⟩] := by
  intro a w
  have hc : a.connection.client = false := rfl
  have hf : a.options.forced = some false := rfl
  have hw : (Watch.Watcher.create w.watching a.configPath).isOk = true :=
    Watch.Watcher.isOk_create rfl
  have hr : ((a.configure w).value.connect w).result.isOk = true := by decide +kernel
  obtain ⟨s, hstart, _, hagent, ht⟩ := exists_start (Nat.le_refl _) hw hr
  have hn : s.agent.config.core.noPublish = false := by
    rw [hagent, config_connect]
    exact noPublish_configure hf
  have hd : s.isDue w.now .labelTimer = true := by
    rw [Serving.isDue, ht]
    rfl
  have hround := hstart.serve .labelTimer w hd (Nat.le_refl _) (Nat.le_refl _)
  refine ⟨hc, s, _, hround, ?_⟩
  rw [(course_publishing hc hround).2.2.2.1 _ List.mem_cons_self rfl, hn]
  rfl

end NodeSurvey.Agent
