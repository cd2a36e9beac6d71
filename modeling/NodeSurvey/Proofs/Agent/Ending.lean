import NodeSurvey.Proofs.Agent.Oneshot

/-! How a course ends. It goes on until an agent is stopped, has done its only cycle, or fails to
watch its configuration file, to dial the labeler or to send a report; nothing else ends it. At the
end no client is held, and the dry run is the one of the configuration that was loaded last. -/

namespace NodeSurvey.Agent

open Labeler

variable {a : Agent} {w : Surroundings} {rounds : List Round} {t : Duration} {p : Progress}

/-- The configuration that was loaded last along a course. Without a watch there is none. -/
def lastLoaded? (a : Agent) (w : Surroundings) (rounds : List Round) : Option Config :=
  match rounds.find? (·.isReload) with
  | some r => some (a.configFrom r.surroundings.file)
  | none =>
    if (Watch.Watcher.create w.watching a.configPath).isOk then some (a.configFrom w.file)
    else none

/-- What makes an agent fail before it comes to its loop, with the error that tells of it. -/
inductive FailsToBegin (a : Agent) (w : Surroundings) : AgentError → Prop
  | watch (x : Watch.SetupError) : Watch.Watcher.Unwatchable w.watching a.configPath x →
      FailsToBegin a w (.watch x)
  | connect (e : ConnectionError) :
      (Watch.Watcher.create w.watching a.configPath).isOk = true →
      ((a.configure w).value.connection.connect w.read w.transport).result = .error e →
      FailsToBegin a w (.connection e)

/-- What makes an agent fail in a round: its watches are not placed anew, the labeler is not reached
after a load, or a report is not taken. -/
inductive Round.Fails (r : Round) : AgentError → Prop
  | rebuild (event : Watch.Event) (x : Watch.SetupError) : r.occasion = .event event →
      r.before.watcher.isRelevant event = true →
      Watch.Watcher.Unwatchable r.surroundings.watching r.before.watcher.path x →
      r.Fails (.watch x)
  | connect (e : ConnectionError) : r.occasion = .configTimer →
      (r.before.agent.configure r.surroundings).value.connection.client = false →
      ((r.before.agent.configure r.surroundings).value.connection.connect r.surroundings.read
        r.surroundings.transport).result = .error e → r.Fails (.connection e)
  | report (e : ConnectionError) : r.occasion = .labelTimer →
      r.before.agent.connection.client = true →
      (r.before.agent.connection.report r.surroundings.answer
        (r.before.agent.request (r.before.agent.discover r.surroundings).value)).result =
          .error e → r.Fails (.connection e)

/-- The failure at the end of a course. -/
def Failed (a : Agent) (w : Surroundings) : List Round → AgentError → Prop
  | [], e => FailsToBegin a w e
  | r :: _, e => r.Fails e

/-- Surroundings in which a watch can be placed, the labeler is reached and reports are taken. The
host and the configuration file may be in any state. -/
structure Favourable (a : Agent) (v : Surroundings) : Prop where
  watched : (Watch.Watcher.create v.watching a.configPath).isOk = true
  prepared : (a.connection.prepare v.read v.transport).isOk = true
  dialed : ∀ endpoint, v.transport.dial endpoint = .connected
  answered : ∀ r, v.answer r = .accepted

/-! What fails. -/

theorem result_ofCall_error_iff {c : Call} {e : AgentError} :
    (Outcome.ofCall a c).result = .error e ↔ ∃ e', c.result = .error e' ∧ e = .connection e' := by
  rw [Outcome.ofCall]
  cases c.result with
  | ok u =>
    change Except.ok u = Except.error e ↔ _
    simp
  | error e' =>
    change Except.error (AgentError.connection e') = Except.error e ↔ _
    simp [eq_comm]

theorem labelCycle_error_iff {e : AgentError} :
    (a.labelCycle w).value.result = .error e ↔ a.connection.client = true ∧
      ∃ e', (a.connection.report w.answer (a.request (a.discover w).value)).result = .error e' ∧
        e = .connection e' := by
  cases hc : a.connection.client with
  | false => simp [labelCycle_of_no_client hc]
  | true =>
    rw [labelCycle_of_client hc, ← result_ofCall_error_iff (a := a)]
    simp [Outcome.ofCall]

theorem reconfigure_error_iff {e : AgentError} :
    (a.reconfigure w).result = .error e ↔
      (a.configure w).value.connection.client = false ∧
      ∃ e', ((a.configure w).value.connection.connect w.read w.transport).result = .error e' ∧
        e = .connection e' := by
  rw [reconfigure, ensureConnected, Connection.isConnected]
  cases hc : (a.configure w).value.connection.client with
  | true => simp
  | false => simp [connect, result_ofCall_error_iff]

namespace Begins

variable {turn : Turn} {b : Agent} {result : Except AgentError Unit} {e : AgentError}

theorem client_of_ended (h : Begins a w turn) (hc : a.connection.client = false)
    (hp : turn.progress = .ended b result) : b.connection.client = false := by
  cases h with
  | blind x =>
    cases hp
    exact hc
  | unconnected watcher e _ hr =>
    cases hp
    obtain ⟨e', hr', -⟩ := result_ofCall_error_iff.mp hr
    have hkept : ((a.configure w).value.connect w).agent.connection =
        (a.configure w).value.connection := Connection.connection_of_connect_error hr'
    rw [hkept, client_configure, hc, Bool.false_and]
  | begun => cases hp

theorem fails_of_ended (h : Begins a w turn) (hp : turn.progress = .ended b (.error e)) :
    FailsToBegin a w e := by
  cases h with
  | blind x hx =>
    cases hp
    exact .watch x (Watch.Watcher.create_eq_error_iff.mp hx)
  | unconnected watcher e hw hr =>
    cases hp
    obtain ⟨e', hr', rfl⟩ := result_ofCall_error_iff.mp hr
    exact .connect e' (by rw [hw]; rfl) hr'
  | begun => cases hp

end Begins

theorem FailsToBegin.ended {e : AgentError} (h : FailsToBegin a w e) :
    ∃ b, (a.begin w).value.progress = .ended b (.error e) := by
  cases h with
  | watch x hx =>
    rw [begin, Watch.Watcher.create_eq_error_iff.mpr hx]
    exact ⟨a, rfl⟩
  | connect e hw hr =>
    cases hc : Watch.Watcher.create w.watching a.configPath with
    | error x =>
      rw [hc] at hw
      cases hw
    | ok watcher =>
      have hr' : ((a.configure w).value.connect w).result = .error (.connection e) :=
        result_ofCall_error_iff.mpr ⟨e, hr, rfl⟩
      refine ⟨((a.configure w).value.connect w).agent, ?_⟩
      simp only [begin, hc, Logged.value_bind, hr', Logged.value_pure]

namespace Serving

variable {s : Serving} {o : Occasion} {v : Surroundings} {turn : Turn} {b : Agent}
  {result : Except AgentError Unit} {e : AgentError}

theorem Serves.client_of_ended (h : s.Serves v o turn) (hp : turn.progress = .ended b result) :
    b.connection.client = false := by
  cases h with
  | cycled | reloaded | ignored | rebuilt | troubled => cases hp
  | _ =>
    cases hp
    rfl

theorem Serves.fails_of_ended (h : s.Serves v o turn)
    (hp : turn.progress = .ended b (.error e)) : Round.Fails ⟨s, o, v⟩ e := by
  cases h with
  | unsent e hr =>
    cases hp
    obtain ⟨hc, e', hr', rfl⟩ := labelCycle_error_iff.mp hr
    exact .report e' rfl hc hr'
  | unconnected e hr =>
    cases hp
    obtain ⟨hc, e', hr', rfl⟩ := reconfigure_error_iff.mp hr
    exact .connect e' rfl hc hr'
  | blind event x hrel hx =>
    cases hp
    exact .rebuild event x rfl hrel (Watch.Watcher.create_eq_error_iff.mp hx)
  | _ => cases hp

theorem Serves.ended_of_fails (h : s.Serves v o turn) (hf : Round.Fails ⟨s, o, v⟩ e) :
    ∃ b, turn.progress = .ended b (.error e) := by
  cases hf with
  | rebuild event x ho hrel hx =>
    have hcreate := Watch.Watcher.create_eq_error_iff.mpr hx
    cases h with
    | blind event' x' _ hx' =>
      exact ⟨_, by rw [Except.error.inj (hcreate.symm.trans hx')]; rfl⟩
    | ignored event' hrel' =>
      cases ho
      cases hrel.symm.trans hrel'
    | rebuilt event' watcher _ hcreate' => cases hcreate.symm.trans hcreate'
    | _ => cases ho
  | connect e ho hc he =>
    have hr := reconfigure_error_iff.mpr ⟨hc, e, he, rfl⟩
    cases h with
    | unconnected e' hr' => exact ⟨_, by rw [Except.error.inj (hr.symm.trans hr')]; rfl⟩
    | reloaded hr' => cases hr.symm.trans hr'
    | _ => cases ho
  | report e ho hc he =>
    have hr := labelCycle_error_iff.mpr ⟨hc, e, he, rfl⟩
    cases h with
    | unsent e' hr' => exact ⟨_, by rw [Except.error.inj (hr.symm.trans hr')]; rfl⟩
    | only hr' | cycled hr' => cases hr.symm.trans hr'
    | _ => cases ho

end Serving

theorem Round.fails_iff (r : Round) {e : AgentError} :
    (∃ b, r.turn.progress = .ended b (.error e)) ↔ r.Fails e :=
  ⟨fun ⟨_, hp⟩ => r.serves.fails_of_ended hp, fun hf => r.serves.ended_of_fails hf⟩

theorem failsToBegin_iff {e : AgentError} :
    (∃ b, (a.begin w).value.progress = .ended b (.error e)) ↔ FailsToBegin a w e :=
  ⟨fun ⟨_, hp⟩ => (begins a w).fails_of_ended hp, FailsToBegin.ended⟩

/-! What is left at the end. -/

theorem lastLoaded?_cons (a : Agent) (w : Surroundings) (r : Round) (rounds : List Round) :
    lastLoaded? a w (r :: rounds) =
      if r.isReload then some (a.configFrom r.surroundings.file) else lastLoaded? a w rounds := by
  rw [lastLoaded?, List.find?_cons]
  cases r.isReload <;> rfl

theorem dryRun_connect (a : Agent) (w : Surroundings) :
    (a.connect w).agent.connection.dryRun = a.connection.dryRun :=
  Connection.dryRun_connect a.connection w.read w.transport

theorem settings_connect (a : Agent) (w : Surroundings) :
    (a.connect w).agent.connection.settings = a.connection.settings :=
  Connection.settings_connect a.connection w.read w.transport

theorem settings_configure (a : Agent) (w : Surroundings) :
    (a.configure w).value.connection.settings = a.connection.settings :=
  Connection.settings_setDryRun _ _

theorem dryRun_reconfigure (a : Agent) (w : Surroundings) :
    (a.reconfigure w).agent.connection.dryRun = (a.configFrom w.file).core.noPublish := by
  rw [← config_configure, ← dryRun_configure, reconfigure, ensureConnected]
  split
  · rfl
  · exact dryRun_connect _ w

theorem settings_reconfigure (a : Agent) (w : Surroundings) :
    (a.reconfigure w).agent.connection.settings = a.connection.settings := by
  rw [← settings_configure a w, reconfigure, ensureConnected]
  split
  · rfl
  · exact settings_connect _ w

theorem Begins.settings {turn : Turn} (h : Begins a w turn) :
    turn.progress.agent.connection.settings = a.connection.settings := by
  cases h with
  | blind x => rfl
  | unconnected watcher e | begun watcher =>
    exact (settings_connect _ w).trans (settings_configure a w)

theorem Serving.Serves.settings {s : Serving} {o : Occasion} {turn : Turn}
    (h : s.Serves w o turn) :
    turn.progress.agent.connection.settings = s.agent.connection.settings := by
  cases h with
  | unconnected e | reloaded => exact settings_reconfigure s.agent w
  | _ => rfl

theorem Course.settings_eq (h : Course a w rounds t p) :
    p.agent.connection.settings = a.connection.settings := by
  induction h with
  | begin => exact (begins a w).settings
  | @serve rounds t s o v _ _ _ _ ih => exact (s.serves v o).settings.trans ih

theorem Begins.dryRun {turn : Turn} (h : Begins a w turn) (hd : a.connection.dryRun = false) :
    turn.progress.agent.connection.dryRun = (lastLoaded? a w []).any (·.core.noPublish) := by
  cases h with
  | blind x hx =>
    have hnone : lastLoaded? a w [] = none := by
      simp [lastLoaded?, hx, Except.isOk, Except.toBool]
    rw [hnone]
    exact hd
  | unconnected watcher e hw | begun watcher hw =>
    have hloaded : lastLoaded? a w [] = some (a.configFrom w.file) := by
      simp [lastLoaded?, hw, Except.isOk, Except.toBool]
    rw [hloaded, Option.any_some, ← config_configure]
    exact (dryRun_connect _ w).trans (dryRun_configure a w)

theorem Serving.Serves.dryRun {s : Serving} {o : Occasion} {v : Surroundings} {turn : Turn}
    (h : s.Serves v o turn) (hsame : SameSetup a s.agent)
    (hs : s.agent.connection.dryRun = (lastLoaded? a w rounds).any (·.core.noPublish)) :
    turn.progress.agent.connection.dryRun =
      (lastLoaded? a w (⟨s, o, v⟩ :: rounds)).any (·.core.noPublish) := by
  rw [lastLoaded?_cons]
  cases h with
  | unconnected e | reloaded =>
    exact (dryRun_reconfigure s.agent v).trans (by rw [hsame.configFrom]; rfl)
  | _ => exact hs

/-- The dry run of an agent is that of the configuration that was loaded last, failed dials
included. -/
theorem Course.dryRun_eq (hd : a.connection.dryRun = false) (h : Course a w rounds t p) :
    p.agent.connection.dryRun = (lastLoaded? a w rounds).any (·.core.noPublish) := by
  induction h with
  | begin => exact (begins a w).dryRun hd
  | @serve rounds t s o v hc _ _ _ ih => exact (s.serves v o).dryRun hc.sameSetup ih

theorem Course.client_of_ended (hc : a.connection.client = false) {b : Agent}
    {result : Except AgentError Unit} (h : Course a w rounds t (.ended b result)) :
    b.connection.client = false := by
  cases rounds with
  | nil =>
    obtain ⟨-, -, hp⟩ := course_nil h
    exact (begins a w).client_of_ended hc hp.symm
  | cons r rounds =>
    obtain ⟨-, -, -, -, -, -, hp⟩ := course_cons h
    exact r.serves.client_of_ended hp.symm

/-! What does not fail. -/

theorem Favourable.result_connect {c : Connection} (hv : Favourable a w)
    (hs : c.settings = a.connection.settings) (hc : c.client = false) :
    (c.connect w.read w.transport).result = .ok () := by
  have hp : c.prepare w.read w.transport = a.connection.prepare w.read w.transport := by
    rw [Connection.prepare, Connection.prepare, hs]
  have hprepared := hv.prepared
  have hd := c.connect_dials w.read w.transport
  generalize c.connect w.read w.transport = call at hd
  cases hd with
  | dry | connected => rfl
  | again _ hc' => cases hc.symm.trans hc'
  | unprepared e _ _ he =>
    rw [← hp, he] at hprepared
    cases hprepared
  | failed endpoint _ _ _ he | timedOut endpoint _ _ _ he =>
    cases (hv.dialed endpoint).symm.trans he

theorem Favourable.not_unwatchable (hv : Favourable a w) (x : Watch.SetupError) :
    ¬ Watch.Watcher.Unwatchable w.watching a.configPath x := by
  intro hx
  have hok := hv.watched
  rw [Watch.Watcher.create_eq_error_iff.mpr hx] at hok
  cases hok

theorem Favourable.not_failsToBegin (hv : Favourable a w) (hc : a.connection.client = false)
    (e : AgentError) : ¬ FailsToBegin a w e := by
  rintro (⟨x, hx⟩ | ⟨e, -, hr⟩)
  · exact hv.not_unwatchable x hx
  · have hclient : (a.configure w).value.connection.client = false := by
      rw [client_configure, hc, Bool.false_and]
    cases (hv.result_connect (settings_configure a w) hclient).symm.trans hr

theorem Favourable.not_fails {r : Round} (hv : Favourable a r.surroundings)
    (hw : r.before.watcher.Heeds a.configPath)
    (hs : r.before.agent.connection.settings = a.connection.settings) (e : AgentError) :
    ¬ r.Fails e := by
  rintro (⟨event, x, -, -, hx⟩ | ⟨e, ho, hc, hr⟩ | ⟨e, ho, hc, hr⟩)
  · rw [← Watch.Watcher.create_eq_error_iff, hw.create_eq,
      Watch.Watcher.create_eq_error_iff] at hx
    exact hv.not_unwatchable x hx
  · have hset := (settings_configure r.before.agent r.surroundings).trans hs
    cases (hv.result_connect hset hc).symm.trans hr
  · rw [Connection.report_of_accepted hc (hv.answered _)] at hr
    cases hr

theorem Course.failed_iff {e : AgentError} (h : Course a w rounds t p) :
    (∃ b, p = .ended b (.error e)) ↔ Failed a w rounds e := by
  cases rounds with
  | nil =>
    obtain ⟨-, -, rfl⟩ := course_nil h
    exact failsToBegin_iff
  | cons r rounds =>
    obtain ⟨-, -, -, -, -, -, rfl⟩ := course_cons h
    exact r.fails_iff

theorem Course.not_failed (hc : a.connection.client = false) (h : Course a w rounds t p)
    (hw : Favourable a w) (hv : ∀ r ∈ rounds, Favourable a r.surroundings) (e : AgentError) :
    ¬ Failed a w rounds e := by
  cases rounds with
  | nil => exact hw.not_failsToBegin hc e
  | cons r rounds =>
    obtain ⟨_, hbefore, -⟩ := course_cons h
    exact (hv r List.mem_cons_self).not_fails (hbefore.heeds rfl) hbefore.settings_eq e

theorem Course.done_iff (h : Course a w rounds t p) :
    (∃ b, p = .ended b (.ok ())) ↔ ∃ r earlier, rounds = r :: earlier ∧
      (r.occasion = .shutdown ∨ r.occasion = .labelTimer ∧ a.options.oneshot = true ∧
        (r.before.agent.labelCycle r.surroundings).value.result = .ok ()) := by
  cases rounds with
  | nil =>
    obtain ⟨-, -, rfl⟩ := course_nil h
    constructor
    · rintro ⟨b, hp⟩
      exact absurd hp (not_ended_begin b)
    · rintro ⟨r, earlier, hr, -⟩
      cases hr
  | cons r earlier =>
    obtain ⟨_, hbefore, -, -, -, -, rfl⟩ := course_cons h
    have hdone := r.ended_ok_iff
    rw [hbefore.options_eq] at hdone
    rw [hdone]
    constructor
    · exact fun hr => ⟨r, earlier, rfl, hr⟩
    · rintro ⟨r', earlier', hrounds, hr⟩
      cases hrounds
      exact hr

/-- The end of a course of an agent that starts with a new connection. No client is held, and the
dry run is that of the last load. It ends with an error exactly if its file cannot be watched, or a
dial or a report has failed, and with the error of that; and it ends well exactly if the agent was
stopped or has done its only cycle. So the sources, the labels, the configuration and errors of the
watcher never end it. -/
theorem course_ending (hc : a.connection.state = .disconnected) (h : Course a w rounds t p) :
    (∀ b result, p = .ended b result → b.connection.client = false ∧
      b.connection.state =
        if (lastLoaded? a w rounds).any (·.core.noPublish) then .dryRun else .disconnected) ∧
    (∀ e, (∃ b, p = .ended b (.error e)) ↔ Failed a w rounds e) ∧
    ((∃ b, p = .ended b (.ok ())) ↔ ∃ r earlier, rounds = r :: earlier ∧
      (r.occasion = .shutdown ∨ r.occasion = .labelTimer ∧ a.options.oneshot = true ∧
        (r.before.agent.labelCycle r.surroundings).value.result = .ok ())) ∧
    (a.options.oneshot = true → rounds.countP (·.isCycle) ≤ 1) ∧
    (Favourable a w → (∀ r ∈ rounds, Favourable a r.surroundings) →
      (∃ s, p = .serving s) ∨ ∃ r earlier, rounds = r :: earlier ∧
        (r.occasion = .shutdown ∨ r.occasion = .labelTimer ∧ a.options.oneshot = true)) ∧
    (∀ r ∈ rounds, ∀ text, r.occasion = .watchError text →
      r.turn.progress = .serving r.before) := by
  obtain ⟨hclient, hdry⟩ := Connection.state_eq_disconnected_iff.mp hc
  refine ⟨?_, fun e => h.failed_iff, h.done_iff, h.countP_isCycle_le, fun hw hv => ?_,
    fun r _ text ho => ?_⟩
  · rintro b result rfl
    have hb : b.connection.client = false := h.client_of_ended hclient
    have hd : b.connection.dryRun = (lastLoaded? a w rounds).any (·.core.noPublish) :=
      h.dryRun_eq hdry
    refine ⟨hb, ?_⟩
    rw [Connection.state, hb, hd]
    rfl
  · have hnot := h.not_failed hclient hw hv
    cases p with
    | serving s => exact .inl ⟨s, rfl⟩
    | ended b result =>
      cases result with
      | error e => exact absurd (h.failed_iff.mp ⟨b, rfl⟩) (hnot e)
      | ok u =>
        obtain ⟨r, earlier, hrounds, hr⟩ := h.done_iff.mp ⟨b, rfl⟩
        exact .inr ⟨r, earlier, hrounds, hr.imp_right fun hr => ⟨hr.1, hr.2.1⟩⟩
  · exact Round.progress_of_isIdle (by rw [Round.isIdle, ho])

/-- The configuration leaves the dry run, but the labeler is not there. -/
theorem course_ending_unreachable :
    let a := sample .default []
    let start := Surroundings.calm .zero .zero (.ok "core:\n  noPublish: true\n")
    let later : Surroundings :=
      { Surroundings.calm pause pause (.error .notFound) with transport := .offline pause }
    let change : Watch.Event := ⟨.removed .file, [a.configPath]⟩
    a.connection.state = .disconnected ∧ ∃ (waiting told : Serving) (b : Agent),
      waiting.agent.connection.state = .dryRun ∧
      Course a start [⟨told, .configTimer, later⟩, ⟨waiting, .event change, start⟩] pause
        (.ended b (.error (.connection (.dialFailed "localhost:8080")))) ∧
      b.connection.state = .disconnected := by
  intro a start later change
  have hw : (Watch.Watcher.create start.watching a.configPath).isOk = true :=
    Watch.Watcher.isOk_create rfl
  have hr : ((a.configure start).value.connect start).result.isOk = true := by decide +kernel
  obtain ⟨waiting, hstart, hcreate, hagent, -⟩ := exists_start (Nat.le_refl _) hw hr
  let told : Serving := { waiting with configTimer := some (.zero + pause) }
  have htold : Course a start [⟨waiting, .event change, start⟩] .zero (.serving told) :=
    (hstart.told rfl List.mem_cons_self hcreate (Nat.le_refl _) (Nat.le_refl _)).2
  let reload : Round := ⟨told, .configTimer, later⟩
  have hfails : reload.Fails (.connection (.dialFailed "localhost:8080")) := by
    refine .connect _ rfl ?_ ?_
    · show (waiting.agent.configure later).value.connection.client = false
      rw [hagent]
      decide +kernel
    · show ((waiting.agent.configure later).value.connection.connect later.read
        later.transport).result = _
      rw [hagent]
      decide +kernel
  obtain ⟨b, hended⟩ := reload.fails_iff.mpr hfails
  have hpaused : Duration.zero + pause ≤ pause := by decide
  have hdue : told.isDue pause .configTimer = true := decide_eq_true hpaused
  have hwait : Duration.zero ≤ pause := by decide
  have hcourse := htold.serve .configTimer later hdue hwait (Nat.le_refl _)
  rw [hended] at hcourse
  have hopen : (a.configFrom later.file).core.noPublish = false := by decide +kernel
  have hwaiting : waiting.agent.connection.state = .dryRun := by
    rw [hagent]
    decide +kernel
  refine ⟨rfl, waiting, told, b, hwaiting, hcourse, ?_⟩
  have hloaded : lastLoaded? a start [reload, ⟨waiting, .event change, start⟩] =
      some (a.configFrom later.file) := rfl
  rw [((course_ending rfl hcourse).1 b _ rfl).2, hloaded, Option.any_some, hopen]
  rfl

end NodeSurvey.Agent
