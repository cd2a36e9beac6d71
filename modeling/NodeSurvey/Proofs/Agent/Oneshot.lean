import NodeSurvey.Proofs.Agent.Debounce
import NodeSurvey.Proofs.Agent.Publishing

/-! Agents that do a single cycle. What an agent does along a course is counted by the rounds of the
course: a discovery for each cycle, and at most one request. An agent that is to do one cycle only
does not come back to its loop after it, so there is one such round at most. -/

namespace NodeSurvey.Agent

variable {a : Agent} {w : Surroundings} {rounds : List Round} {t : Duration} {p : Progress}

def Act.isDiscovery : Act → Bool
  | .discovered _ => true
  | _ => false

/-- All that an agent does along a course. -/
def actsOf (a : Agent) (w : Surroundings) : List Round → List Act
  | [] => (a.begin w).value.acts
  | r :: rounds => actsOf a w rounds ++ r.turn.acts

theorem countP_traffic (l : List Labeler.Traffic) :
    (l.map Act.traffic).countP Act.isDiscovery = 0 := by
  rw [List.countP_map]
  exact List.countP_eq_zero.mpr fun t _ => by simp [Act.isDiscovery]

theorem countP_labelCycle (a : Agent) (w : Surroundings) :
    (a.labelCycle w).value.acts.countP Act.isDiscovery = 1 := by
  cases hc : a.connection.client with
  | false =>
    rw [labelCycle_of_no_client hc]
    rfl
  | true =>
    rw [labelCycle_of_client hc, List.countP_cons, countP_traffic]
    rfl

theorem countP_connect (a : Agent) (w : Surroundings) :
    (a.connect w).acts.countP Act.isDiscovery = 0 :=
  countP_traffic _

theorem countP_reconfigure (a : Agent) (w : Surroundings) :
    (a.reconfigure w).acts.countP Act.isDiscovery = 0 := by
  rw [reconfigure, ensureConnected]
  split
  · rfl
  · exact countP_connect _ w

theorem countP_begin (a : Agent) (w : Surroundings) :
    (a.begin w).value.acts.countP Act.isDiscovery = 0 := by
  have hb := begins a w
  generalize (a.begin w).value = turn at hb
  cases hb with
  | blind x => rfl
  | unconnected watcher e | begun watcher =>
    rw [List.countP_cons, countP_connect]
    rfl

namespace Serving

variable {s s' : Serving} {o : Occasion} {v : Surroundings} {turn : Turn}

theorem Serves.countP_acts (h : s.Serves v o turn) :
    turn.acts.countP Act.isDiscovery = if Round.isCycle ⟨s, o, v⟩ then 1 else 0 := by
  cases h with
  | unsent e | only | cycled => exact countP_labelCycle s.agent v
  | unconnected e | reloaded =>
    rw [List.countP_cons, countP_reconfigure]
    rfl
  | _ => rfl

theorem Serves.not_isCycle (h : s.Serves v o turn) (ho : s.agent.options.oneshot = true)
    (hp : turn.progress = .serving s') : Round.isCycle ⟨s, o, v⟩ = false := by
  cases h with
  | unsent | only => cases hp
  | cycled _ hn => cases hn.symm.trans ho
  | _ => rfl

theorem Serves.stopped_or_done (h : s.Serves v o turn) {b : Agent}
    (hp : turn.progress = .ended b (.ok ())) : o = .shutdown ∨
      o = .labelTimer ∧ s.agent.options.oneshot = true ∧
        (s.agent.labelCycle v).value.result = .ok () := by
  cases h with
  | stopped => exact .inl rfl
  | only hr hone => exact .inr ⟨rfl, hone, hr⟩
  | _ => cases hp

end Serving

namespace Round

theorem requests_acts (r : Round) :
    requests r.turn.acts =
      if r.isCycle && r.before.agent.connection.client then
        [r.before.agent.request (r.before.agent.discover r.surroundings).value]
      else [] := by
  obtain ⟨s, o, v⟩ := r
  have hs := s.serves v o
  cases o with
  | labelTimer => exact hs.requests_labelTimer
  | _ => exact hs.requests_of_ne (by simp)

theorem length_requests_le (r : Round) :
    (requests r.turn.acts).length ≤ if r.isCycle then 1 else 0 := by
  rw [requests_acts]
  cases r.isCycle <;> cases r.before.agent.connection.client <;> simp

theorem ended_ok_iff (r : Round) :
    (∃ b, r.turn.progress = .ended b (.ok ())) ↔ r.occasion = .shutdown ∨
      r.occasion = .labelTimer ∧ r.before.agent.options.oneshot = true ∧
        (r.before.agent.labelCycle r.surroundings).value.result = .ok () := by
  constructor
  · rintro ⟨b, hp⟩
    exact r.serves.stopped_or_done hp
  · rintro (ho | ⟨ho, hone, hr⟩)
    · rw [turn, ho]
      exact ⟨_, rfl⟩
    · exact ⟨_, progress_of_only ho hr hone⟩

end Round

theorem countP_actsOf (a : Agent) (w : Surroundings) (rounds : List Round) :
    (actsOf a w rounds).countP Act.isDiscovery = rounds.countP (·.isCycle) := by
  induction rounds with
  | nil => exact countP_begin a w
  | cons r rounds ih =>
    rw [actsOf, List.countP_append, ih, List.countP_cons]
    exact congrArg _ r.serves.countP_acts

theorem requests_append (l l' : List Act) : requests (l ++ l') = requests l ++ requests l' :=
  List.filterMap_append

theorem length_requests_actsOf_le (a : Agent) (w : Surroundings) (rounds : List Round) :
    (requests (actsOf a w rounds)).length ≤ rounds.countP (·.isCycle) := by
  induction rounds with
  | nil => simp [actsOf, requests_begin]
  | cons r rounds ih =>
    rw [actsOf, requests_append, List.length_append, List.countP_cons]
    exact Nat.add_le_add ih r.length_requests_le

theorem Course.countP_isCycle (ho : a.options.oneshot = true) {s : Serving}
    (h : Course a w rounds t (.serving s)) : rounds.countP (·.isCycle) = 0 := by
  induction rounds generalizing t s with
  | nil => rfl
  | cons r rounds ih =>
    obtain ⟨t', hc, -, -, -, -, hp⟩ := course_cons h
    have hone : r.before.agent.options.oneshot = true := by rw [hc.options_eq, ho]
    have hnot : r.isCycle = false := r.serves.not_isCycle hone hp.symm
    rw [List.countP_cons, ih hc, hnot]
    rfl

theorem Course.countP_isCycle_le (ho : a.options.oneshot = true) (h : Course a w rounds t p) :
    rounds.countP (·.isCycle) ≤ 1 := by
  cases rounds with
  | nil => exact Nat.zero_le _
  | cons r rounds =>
    obtain ⟨t', hc, -⟩ := course_cons h
    rw [List.countP_cons, hc.countP_isCycle ho]
    split <;> simp

theorem answer_of_labelCycle (hc : a.connection.client = true)
    (h : (a.labelCycle w).value.result = .ok ()) :
    w.answer (a.request (a.discover w).value) = .accepted := by
  rw [labelCycle_of_client hc] at h
  refine Labeler.Connection.answer_of_report hc ?_
  exact Outcome.result_ofCall_ok (a := a) h

theorem not_ended_begin (b : Agent) : (a.begin w).value.progress ≠ .ended b (.ok ()) := by
  have hb := begins a w
  generalize (a.begin w).value = turn at hb
  cases hb with
  | _ => rintro ⟨⟩

/-- What is left of a course that has ended well and was not stopped: a last round that is the only
cycle, on the configuration in force. -/
theorem Course.exists_cycle {b : Agent} (ho : a.options.oneshot = true)
    (h : Course a w rounds t (.ended b (.ok ()))) (hs : ∀ r ∈ rounds, r.occasion ≠ .shutdown) :
    ∃ r earlier, rounds = r :: earlier ∧ r.isCycle = true ∧
      earlier.countP (·.isCycle) = 0 ∧ Settled r.before.agent ∧
      (r.before.agent.labelCycle r.surroundings).value.result = .ok () := by
  cases rounds with
  | nil =>
    obtain ⟨-, -, hp⟩ := course_nil h
    exact absurd hp.symm (not_ended_begin b)
  | cons r earlier =>
    obtain ⟨t', hc, -, -, -, -, hp⟩ := course_cons h
    obtain ⟨hcycle, -, hr⟩ :=
      (r.ended_ok_iff.mp ⟨b, hp.symm⟩).resolve_left (hs r List.mem_cons_self)
    exact ⟨r, earlier, rfl, by rw [Round.isCycle, hcycle], hc.countP_isCycle ho,
      hc.unconnected.settled rfl rfl, hr⟩

/-- The course of an agent that is to do a single cycle. It discovers once and sends one request at
most; and if it ends well without being stopped, then it has discovered once, and has sent the
labels to a labeler that took them if the configuration in force says so. -/
theorem course_oneshot (ho : a.options.oneshot = true) (h : Course a w rounds t p) :
    (actsOf a w rounds).countP Act.isDiscovery ≤ 1 ∧
    (requests (actsOf a w rounds)).length ≤ 1 ∧
    ∀ b, p = .ended b (.ok ()) → (∀ r ∈ rounds, r.occasion ≠ .shutdown) →
      (actsOf a w rounds).countP Act.isDiscovery = 1 ∧
      ∃ r earlier, rounds = r :: earlier ∧ r.isCycle = true ∧
        (r.before.agent.config.core.noPublish = true → requests (actsOf a w rounds) = []) ∧
        (r.before.agent.config.core.noPublish = false →
          let sent : Labeler.Request := ⟨version, a.node,
            (discoverAll a.whitelist r.before.agent.sources r.surroundings.host).value⟩
          requests (actsOf a w rounds) = [sent] ∧ r.surroundings.answer sent = .accepted) := by
  refine ⟨?_, ?_, ?_⟩
  · rw [countP_actsOf]
    exact h.countP_isCycle_le ho
  · exact Nat.le_trans (length_requests_actsOf_le a w rounds) (h.countP_isCycle_le ho)
  · rintro b rfl hs
    obtain ⟨r, earlier, rfl, hcycle, hnone, hset, hr⟩ := h.exists_cycle ho hs
    have hsame : SameSetup a r.before.agent := by
      obtain ⟨t', hc, -⟩ := course_cons h
      exact hc.sameSetup
    have hearlier : requests (actsOf a w earlier) = [] := by
      have hle := length_requests_actsOf_le a w earlier
      rw [hnone] at hle
      exact List.eq_nil_of_length_eq_zero (Nat.le_zero.mp hle)
    have hsent : requests (actsOf a w (r :: earlier)) =
        if r.before.agent.connection.client then
          [r.before.agent.request (r.before.agent.discover r.surroundings).value]
        else [] := by
      rw [actsOf, requests_append, hearlier, Round.requests_acts, hcycle, List.nil_append,
        Bool.true_and]
    refine ⟨?_, r, earlier, rfl, hcycle, fun hn => ?_, fun hn => ?_⟩
    · rw [countP_actsOf, List.countP_cons, hnone, hcycle]
      rfl
    · rw [hsent, hset.client, hn]
      rfl
    · have hclient : r.before.agent.connection.client = true := by rw [hset.client, hn]; rfl
      have hanswer := answer_of_labelCycle hclient hr
      have hnode : r.before.agent.node = a.node := hsame.node
      have hlist : r.before.agent.whitelist = a.whitelist := hsame.whitelist
      rw [request, discover, hnode, hlist] at hanswer hsent
      rw [hsent, if_pos hclient]
      exact ⟨rfl, hanswer⟩

/-- The configuration leaves the dry run before the only cycle, so the labels are sent. -/
theorem course_oneshot_reloaded :
    let a := sample { AgentOptions.default with oneshot := true }
      [.constant "cpu" true (.ok (.ofList [("model", .text "arm64")]))]
    let start := Surroundings.calm .zero .zero (.ok "core:\n  noPublish: true\n")
    let later := Surroundings.calm pause pause (.error .notFound)
    let change : Watch.Event := ⟨.removed .file, [a.configPath]⟩
    a.options.oneshot = true ∧ ∃ (waiting told loaded : Serving) (b : Agent),
      let rounds : List Round :=
        [⟨loaded, .labelTimer, later⟩, ⟨told, .configTimer, later⟩, ⟨waiting, .event change, start⟩]
      waiting.agent.config.core.noPublish = true ∧
      Course a start rounds pause (.ended b (.ok ())) ∧
      (actsOf a start rounds).countP Act.isDiscovery = 1 ∧
      ∃ sent, requests (actsOf a start rounds) = [sent] := by
  intro a start later change
  have hw : (Watch.Watcher.create start.watching a.configPath).isOk = true :=
    Watch.Watcher.isOk_create rfl
  have hr : ((a.configure start).value.connect start).result.isOk = true := by decide +kernel
  have hdry : (a.configFrom start.file).core.noPublish = true := by decide +kernel
  have hopen : (a.configFrom later.file).core.noPublish = false := by decide +kernel
  obtain ⟨waiting, hstart, hcreate, hagent, -⟩ := exists_start (Nat.le_refl _) hw hr
  let told : Serving := { waiting with configTimer := some (.zero + pause) }
  have htold : Course a start [⟨waiting, .event change, start⟩] .zero (.serving told) :=
    (hstart.told rfl List.mem_cons_self hcreate (Nat.le_refl _) (Nat.le_refl _)).2
  have hwaiting : waiting.agent.config = a.configFrom start.file := by
    rw [hagent, config_connect, config_configure]
  let reload : Round := ⟨told, .configTimer, later⟩
  have hreload : (told.agent.reconfigure later).result = .ok () := by
    rw [hagent]
    decide +kernel
  let loaded : Serving :=
    { told with
      agent := (told.agent.reconfigure later).agent
      labelTimer := some pause
      configTimer := none }
  have hreloaded : reload.turn.progress = .serving loaded := Round.progress_of_reload rfl hreload
  have hpaused : Duration.zero + pause ≤ pause := by decide
  have hdueReload : told.isDue pause .configTimer = true := decide_eq_true hpaused
  have hwait : Duration.zero ≤ pause := by decide
  have hloaded := htold.serve .configTimer later hdueReload hwait (Nat.le_refl _)
  rw [hreloaded] at hloaded
  have hpublishes : loaded.agent.config.core.noPublish = false := by
    have hconfig : loaded.agent.config = told.agent.configFrom later.file :=
      config_reconfigure told.agent later
    have hsame : SameSetup a told.agent := htold.sameSetup
    rw [hconfig, hsame.configFrom, hopen]
  have hcycle : (loaded.agent.labelCycle later).value.result = .ok () := by
    have hclient : loaded.agent.connection.client = true := by
      rw [(hloaded.settled rfl rfl).client, hpublishes]
      rfl
    rw [labelCycle_of_client hclient, Labeler.Connection.report_of_accepted hclient rfl]
    rfl
  let cycle : Round := ⟨loaded, .labelTimer, later⟩
  have hone : loaded.agent.options.oneshot = true := by
    rw [hloaded.options_eq]
    rfl
  have hdone : cycle.turn.progress = conclude loaded.agent (.ok ()) :=
    Round.progress_of_only rfl hcycle hone
  have hnow : pause ≤ pause := Nat.le_refl _
  have hdueCycle : loaded.isDue pause .labelTimer = true := by
    simpa [Serving.isDue, loaded] using hnow
  have hended := hloaded.serve .labelTimer later hdueCycle (Nat.le_refl _) (Nat.le_refl _)
  rw [hdone] at hended
  obtain ⟨-, -, hwhole⟩ := course_oneshot rfl hended
  obtain ⟨hcount, r, earlier, hrounds, -, -, hsent⟩ := hwhole _ rfl (by simp)
  obtain ⟨rfl, rfl⟩ := List.cons.inj hrounds
  refine ⟨rfl, waiting, told, loaded, _, ?_, hended, hcount, _, (hsent hpublishes).1⟩
  rw [hwaiting, hdry]

end NodeSurvey.Agent
