import NodeSurvey.Proofs.Agent.Publishing

/-! The time between two cycles. After the start and after every load a cycle is due at once; after
a cycle the next is due one interval later, or not at all without an interval. No interval is
shorter than the least one. -/

namespace NodeSurvey.Agent

theorem effectiveInterval_zero : effectiveInterval .zero = .zero := rfl

theorem leastInterval_le_effectiveInterval {d : Duration} (hd : .zero < d) :
    leastInterval ≤ effectiveInterval d := by
  rw [effectiveInterval]
  split
  · exact Nat.le_refl _
  · rename_i hs
    have hlong : ¬ d < leastInterval := fun hlt => hs (by simp [isShort, hd, hlt])
    exact Nat.le_of_not_lt hlong

theorem effectiveInterval_pos_iff {d : Duration} : .zero < effectiveInterval d ↔ .zero < d := by
  constructor
  · intro h
    by_contra hd
    have hz : d.nanoseconds = 0 := Nat.eq_zero_of_not_pos hd
    obtain ⟨n⟩ := d
    subst hz
    exact hd h
  · intro hd
    have hleast : Duration.zero < leastInterval := by decide
    exact Nat.lt_of_lt_of_le hleast (leastInterval_le_effectiveInterval hd)

theorem effectiveInterval_of_least_le {d : Duration} (hd : leastInterval ≤ d) :
    effectiveInterval d = d := by
  have hlong : ¬ d < leastInterval := Nat.not_lt_of_le hd
  rw [effectiveInterval, if_neg (by simp [isShort, hlong])]

theorem options_of_create {o : AgentOptions} {sources : List Source} {node : String} {a : Agent}
    (h : (create o sources node).value = .ok a) :
    a.options = { o with interval := effectiveInterval o.interval } := by
  cases hs : isShort o.interval <;> cases hv : o.labeler.validate <;>
    cases hw : Label.Whitelist.parse? o.whitelist <;> simp only [create, hs, hv, hw] at h <;>
    cases h <;> rfl

variable {a : Agent} {w : Surroundings} {rounds : List Round} {t : Duration} {p : Progress}

namespace Round

theorem not_isReload_of_isCycle {r : Round} (h : r.isCycle = true) : r.isReload = false := by
  obtain ⟨s, o, v⟩ := r
  cases o <;> simp_all [isCycle, isReload]

theorem labelTimer_of_progress {r : Round} {s : Serving} (h : r.turn.progress = .serving s) :
    s.labelTimer =
      if r.isReload then some r.surroundings.done
      else if r.isCycle then r.before.nextCycle r.surroundings.done else r.before.labelTimer := by
  obtain ⟨s₀, o, v⟩ := r
  have hs := s₀.serves v o
  simp only [turn] at h
  generalize (s₀.serve v o).value = turn at hs h
  cases hs with
  | stopped | unsent e | only | unconnected e | blind e x => cases h
  | cycled | reloaded | ignored e | rebuilt e watcher | troubled text =>
    cases h
    rfl

end Round

/-- The latest cycle since the last load, if there was one. -/
def cycled? (rounds : List Round) : Option Round :=
  (rounds.takeWhile fun r => !r.isReload).find? (·.isCycle)

theorem cycled?_cons (r : Round) (rounds : List Round) :
    cycled? (r :: rounds) =
      if r.isReload then none else if r.isCycle then some r else cycled? rounds :=
  find?_sinceReload_cons (·.isCycle) r rounds

theorem cycled?_append {idle : List Round}
    (h : ∀ x ∈ idle, x.isReload = false ∧ x.isCycle = false) (rounds : List Round) :
    cycled? (idle ++ rounds) = cycled? rounds := by
  induction idle with
  | nil => rfl
  | cons x idle ih =>
    obtain ⟨⟨hr, hc⟩, h⟩ := List.forall_mem_cons.mp h
    rw [List.cons_append, cycled?_cons, hr, hc]
    exact ih h

theorem cycled?_of_isReload {later : List Round} {r : Round}
    (hl : ∀ x ∈ later, x.isCycle = false) (hr : r.isReload = true) (earlier : List Round) :
    cycled? (later ++ r :: earlier) = none := by
  induction later with
  | nil => rw [List.nil_append, cycled?_cons, if_pos hr]
  | cons x later ih =>
    obtain ⟨hx, hl⟩ := List.forall_mem_cons.mp hl
    rw [List.cons_append, cycled?_cons, hx, ih hl]
    split <;> rfl

/-- When the load ended that the configuration in force comes from. -/
def loadedAt (w : Surroundings) (rounds : List Round) : Duration :=
  (rounds.find? (·.isReload)).elim w.done (·.surroundings.done)

theorem loadedAt_cons (w : Surroundings) (r : Round) (rounds : List Round) :
    loadedAt w (r :: rounds) = if r.isReload then r.surroundings.done else loadedAt w rounds := by
  cases hr : r.isReload <;> simp [loadedAt, hr]

theorem Course.loadedAt_le (h : Course a w rounds t p) : loadedAt w rounds ≤ t := by
  induction h with
  | begin => exact Nat.le_refl _
  | @serve rounds t s o v hc hd ht hv ih =>
    rw [loadedAt_cons]
    split
    · exact Nat.le_refl _
    · exact Nat.le_trans ih (Nat.le_trans ht hv)

/-- The invariant of the timer, carried from round to round. -/
theorem Course.labelTimer_eq {s : Serving} (h : Course a w rounds t (.serving s)) :
    s.labelTimer =
      match cycled? rounds with
      | none => some (loadedAt w rounds)
      | some r =>
        if .zero < a.options.interval then some (r.surroundings.done + a.options.interval)
        else none := by
  induction rounds generalizing t s with
  | nil =>
    obtain ⟨-, -, hp⟩ := course_nil h
    obtain ⟨-, -, hs⟩ := eq_of_begin hp.symm
    rw [hs]
    rfl
  | cons r rounds ih =>
    obtain ⟨t', hc, -, -, -, -, hp⟩ := course_cons h
    have htimer := Round.labelTimer_of_progress hp.symm
    rw [Serving.nextCycle, hc.options_eq, ih hc] at htimer
    rw [htimer, cycled?_cons, loadedAt_cons]
    cases r.isReload with
    | true => rfl
    | false => cases r.isCycle <;> rfl

theorem Course.isDue_labelTimer {s : Serving} (h : Course a w rounds t (.serving s))
    (hn : cycled? rounds = none) : s.isDue t .labelTimer = true := by
  have htimer := h.labelTimer_eq
  rw [hn] at htimer
  have hle := h.loadedAt_le
  simpa [Serving.isDue, htimer] using hle

theorem Course.interval_le {r r' : Round} {idle earlier : List Round}
    (h : Course a w (r :: (idle ++ r' :: earlier)) t p) (hr : r.isCycle = true)
    (hr' : r'.isCycle = true) (hi : ∀ x ∈ idle, x.isReload = false ∧ x.isCycle = false) :
    .zero < a.options.interval ∧
      r'.surroundings.done + a.options.interval ≤ r.surroundings.now := by
  obtain ⟨t', hc, hd, -⟩ := course_cons h
  have htimer := hc.labelTimer_eq
  have hlast : cycled? (idle ++ r' :: earlier) = some r' := by
    rw [cycled?_append hi, cycled?_cons, Round.not_isReload_of_isCycle hr', hr']
    rfl
  have hdue : r.before.labelTimer.any (· ≤ r.surroundings.now) = true := by
    obtain ⟨s, o, v⟩ := r
    cases o with
    | labelTimer => exact hd
    | _ => cases hr
  rw [htimer, hlast] at hdue
  by_cases hpos : .zero < a.options.interval
  · have hle : r'.surroundings.done + a.options.interval ≤ r.surroundings.now := by
      simpa [hpos] using hdue
    exact ⟨hpos, hle⟩
  · simp [hpos] at hdue

/-- The timer of the next cycle along a course, for every interval that an agent is created with. A
cycle is due from the end of the start and of each load on, and after that one interval after the
end of the latest cycle, if there is an interval at all; so without a load two cycles lie at least
the least interval apart. -/
theorem course_interval {o : AgentOptions} {sources : List Source} {node : String}
    (ha : (create o sources node).value = .ok a) {c : Labeler.Connection}
    (h : Course { a with connection := c } w rounds t p) :
    (o.interval = .zero → a.options.interval = .zero) ∧
    (.zero < o.interval → leastInterval ≤ a.options.interval) ∧
    (leastInterval ≤ o.interval → a.options.interval = o.interval) ∧
    (∀ s, p = .serving s →
      s.labelTimer =
        match cycled? rounds with
        | none => some (loadedAt w rounds)
        | some r =>
          if .zero < a.options.interval then some (r.surroundings.done + a.options.interval)
          else none) ∧
    (∀ later r idle r' earlier, rounds = later ++ r :: (idle ++ r' :: earlier) →
      r.isCycle = true → r'.isCycle = true →
      (∀ x ∈ idle, x.isReload = false ∧ x.isCycle = false) →
      r'.surroundings.done + leastInterval ≤ r.surroundings.now) ∧
    (.zero < o.interval → ∀ s, p = .serving s → s.labelTimer.isSome = true) ∧
    (∀ later r earlier, rounds = later ++ r :: earlier → r.isReload = true →
      (∀ x ∈ later, x.isCycle = false) → ∀ s, p = .serving s → s.isDue t .labelTimer = true) := by
  have hinterval : a.options.interval = effectiveInterval o.interval := by
    rw [options_of_create ha]
  have hleast : .zero < o.interval → leastInterval ≤ a.options.interval := fun hpos =>
    hinterval ▸ leastInterval_le_effectiveInterval hpos
  have hpos : .zero < a.options.interval ↔ .zero < o.interval := by
    rw [hinterval]
    exact effectiveInterval_pos_iff
  refine ⟨fun hz => ?_, hleast, ?_, ?_, ?_, ?_, ?_⟩
  · rw [hinterval, hz, effectiveInterval_zero]
  · exact fun hle => hinterval.trans (effectiveInterval_of_least_le hle)
  · rintro s rfl
    exact h.labelTimer_eq
  · rintro later r idle r' earlier rfl hr hr' hi
    obtain ⟨t', p', hc, -⟩ := h.suffix
    obtain ⟨hp, hle⟩ := hc.interval_le hr hr' hi
    have hl : leastInterval ≤ a.options.interval := hleast (hpos.mp hp)
    exact Nat.le_trans (Nat.add_le_add_left hl _) hle
  · rintro hp s rfl
    rw [h.labelTimer_eq]
    split
    · rfl
    · rw [if_pos (hpos.mpr hp)]
      rfl
  · rintro later r earlier rfl hr hl s rfl
    exact h.isDue_labelTimer (cycled?_of_isReload hl hr earlier)

/-- An interval of a tenth of a second counts as one second: the second cycle comes one second after
the end of the first. -/
theorem course_interval_raised :
    let o : AgentOptions :=
      { AgentOptions.default with interval := .ofMilliseconds 100, forced := some true }
    let around (now done : Duration) := Surroundings.calm now done (.error .notFound)
    ∃ (a : Agent) (first second s : Serving),
      (create o [] "node").value = .ok a ∧
      Course a (around .zero .zero)
        [⟨second, .labelTimer, around (.ofMilliseconds 1200) (.ofMilliseconds 1300)⟩,
          ⟨first, .labelTimer, around .zero (.ofMilliseconds 200)⟩]
        (.ofMilliseconds 1300) (.serving s) ∧
      Duration.ofMilliseconds 200 + leastInterval ≤ .ofMilliseconds 1200 ∧
      s.labelTimer = some (.ofMilliseconds 2300) := by
  intro o around
  obtain ⟨whitelist, hwhitelist⟩ : ∃ x, Label.Whitelist.parse? o.whitelist = some x :=
    Option.isSome_iff_exists.mp (by decide +kernel)
  let a : Agent :=
    { options := { o with interval := leastInterval }
      configPath := (Path.ofString o.configFile).clean
      node := "node"
      whitelist := whitelist
      sources := []
      config := .ofDefaults []
      connection := .create o.labeler }
  have ha : (create o [] "node").value = .ok a := by
    have hshort : isShort o.interval = true := by decide
    have hvalid : o.labeler.validate = .ok () := rfl
    simp only [create, hshort, hvalid, hwhitelist]
    rfl
  have hdry : (a.configure (around .zero .zero)).value.config.core.noPublish = true :=
    noPublish_configure rfl
  have hw : (Watch.Watcher.create (around .zero .zero).watching a.configPath).isOk = true :=
    Watch.Watcher.isOk_create rfl
  have hr :
      ((a.configure (around .zero .zero)).value.connect (around .zero .zero)).result = .ok () :=
    result_connect_of_dryRun ((dryRun_configure a _).trans hdry)
  obtain ⟨first, hstart, -, hagent, ht⟩ := exists_start (Nat.le_refl _) hw (by rw [hr]; rfl)
  have hclient : first.agent.connection.client = false := by
    rw [(hstart.settled rfl rfl).client, hagent, config_connect, hdry]
    rfl
  have hcycle (v : Surroundings) : (first.agent.labelCycle v).value.result = .ok () := by
    rw [labelCycle_of_no_client hclient]
  have hone : first.agent.options.oneshot = false := by
    rw [hstart.options_eq]
    rfl
  have hpos : Duration.zero < leastInterval := by decide
  have hnext (s : Serving) (hs : s.agent = first.agent) (done : Duration) :
      s.nextCycle done = some (done + leastInterval) := by
    rw [Serving.nextCycle, hs, hstart.options_eq]
    exact if_pos hpos
  let r₁ : Round := ⟨first, .labelTimer, around .zero (.ofMilliseconds 200)⟩
  let second : Serving := { first with labelTimer := some (.ofMilliseconds 200 + leastInterval) }
  let r₂ : Round := ⟨second, .labelTimer, around (.ofMilliseconds 1200) (.ofMilliseconds 1300)⟩
  let third : Serving := { second with labelTimer := some (.ofMilliseconds 1300 + leastInterval) }
  have hp₁ : r₁.turn.progress = .serving second := by
    rw [Round.progress_of_cycle (r := r₁) rfl (hcycle _) hone, hnext first rfl]
    rfl
  have hp₂ : r₂.turn.progress = .serving third := by
    rw [Round.progress_of_cycle (r := r₂) rfl (hcycle _) hone, hnext second rfl]
    rfl
  have hdue₁ : first.isDue .zero .labelTimer = true := by
    rw [Serving.isDue, ht]
    rfl
  have hfirst := hstart.serve .labelTimer r₁.surroundings hdue₁ (Nat.le_refl _) (Nat.zero_le _)
  rw [hp₁] at hfirst
  have hreached : Duration.ofMilliseconds 200 + leastInterval ≤ .ofMilliseconds 1200 := by decide
  have hdue₂ : second.isDue (.ofMilliseconds 1200) .labelTimer = true := decide_eq_true hreached
  have hwait : Duration.ofMilliseconds 200 ≤ .ofMilliseconds 1200 := by decide
  have htook : Duration.ofMilliseconds 1200 ≤ .ofMilliseconds 1300 := by decide
  have hsecond := hfirst.serve .labelTimer r₂.surroundings hdue₂ hwait htook
  rw [hp₂] at hsecond
  obtain ⟨-, -, -, htimer, hapart, -⟩ := course_interval ha (c := a.connection) hsecond
  refine ⟨a, first, second, third, ha, hsecond, ?_, ?_⟩
  · exact hapart [] r₂ [] r₁ [] rfl rfl rfl (by simp)
  · have hlast : cycled? [r₂, r₁] = some r₂ := rfl
    have hend : Duration.ofMilliseconds 1300 + leastInterval = .ofMilliseconds 2300 := by decide
    rw [htimer third rfl, hlast]
    exact (if_pos hpos).trans (congrArg some hend)

end NodeSurvey.Agent
