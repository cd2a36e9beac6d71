import Mathlib.Data.List.Chain
import NodeSurvey.Proofs.Agent.Course

/-! The pause after changes. Whenever an agent waits in its loop, the timer of the next load is set
if and only if a change was noticed since the last one, and it runs out one pause after the latest.
So a burst of changes is over before the load that it leads to, and what does not concern the
configuration file makes no difference. -/

namespace NodeSurvey.Agent

variable {a : Agent} {w : Surroundings} {rounds : List Round} {t : Duration} {p : Progress}

theorem loaded_not_mem_labelCycle (a : Agent) (w : Surroundings) :
    Act.loaded ∉ (a.labelCycle w).value.acts := by
  cases hc : a.connection.client with
  | false => simp [labelCycle_of_no_client hc]
  | true => simp [labelCycle_of_client hc]

namespace Round

/-- A change that concerns the configuration file. -/
def isRelevant (r : Round) : Bool :=
  match r.occasion with
  | .event e => r.before.watcher.isRelevant e
  | _ => false

/-- An event that does not concern the configuration file, or an error of the watcher. -/
def isIdle (r : Round) : Bool :=
  match r.occasion with
  | .event e => !r.before.watcher.isRelevant e
  | .watchError _ => true
  | _ => false

/-- When the load is due that a change asks for. -/
def deadline (r : Round) : Duration := r.surroundings.done + pause

theorem not_isReload_of_isRelevant {r : Round} (h : r.isRelevant = true) : r.isReload = false := by
  obtain ⟨s, o, v⟩ := r
  cases o <;> simp_all [isRelevant, isReload]

theorem not_isReload_of_isIdle {r : Round} (h : r.isIdle = true) : r.isReload = false := by
  obtain ⟨s, o, v⟩ := r
  cases o <;> simp_all [isIdle, isReload]

theorem isDue_of_isIdle {r : Round} (h : r.isIdle = true) :
    r.before.isDue r.surroundings.now r.occasion = true := by
  obtain ⟨s, o, v⟩ := r
  cases o <;> simp_all [isIdle, Serving.isDue]

theorem progress_of_isIdle {r : Round} (h : r.isIdle = true) :
    r.turn.progress = .serving r.before := by
  obtain ⟨s, o, v⟩ := r
  have hs := s.serves v o
  simp only [turn]
  generalize (s.serve v o).value = turn at hs
  cases hs with
  | ignored e | troubled text => rfl
  | _ => simp_all [isIdle]

theorem progress_of_isRelevant {r : Round} {e : Watch.Event} {watcher : Watch.Watcher}
    (ho : r.occasion = .event e) (he : r.before.watcher.isRelevant e = true)
    (hc : Watch.Watcher.create r.surroundings.watching r.before.watcher.path = .ok watcher) :
    r.turn.progress =
      .serving { r.before with watcher := watcher, configTimer := some r.deadline } := by
  have hs : r.turn = r.before.serveEvent r.surroundings e := by
    rw [turn, ho]
    rfl
  simp only [hs, Serving.serveEvent, Watch.Watcher.handle, he, hc, if_true, Except.map, deadline]

theorem loaded_mem_acts_iff (r : Round) : Act.loaded ∈ r.turn.acts ↔ r.isReload = true := by
  obtain ⟨s, o, v⟩ := r
  have hs := s.serves v o
  simp only [turn]
  generalize (s.serve v o).value = turn at hs
  cases hs <;> simp [isReload, loaded_not_mem_labelCycle]

theorem configTimer_of_progress {r : Round} {s : Serving} (h : r.turn.progress = .serving s) :
    s.configTimer =
      if r.isReload then none
      else if r.isRelevant then some r.deadline else r.before.configTimer := by
  obtain ⟨s₀, o, v⟩ := r
  have hs := s₀.serves v o
  simp only [turn] at h
  generalize (s₀.serve v o).value = turn at hs h
  cases hs with
  | stopped | unsent e | only | unconnected e | blind e x => cases h
  | cycled | reloaded | troubled text =>
    cases h
    rfl
  | ignored e hrel | rebuilt e watcher hrel =>
    cases h
    simp [isReload, isRelevant, hrel, deadline]

end Round

theorem Course.told {s : Serving} (h : Course a w rounds t (.serving s)) {e : Watch.Event}
    (he : e.kind.mayChange = true) (hm : a.configPath ∈ e.paths) {v : Surroundings}
    (hw : Watch.Watcher.create v.watching a.configPath = .ok s.watcher) (ht : t ≤ v.now)
    (hv : v.now ≤ v.done) :
    Round.isRelevant ⟨s, .event e, v⟩ = true ∧
      Course a w (⟨s, .event e, v⟩ :: rounds) v.done
        (.serving { s with configTimer := some (v.done + pause) }) := by
  have hs := Watch.Watcher.heeds_create hw
  have hrel : s.watcher.isRelevant e = true :=
    hs.isRelevant_iff.mpr ⟨he, a.configPath, hm, rfl, List.prefix_refl _⟩
  have hagain : Watch.Watcher.create v.watching s.watcher.path = .ok s.watcher :=
    (hs.create_eq v.watching).trans hw
  have hround := h.serve (.event e) v rfl ht hv
  rw [Round.progress_of_isRelevant rfl hrel hagain] at hround
  exact ⟨hrel, hround⟩

/-- The latest change since the last load, if there was one. -/
def pending? (rounds : List Round) : Option Round :=
  (rounds.takeWhile fun r => !r.isReload).find? (·.isRelevant)

theorem pending?_cons (r : Round) (rounds : List Round) :
    pending? (r :: rounds) =
      if r.isReload then none else if r.isRelevant then some r else pending? rounds :=
  find?_sinceReload_cons (·.isRelevant) r rounds

theorem find?_of_pending? {r : Round} (h : pending? rounds = some r) :
    rounds.find? (·.isRelevant) = some r :=
  (List.takeWhile_prefix _).find?_eq_some h

/-- The invariant of the timer, carried from round to round. -/
theorem Course.configTimer_eq {s : Serving} (h : Course a w rounds t (.serving s)) :
    s.configTimer = (pending? rounds).map Round.deadline := by
  induction rounds generalizing t s with
  | nil =>
    obtain ⟨-, -, hp⟩ := course_nil h
    obtain ⟨-, -, hs⟩ := eq_of_begin hp.symm
    rw [hs]
    rfl
  | cons r rounds ih =>
    obtain ⟨t', hc, _, _, _, _, hp⟩ := course_cons h
    rw [Round.configTimer_of_progress hp.symm, pending?_cons, ih hc]
    split
    · rfl
    · split <;> rfl

theorem Course.exists_pending {r : Round} (h : Course a w (r :: rounds) t p)
    (hr : r.isReload = true) :
    ∃ e, pending? rounds = some e ∧ e.deadline ≤ r.surroundings.now := by
  obtain ⟨t', hc, hd, -⟩ := course_cons h
  have htimer := hc.configTimer_eq
  obtain ⟨s, o, v⟩ := r
  cases o with
  | configTimer =>
    simp only [Serving.isDue] at hd htimer
    rw [htimer] at hd
    cases hp : pending? rounds with
    | none =>
      rw [hp] at hd
      cases hd
    | some e =>
      rw [hp, Option.map_some, Option.any_some, decide_eq_true_eq] at hd
      exact ⟨e, rfl, hd⟩
  | _ => cases hr

/-! A burst begins and ends with a change, and each change in it follows the one before within the
pause. What else is served in between is left open. -/

structure IsBurst (burst : List Round) : Prop where
  first : ∃ r ∈ burst.getLast?, r.isRelevant = true
  latest : ∃ r ∈ burst.head?, r.isRelevant = true
  close : (burst.filter (·.isRelevant)).IsChain fun later earlier =>
    later.surroundings.now < earlier.deadline

namespace IsBurst

theorem exists_close {newer older : List Round} {r : Round} (hb : IsBurst (newer ++ r :: older))
    (hr : r.isRelevant = false) :
    ∃ next ∈ newer, ∃ e, older.find? (·.isRelevant) = some e ∧
      next.surroundings.now < e.deadline := by
  obtain ⟨first, hfirst, hfirst'⟩ := hb.first
  obtain ⟨latest, hlatest, hlatest'⟩ := hb.latest
  have holder : ∃ e, older.find? (·.isRelevant) = some e := by
    cases older with
    | nil => simp_all
    | cons y older =>
      rw [List.getLast?_append_of_ne_nil _ (List.cons_ne_nil _ _), List.getLast?_cons_cons]
        at hfirst
      exact Option.isSome_iff_exists.mp
        (List.find?_isSome.mpr ⟨first, List.mem_of_getLast? hfirst, hfirst'⟩)
  have hnewer : newer.filter (·.isRelevant) ≠ [] := by
    cases newer with
    | nil => simp_all
    | cons y newer =>
      obtain rfl : y = latest := by simpa using hlatest
      simp [hlatest']
  obtain ⟨e, he⟩ := holder
  have hnext := List.getLast?_eq_some_getLast hnewer
  have hclose := hb.close
  rw [List.filter_append, List.filter_cons_of_neg (by simp [hr]), List.isChain_append] at hclose
  refine ⟨_, List.mem_of_mem_filter (List.getLast_mem hnewer), e, he, ?_⟩
  exact hclose.2.2 _ hnext e (List.head?_filter.trans he)

theorem pending?_append {burst : List Round} (hb : IsBurst burst) (rounds : List Round) :
    ∃ e, burst.head? = some e ∧ pending? (burst ++ rounds) = some e := by
  obtain ⟨e, he, hrel⟩ := hb.latest
  obtain ⟨others, rfl⟩ := List.head?_eq_some_iff.mp he
  refine ⟨e, rfl, ?_⟩
  simp [pending?_cons, hrel, Round.not_isReload_of_isRelevant hrel]

/-- A load in a burst would answer the change before it, and so come after the next one. -/
theorem not_isReload {burst : List Round} (hb : IsBurst burst)
    (h : Course a w (burst ++ rounds) t p) : ∀ r ∈ burst, r.isReload = false := by
  intro r hr
  by_contra hreload
  rw [Bool.not_eq_false] at hreload
  have hrel : r.isRelevant = false := by
    by_contra hrel
    simp [Round.not_isReload_of_isRelevant (Bool.of_not_eq_false hrel)] at hreload
  obtain ⟨newer, older, rfl⟩ := List.append_of_mem hr
  obtain ⟨next, hmem, e, he, hclose⟩ := hb.exists_close hrel
  rw [List.append_assoc, List.cons_append] at h
  obtain ⟨t', p', hc, -, hnewer⟩ := h.suffix
  obtain ⟨e', he', hdue⟩ := hc.exists_pending hreload
  obtain ⟨-, -, -, -, hdone, rfl, -⟩ := course_cons hc
  obtain rfl : e = e' := by
    have hfind := find?_of_pending? he'
    rw [List.find?_append, he, Option.some_or] at hfind
    exact Option.some.inj hfind
  have hnext : e.deadline ≤ next.surroundings.now :=
    Nat.le_trans hdue (Nat.le_trans hdone (hnewer next hmem))
  exact Nat.not_le_of_lt hclose hnext

end IsBurst

/-- As long as no other change is noticed, a change that waits for its load either still does, or
has had the one load that it leads to. -/
theorem Course.countP_isReload {later : List Round} {e : Round} (he : pending? rounds = some e)
    (hl : ∀ r ∈ later, r.isRelevant = false) (h : Course a w (later ++ rounds) t p) :
    pending? (later ++ rounds) = some e ∧ later.countP (·.isReload) = 0 ∨
      pending? (later ++ rounds) = none ∧ later.countP (·.isReload) = 1 := by
  induction later generalizing t p with
  | nil => exact .inl ⟨he, rfl⟩
  | cons r later ih =>
    obtain ⟨hr, hl⟩ := List.forall_mem_cons.mp hl
    obtain ⟨t', hc, -⟩ := course_cons h
    rw [List.cons_append, pending?_cons, hr, List.countP_cons]
    cases hreload : r.isReload with
    | false => simpa using ih hl hc
    | true =>
      obtain ⟨e', he', -⟩ := Course.exists_pending h hreload
      rcases ih hl hc with ⟨-, hn⟩ | ⟨hn, -⟩
      · exact .inr ⟨rfl, by rw [hn]; rfl⟩
      · cases hn.symm.trans he'

/-! Idle rounds can be left out and put in. -/

theorem filter_isReload_busy (rounds : List Round) :
    (rounds.filter fun r => !r.isIdle).filter (·.isReload) = rounds.filter (·.isReload) := by
  rw [List.filter_filter]
  refine List.filter_congr fun r _ => ?_
  cases hr : r.isIdle with
  | false => simp
  | true => simp [Round.not_isReload_of_isIdle hr]

theorem Course.erase_idle {rounds' : List Round} (hs : rounds'.Sublist rounds)
    (hf : (rounds'.filter fun r => !r.isIdle) = rounds.filter fun r => !r.isIdle)
    (h : Course a w rounds t p) : ∃ t', t' ≤ t ∧ Course a w rounds' t' p := by
  induction hs generalizing t p with
  | slnil => exact ⟨t, Nat.le_refl _, h⟩
  | @cons rounds' rounds r hs ih =>
    obtain ⟨t₁, hc, -, ht, hv, rfl, rfl⟩ := course_cons h
    have hidle : r.isIdle = true := by
      by_contra hbusy
      have hlen := (hs.filter fun r => !r.isIdle).length_le
      rw [hf, List.filter_cons_of_pos (by simpa using hbusy), List.length_cons] at hlen
      omega
    rw [List.filter_cons_of_neg (by simpa using hidle)] at hf
    obtain ⟨t', ht', hc'⟩ := ih hf hc
    rw [Round.progress_of_isIdle hidle]
    exact ⟨t', Nat.le_trans ht' (Nat.le_trans ht hv), hc'⟩
  | @cons_cons rounds' rounds r hs ih =>
    obtain ⟨t₁, hc, hd, ht, hv, rfl, rfl⟩ := course_cons h
    have hf' : (rounds'.filter fun r => !r.isIdle) = rounds.filter fun r => !r.isIdle := by
      cases hr : r.isIdle <;> simpa [hr] using hf
    obtain ⟨t', ht', hc'⟩ := ih hf' hc
    exact ⟨_, Nat.le_refl _, .serve r.occasion r.surroundings hc' hd (Nat.le_trans ht' ht) hv⟩

theorem Course.insert_idle {later : List Round} {r : Round} {t₁ : Duration}
    (hr : r.isIdle = true) (he : Course a w rounds t₁ (.serving r.before))
    (ht₁ : t₁ ≤ r.surroundings.now) (hv : r.surroundings.now ≤ r.surroundings.done)
    (hl : ∀ x ∈ later, r.surroundings.done ≤ x.surroundings.now)
    (h : Course a w (later ++ rounds) t p) :
    ∃ t', (t' ≤ t ∨ t' = r.surroundings.done) ∧ Course a w (later ++ r :: rounds) t' p := by
  induction later generalizing t p with
  | nil =>
    obtain ⟨rfl, rfl⟩ := he.unique h
    have hs := Course.serve r.occasion r.surroundings he (Round.isDue_of_isIdle hr) ht₁ hv
    refine ⟨_, .inr rfl, ?_⟩
    rw [← Round.progress_of_isIdle hr]
    exact hs
  | cons x later ih =>
    obtain ⟨hx, hl⟩ := List.forall_mem_cons.mp hl
    obtain ⟨t₂, hc, hd, ht, hv', rfl, rfl⟩ := course_cons h
    obtain ⟨t', ht', hc'⟩ := ih hl hc
    have hnow : t' ≤ x.surroundings.now := by
      rcases ht' with ht' | rfl
      · exact Nat.le_trans ht' ht
      · exact hx
    exact ⟨_, .inl (Nat.le_refl _), .serve x.occasion x.surroundings hc' hd hnow hv'⟩

/-- The timer of the next load along a course. It is set if and only if a change was noticed since
the last load, and runs out one pause after the latest; so no load comes before that, no burst is
interrupted by one, and each burst leads to one. Idle rounds can be left out, or put in where there
is time for them, and the loads stay the same. -/
theorem course_debounce (h : Course a w rounds t p) :
    (∀ r ∈ rounds, Act.loaded ∈ r.turn.acts ↔ r.isReload = true) ∧
    (∀ s, p = .serving s → s.configTimer = (pending? rounds).map Round.deadline) ∧
    (∀ later r earlier, rounds = later ++ r :: earlier → r.isReload = true →
      ∃ e, pending? earlier = some e ∧ e.deadline ≤ r.surroundings.now) ∧
    (∀ later burst earlier, rounds = later ++ (burst ++ earlier) → IsBurst burst →
      (∀ r ∈ burst, r.isReload = false) ∧
      ((∀ r ∈ later, r.isRelevant = false) →
        pending? rounds = burst.head? ∧ later.countP (·.isReload) = 0 ∨
          pending? rounds = none ∧ later.countP (·.isReload) = 1)) ∧
    (∀ rounds' : List Round, rounds'.Sublist rounds →
      (rounds'.filter fun r => !r.isIdle) = (rounds.filter fun r => !r.isIdle) →
      (∃ t', Course a w rounds' t' p) ∧
        rounds'.filter (·.isReload) = rounds.filter (·.isReload)) ∧
    ∀ later earlier r t₁, rounds = later ++ earlier → r.isIdle = true →
      Course a w earlier t₁ (.serving r.before) → t₁ ≤ r.surroundings.now →
      r.surroundings.now ≤ r.surroundings.done →
      (∀ x ∈ later, r.surroundings.done ≤ x.surroundings.now) →
      (∃ t', Course a w (later ++ r :: earlier) t' p) ∧
        (later ++ r :: earlier).filter (·.isReload) = rounds.filter (·.isReload) := by
  refine ⟨fun r _ => r.loaded_mem_acts_iff, ?_, ?_, ?_, ?_, ?_⟩
  · rintro s rfl
    exact h.configTimer_eq
  · rintro later r earlier rfl hr
    obtain ⟨t', p', hc, -⟩ := h.suffix
    exact hc.exists_pending hr
  · rintro later burst earlier rfl hb
    obtain ⟨e, hhead, hpending⟩ := hb.pending?_append earlier
    obtain ⟨t', p', hc, -⟩ := h.suffix
    exact ⟨hb.not_isReload hc, fun hl => hhead ▸ h.countP_isReload hpending hl⟩
  · intro rounds' hs hf
    obtain ⟨t', -, hc⟩ := h.erase_idle hs hf
    exact ⟨⟨t', hc⟩, by rw [← filter_isReload_busy, hf, filter_isReload_busy]⟩
  · rintro later earlier r t₁ rfl hr he ht hv hl
    obtain ⟨t', -, hc⟩ := Course.insert_idle hr he ht hv hl h
    refine ⟨⟨t', hc⟩, ?_⟩
    simp [Round.not_isReload_of_isIdle hr]

/-- Two changes half a second apart: the load is due a second after the latter. -/
theorem course_debounce_twice :
    let a := sample .default []
    let around (time : Duration) := Surroundings.calm time time (.error .notFound)
    let change : Watch.Event := ⟨.modified .data, [a.configPath]⟩
    ∃ first second s : Serving,
      let burst : List Round := [⟨second, .event change, around (.ofMilliseconds 500)⟩,
        ⟨first, .event change, around .zero⟩]
      Course a (around .zero) burst (.ofMilliseconds 500) (.serving s) ∧ IsBurst burst ∧
        s.configTimer = some (.ofMilliseconds 1500) := by
  intro a around change
  have hw : (Watch.Watcher.create (around .zero).watching a.configPath).isOk = true :=
    Watch.Watcher.isOk_create rfl
  have hr : ((a.configure (around .zero)).value.connect (around .zero)).result.isOk = true := by
    decide +kernel
  obtain ⟨s, hstart, hcreate, -⟩ := exists_start (Nat.le_refl _) hw hr
  have hm : a.configPath ∈ change.paths := List.mem_cons_self
  let first : Round := ⟨s, .event change, around .zero⟩
  let told : Serving := { s with configTimer := some first.deadline }
  obtain ⟨hrel₁, htold⟩ : first.isRelevant = true ∧
      Course a (around .zero) [first] .zero (.serving told) :=
    hstart.told rfl hm hcreate (Nat.le_refl _) (Nat.le_refl _)
  let second : Round := ⟨told, .event change, around (.ofMilliseconds 500)⟩
  let retold : Serving := { told with configTimer := some second.deadline }
  obtain ⟨hrel₂, hretold⟩ : second.isRelevant = true ∧
      Course a (around .zero) [second, first] (.ofMilliseconds 500) (.serving retold) :=
    htold.told rfl hm hcreate (Nat.zero_le _) (Nat.le_refl _)
  have hburst : IsBurst [second, first] := by
    refine ⟨⟨first, rfl, hrel₁⟩, ⟨second, rfl, hrel₂⟩, ?_⟩
    have hclose : Duration.ofMilliseconds 500 < Duration.zero + pause := by decide
    rw [List.filter_cons_of_pos hrel₂, List.filter_cons_of_pos hrel₁, List.filter_nil]
    exact List.isChain_pair.mpr hclose
  have hdue : Duration.ofMilliseconds 500 + pause = .ofMilliseconds 1500 := by decide
  refine ⟨s, told, retold, hretold, hburst, ?_⟩
  obtain ⟨-, htimer, -⟩ := course_debounce hretold
  rw [htimer retold rfl, pending?_cons, if_pos hrel₂]
  exact congrArg some hdue

end NodeSurvey.Agent
