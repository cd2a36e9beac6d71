import NodeSurvey.Agent.Run
import NodeSurvey.Labeler.Offline
import NodeSurvey.Proofs.Agent.Serve
import NodeSurvey.Proofs.Watch.Relevance

/-! The courses that an agent can take. Whatever is due may be served next, in any surroundings, as
long as time does not go back; so a course is a list of rounds. What an agent is set up with stays
the same along each of them. -/

namespace NodeSurvey.Agent

def Progress.agent : Progress → Agent
  | .serving s => s.agent
  | .ended a _ => a

/-- One passage through the loop: what waited there, what was served, and in which surroundings. -/
structure Round where
  before : Serving
  occasion : Occasion
  surroundings : Surroundings

def Round.turn (r : Round) : Turn := (r.before.serve r.surroundings r.occasion).value

theorem Round.serves (r : Round) : r.before.Serves r.surroundings r.occasion r.turn :=
  r.before.serves r.surroundings r.occasion

namespace Round

def isReload (r : Round) : Bool :=
  match r.occasion with
  | .configTimer => true
  | _ => false

def isCycle (r : Round) : Bool :=
  match r.occasion with
  | .labelTimer => true
  | _ => false

end Round

/-- The courses of an agent that starts in some surroundings, the last round first, with the time
at which each has come so far. -/
inductive Course (a : Agent) (w : Surroundings) : List Round → Duration → Progress → Prop
  | begin : w.now ≤ w.done → Course a w [] w.done (a.begin w).value.progress
  | serve {rounds : List Round} {t : Duration} {s : Serving} (o : Occasion) (v : Surroundings) :
      Course a w rounds t (.serving s) → s.isDue v.now o = true → t ≤ v.now → v.now ≤ v.done →
      Course a w (⟨s, o, v⟩ :: rounds) v.done (Round.turn ⟨s, o, v⟩).progress

/-- An agent on a file in a directory of its own that has not started yet. -/
def sample (o : AgentOptions) (sources : List Source) : Agent where
  options := o
  configPath := ⟨true, [.down "nfd", .down "worker.conf"]⟩
  node := "node"
  whitelist := ⟨"", fun _ => true⟩
  sources := sources.map .start
  config := .ofDefaults []
  connection := .create o.labeler

/-- Surroundings in which there is nothing to discover and nothing fails. -/
def Surroundings.calm (now done : Duration) (file : FileState) : Surroundings where
  now := now
  done := done
  host := .empty "/"
  file := file
  watching := .ok fun _ => true
  read _ := .error .notFound
  transport := { Labeler.Transport.offline .zero with dial := fun _ => .connected }
  answer _ := .accepted

variable {a : Agent} {w : Surroundings} {rounds : List Round} {t : Duration} {p : Progress}

theorem course_nil (h : Course a w [] t p) :
    w.now ≤ w.done ∧ t = w.done ∧ p = (a.begin w).value.progress := by
  cases h with
  | begin hw => exact ⟨hw, rfl, rfl⟩

theorem course_cons {r : Round} (h : Course a w (r :: rounds) t p) :
    ∃ t', Course a w rounds t' (.serving r.before) ∧
      r.before.isDue r.surroundings.now r.occasion = true ∧ t' ≤ r.surroundings.now ∧
      r.surroundings.now ≤ r.surroundings.done ∧ t = r.surroundings.done ∧
      p = r.turn.progress := by
  cases h with
  | serve o v hc hd ht hv => exact ⟨_, hc, hd, ht, hv, rfl, rfl⟩

theorem exists_start (ht : w.now ≤ w.done)
    (hw : (Watch.Watcher.create w.watching a.configPath).isOk = true)
    (hr : ((a.configure w).value.connect w).result.isOk = true) :
    ∃ s, Course a w [] w.done (.serving s) ∧
      Watch.Watcher.create w.watching a.configPath = .ok s.watcher ∧
      s.agent = ((a.configure w).value.connect w).agent ∧ s.labelTimer = some w.done := by
  obtain ⟨s, hp, hs⟩ := exists_serving hw hr
  exact ⟨s, hp ▸ .begin ht, hs⟩

theorem Course.unique {t' : Duration} {p' : Progress} (h : Course a w rounds t p)
    (h' : Course a w rounds t' p') : t = t' ∧ p = p' := by
  cases rounds with
  | nil =>
    cases h
    cases h'
    exact ⟨rfl, rfl⟩
  | cons r rounds =>
    obtain ⟨_, _, _, _, _, rfl, rfl⟩ := course_cons h
    obtain ⟨_, _, _, _, _, rfl, rfl⟩ := course_cons h'
    exact ⟨rfl, rfl⟩

theorem Course.suffix {later : List Round} (h : Course a w (later ++ rounds) t p) :
    ∃ t' p', Course a w rounds t' p' ∧ t' ≤ t ∧ ∀ x ∈ later, t' ≤ x.surroundings.now := by
  induction later generalizing t p with
  | nil => exact ⟨t, p, h, Nat.le_refl _, by simp⟩
  | cons x later ih =>
    obtain ⟨t₁, hc, _, ht, hv, rfl, _⟩ := course_cons h
    obtain ⟨t', p', hr, ht', hl⟩ := ih hc
    have hx : t' ≤ x.surroundings.now := Nat.le_trans ht' ht
    refine ⟨t', p', hr, Nat.le_trans hx hv, fun y hy => ?_⟩
    rcases List.mem_cons.mp hy with rfl | hy
    · exact hx
    · exact hl y hy

theorem Course.before (h : Course a w rounds t p) {r : Round} (hr : r ∈ rounds) :
    ∃ earlier t', Course a w earlier t' (.serving r.before) := by
  induction h with
  | begin => simp at hr
  | @serve rounds t s o v hc hd ht hv ih =>
    rcases List.mem_cons.mp hr with rfl | hr
    · exact ⟨rounds, t, hc⟩
    · exact ih hr

theorem find?_sinceReload_cons (f : Round → Bool) (r : Round) (rounds : List Round) :
    ((r :: rounds).takeWhile fun r => !r.isReload).find? f =
      if r.isReload then none
      else if f r then some r else (rounds.takeWhile fun r => !r.isReload).find? f := by
  cases hr : r.isReload <;> cases hf : f r <;> simp [hr, hf]

/-- Two states of one agent: what it was set up with is the same. -/
structure SameSetup (a b : Agent) : Prop where
  options : b.options = a.options
  configPath : b.configPath = a.configPath
  node : b.node = a.node
  whitelist : b.whitelist = a.whitelist
  sources : b.sources.map (·.source) = a.sources.map (·.source)

theorem SameSetup.refl (a : Agent) : SameSetup a a := ⟨rfl, rfl, rfl, rfl, rfl⟩

theorem SameSetup.trans {a b c : Agent} (h : SameSetup a b) (h' : SameSetup b c) :
    SameSetup a c :=
  ⟨h'.options.trans h.options, h'.configPath.trans h.configPath, h'.node.trans h.node,
    h'.whitelist.trans h.whitelist, h'.sources.trans h.sources⟩

theorem sources_installSettings (c : Config) (sources : List ActiveSource) :
    (c.installSettings sources).value.map (·.source) = sources.map (·.source) := by
  rw [Config.installSettings, Logged.value_mapM, List.map_map]
  refine List.map_congr_left fun a _ => ?_
  simp only [Function.comp_apply]
  split <;> rfl

theorem sameSetup_configure (a : Agent) (w : Surroundings) :
    SameSetup a (a.configure w).value :=
  ⟨rfl, rfl, rfl, rfl, sources_installSettings _ a.sources⟩

theorem sameSetup_connect (a : Agent) (w : Surroundings) : SameSetup a (a.connect w).agent :=
  ⟨rfl, rfl, rfl, rfl, rfl⟩

theorem sameSetup_reconfigure (a : Agent) (w : Surroundings) :
    SameSetup a (a.reconfigure w).agent := by
  refine (sameSetup_configure a w).trans ?_
  rw [reconfigure, ensureConnected]
  split
  · exact .refl _
  · exact sameSetup_connect _ w

theorem Serving.Serves.sameSetup {s : Serving} {w : Surroundings} {o : Occasion} {turn : Turn}
    (h : s.Serves w o turn) : SameSetup s.agent turn.progress.agent := by
  cases h with
  | unconnected e | reloaded =>
    obtain ⟨h₁, h₂, h₃, h₄, h₅⟩ := sameSetup_reconfigure s.agent w
    exact ⟨h₁, h₂, h₃, h₄, h₅⟩
  | _ => exact ⟨rfl, rfl, rfl, rfl, rfl⟩

theorem Begins.sameSetup {a : Agent} {w : Surroundings} {turn : Turn} (h : Begins a w turn) :
    SameSetup a turn.progress.agent := by
  cases h with
  | blind x => exact .refl a
  | unconnected watcher e | begun watcher =>
    exact (sameSetup_configure a w).trans (sameSetup_connect _ w)

theorem Course.sameSetup (h : Course a w rounds t p) : SameSetup a p.agent := by
  induction h with
  | begin => exact (begins a w).sameSetup
  | @serve rounds t s o v hc hd ht hv ih => exact ih.trans (s.serves v o).sameSetup

theorem Course.options_eq {s : Serving} (h : Course a w rounds t (.serving s)) :
    s.agent.options = a.options :=
  h.sameSetup.options

theorem Serving.Serves.heeds {s s' : Serving} {o : Occasion} {turn : Turn} {path : Path}
    (h : s.Serves w o turn) (hs : s.watcher.Heeds path) (hp : turn.progress = .serving s') :
    s'.watcher.Heeds path := by
  cases h with
  | stopped | unsent e | only | unconnected e | blind e x => cases hp
  | rebuilt e watcher _ hc =>
    cases hp
    exact hs.rebuilt hc
  | cycled | reloaded | ignored e | troubled text =>
    cases hp
    exact hs

/-- However often its watches are placed anew, an agent watches the file that it began with. -/
theorem Course.heeds (h : Course a w rounds t p) {s : Serving} (hp : p = .serving s) :
    s.watcher.Heeds a.configPath := by
  induction h generalizing s with
  | begin => exact Watch.Watcher.heeds_create (eq_of_begin hp).1
  | @serve _ _ s₀ o v _ _ _ _ ih => exact (s₀.serves v o).heeds (ih rfl) hp

def configFrom (a : Agent) (file : FileState) : Config :=
  (Config.load (a.sources.map (·.source)) a.configPath.toString file a.options.overrides
    a.options.forced).value

theorem SameSetup.configFrom {b : Agent} (h : SameSetup a b) (file : FileState) :
    b.configFrom file = a.configFrom file := by
  rw [Agent.configFrom, Agent.configFrom, h.sources, h.configPath, h.options]

theorem config_configure (a : Agent) (w : Surroundings) :
    (a.configure w).value.config = a.configFrom w.file := by
  simp [configure, Config.reload, configFrom]

theorem config_reconfigure (a : Agent) (w : Surroundings) :
    (a.reconfigure w).agent.config = a.configFrom w.file := by
  rw [reconfigure, ensureConnected]
  split
  · exact config_configure a w
  · exact (config_connect _ w).trans (config_configure a w)

/-! What comes of a round in which nothing fails. -/

namespace Round

theorem progress_of_cycle {r : Round} (ho : r.occasion = .labelTimer)
    (hr : (r.before.agent.labelCycle r.surroundings).value.result = .ok ())
    (hone : r.before.agent.options.oneshot = false) :
    r.turn.progress =
      .serving { r.before with labelTimer := r.before.nextCycle r.surroundings.done } := by
  obtain ⟨s, o, v⟩ := r
  obtain rfl : o = .labelTimer := ho
  have hs := s.serves v .labelTimer
  simp only [turn]
  generalize (s.serve v .labelTimer).value = turn at hs
  cases hs with
  | unsent e he => cases hr.symm.trans he
  | only _ h => cases hone.symm.trans h
  | cycled => rfl

theorem progress_of_only {r : Round} (ho : r.occasion = .labelTimer)
    (hr : (r.before.agent.labelCycle r.surroundings).value.result = .ok ())
    (hone : r.before.agent.options.oneshot = true) :
    r.turn.progress = conclude r.before.agent (.ok ()) := by
  obtain ⟨s, o, v⟩ := r
  obtain rfl : o = .labelTimer := ho
  have hs := s.serves v .labelTimer
  simp only [turn]
  generalize (s.serve v .labelTimer).value = turn at hs
  cases hs with
  | unsent e he => cases hr.symm.trans he
  | only => rfl
  | cycled _ h => cases hone.symm.trans h

theorem progress_of_reload {r : Round} (ho : r.occasion = .configTimer)
    (hr : (r.before.agent.reconfigure r.surroundings).result = .ok ()) :
    r.turn.progress =
      .serving
        { r.before with
          agent := (r.before.agent.reconfigure r.surroundings).agent
          labelTimer := some r.surroundings.done
          configTimer := none } := by
  obtain ⟨s, o, v⟩ := r
  obtain rfl : o = .configTimer := ho
  have hs := s.serves v .configTimer
  simp only [turn]
  generalize (s.serve v .configTimer).value = turn at hs
  cases hs with
  | unconnected e he => cases hr.symm.trans he
  | reloaded => rfl

end Round

/-! The executable runs are courses: a site serves its agent only what is due there, at the time of
its clock. -/

theorem Site.next_isDue {site site' : Site} {s : Serving} {o : Occasion}
    (h : site.next s = some (o, site')) :
    s.isDue site'.clock o = true ∧ site'.clock = site.clock := by
  rw [Site.next] at h
  split at h
  · cases h
    exact ⟨rfl, rfl⟩
  · split at h
    · rename_i hd
      cases h
      exact ⟨hd, rfl⟩
    · split at h
      · rename_i hd
        cases h
        exact ⟨hd, rfl⟩
      · cases h

theorem Course.serveTimes (n : Nat) {r : Run} (h : Course a w rounds t r.progress)
    (ht : t ≤ r.site.clock) :
    ∃ rounds' t', Course a w rounds' t' (r.serveTimes n).value.1.progress ∧
      t' ≤ (r.serveTimes n).value.1.site.clock := by
  induction n generalizing r rounds t with
  | zero => exact ⟨rounds, t, h, ht⟩
  | succ n ih =>
    rw [Run.serveTimes]
    split
    · exact ⟨rounds, t, h, ht⟩
    · rename_i s hs
      split
      · exact ⟨rounds, t, h, ht⟩
      · rename_i o site hn
        obtain ⟨hd, hclock⟩ := Site.next_isDue hn
        rw [hs] at h
        have hstep := Course.serve o (site.surroundings s.agent) h hd
          (show t ≤ site.clock from hclock ▸ ht) (Nat.le_refl _)
        exact ih hstep (Nat.le_refl _)

theorem Course.happen {r : Run} (h : Course a w rounds t r.progress) (ht : t ≤ r.site.clock)
    (x : Happening) :
    ∃ rounds' t', Course a w rounds' t' (r.happen x).value.1.progress ∧
      t' ≤ (r.happen x).value.1.site.clock := by
  cases x with
  | changed changes events => exact Course.serveTimes _ (r := ⟨r.site.after _, r.progress⟩) h ht
  | passed time =>
    exact Course.serveTimes _ (r := ⟨r.site.after _, r.progress⟩) h
      (Nat.le_trans ht (Nat.le_add_right _ _))
  | cancelled =>
    simp only [Run.happen, Run.stop]
    split
    · exact ⟨rounds, t, h, ht⟩
    · rename_i s hs
      rw [hs] at h
      exact ⟨_, _, Course.serve .shutdown (r.site.surroundings s.agent) h rfl ht (Nat.le_refl _),
        Nat.le_refl _⟩

/-- Whatever happens at a site, the agent there is on one of its courses. -/
theorem exists_course (site : Site) (a : Agent) (l : List Happening) :
    ∃ rounds t, Course a (site.surroundings a) rounds t
      (l.foldl (fun r x => (r.happen x).value.1) (Run.start site a).value.1).progress := by
  have hstart : ∃ rounds t, Course a (site.surroundings a) rounds t
      (Run.start site a).value.1.progress ∧ t ≤ (Run.start site a).value.1.site.clock :=
    Course.serveTimes _ (r := ⟨site, (a.begin (site.surroundings a)).value.progress⟩)
      (.begin (Nat.le_refl _)) (Nat.le_refl _)
  generalize (Run.start site a).value.1 = r at hstart
  induction l generalizing r with
  | nil =>
    obtain ⟨rounds, t, h, _⟩ := hstart
    exact ⟨rounds, t, h⟩
  | cons x l ih =>
    obtain ⟨rounds, t, h, ht⟩ := hstart
    exact ih _ (h.happen ht x)

end NodeSurvey.Agent
