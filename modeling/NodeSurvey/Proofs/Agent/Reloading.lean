import NodeSurvey.Proofs.Agent.Course
import NodeSurvey.Proofs.Watch.Scene

/-! The configuration file along a course. Files change while an agent runs, and watches tell it of
some of that. Whenever it waits in its loop, either the configuration in force comes from what is
found at the path now, or an event waits, or the pause before the next load has begun. That holds
as long as watches can be placed on all that is there above the file. -/

namespace NodeSurvey.Agent

open Watch

def Occasion.item? : Occasion → Option (Except String Event)
  | .event e => some (.ok e)
  | .watchError text => some (.error text)
  | _ => none

namespace Round

def watches (r : Round) (sc : Scene) : List Path :=
  match r.occasion with
  | .event e =>
    match r.before.watcher.handle r.surroundings.watching e with
    | .ok (.rebuilt watcher) => sc.tree.seated watcher.live
    | _ => sc.watches
  | _ => sc.watches

def read (r : Round) (sc : Scene) : FileState :=
  match r.occasion with
  | .configTimer => r.surroundings.file
  | _ => sc.read

def scene (r : Round) (sc : Scene) (rest : List (Except String Event)) : Scene :=
  ⟨sc.tree, r.watches sc, rest, r.read sc⟩

end Round

/-- The courses of an agent in a scene. Anything may happen there between the start of the watcher,
the first load and each round; a round takes its event from the head of the queue, and finds the
files as they are. -/
inductive Unfolds (n : Notifier) (a : Agent) (w : Surroundings) :
    List Round → Duration → Scene → Progress → Prop
  | begin {tree : FileTree} {watcher : Watcher} {sc : Scene} :
      n.Backs tree w.watching → Watcher.create w.watching a.configPath = .ok watcher →
      Relation.ReflTransGen (Scene.Moves n)
        ⟨tree, tree.seated watcher.live, [], tree.found a.configPath.names⟩ sc →
      w.file = sc.tree.found a.configPath.names → w.now ≤ w.done →
      Unfolds n a w [] w.done { sc with read := w.file } (a.begin w).value.progress
  | move {rounds : List Round} {t : Duration} {sc sc' : Scene} {p : Progress} :
      Unfolds n a w rounds t sc p → sc.Moves n sc' → Unfolds n a w rounds t sc' p
  | serve {rounds : List Round} {t : Duration} {sc : Scene} {s : Serving}
      {rest : List (Except String Event)} (o : Occasion) (v : Surroundings) :
      Unfolds n a w rounds t sc (.serving s) → s.isDue v.now o = true → t ≤ v.now →
      v.now ≤ v.done → sc.queue = o.item?.toList ++ rest → n.Backs sc.tree v.watching →
      v.file = sc.tree.found a.configPath.names →
      Unfolds n a w (⟨s, o, v⟩ :: rounds) v.done (Round.scene ⟨s, o, v⟩ sc rest)
        (Round.turn ⟨s, o, v⟩).progress

variable {n : Notifier} {a : Agent} {w : Surroundings} {place : List String}

theorem Unfolds.course {rounds : List Round} {t : Duration} {sc : Scene} {p : Progress}
    (h : Unfolds n a w rounds t sc p) : Course a w rounds t p := by
  induction h with
  | begin _ _ _ _ ht => exact .begin ht
  | move _ _ ih => exact ih
  | serve o v _ hd ht hv _ _ _ ih => exact .serve o v ih hd ht hv

theorem exists_unfolds {tree : FileTree} (ht : w.now ≤ w.done) (hb : n.Backs tree w.watching)
    (hf : w.file = tree.found a.configPath.names)
    (hw : (Watcher.create w.watching a.configPath).isOk = true)
    (hr : ((a.configure w).value.connect w).result.isOk = true) :
    ∃ s, Watcher.create w.watching a.configPath = .ok s.watcher ∧ s.configTimer = none ∧
      Unfolds n a w [] w.done ⟨tree, tree.seated s.watcher.live, [], w.file⟩ (.serving s) := by
  obtain ⟨s, hp, hc, -⟩ := exists_serving hw hr
  have hu := Unfolds.begin hb hc .refl hf ht
  obtain ⟨-, -, hs⟩ := eq_of_begin hp
  rw [hp] at hu
  exact ⟨s, hc, by rw [hs], hu⟩

theorem Course.heeds_ofNames {rounds : List Round} {t : Duration} {s : Serving}
    (h : Course a w rounds t (.serving s)) (hpath : a.configPath = .ofNames place) :
    s.watcher.path = .ofNames place ∧ s.watcher.watched = (Path.ofNames place).lineage := by
  have hs := h.heeds rfl
  have hclean : a.configPath.clean = .ofNames place := by rw [hpath, Path.clean_ofNames]
  exact ⟨hs.own.trans hclean, hs.watched.trans (congrArg Path.lineage hclean)⟩

structure Attentive (a : Agent) (place : List String) (sc : Scene) (s : Serving) : Prop where
  config : s.agent.config = a.configFrom sc.read
  safe : sc.Safe place s.watcher s.configTimer.isSome

theorem attentive_begin (hn : n.Faithful) (hc : n.Climbs place)
    (hpath : a.configPath = .ofNames place) {tree : FileTree} {watcher : Watcher} {sc : Scene}
    (hb : n.Backs tree w.watching) (hw : Watcher.create w.watching a.configPath = .ok watcher)
    (hm : Relation.ReflTransGen (Scene.Moves n)
      ⟨tree, tree.seated watcher.live, [], tree.found place⟩ sc)
    (hf : w.file = sc.tree.found place) {s : Serving}
    (hp : (a.begin w).value.progress = .serving s) :
    Attentive a place { sc with read := w.file } s := by
  obtain ⟨hw', -, hs⟩ := eq_of_begin hp
  obtain rfl : s.watcher = watcher := Except.ok.inj (hw'.symm.trans hw)
  have hwatched : s.watcher.watched = (Path.ofNames place).lineage := by
    rw [(Watcher.heeds_create hw).watched, hpath, Path.clean_ofNames]
  rw [hpath] at hw
  have hstart : Scene.Safe ⟨tree, tree.seated s.watcher.live, [], tree.found place⟩ place s.watcher
      false :=
    Or.inr ⟨Scene.guarded_of_create hc hb hw rfl, Or.inr rfl⟩
  have hsafe := (Scene.safe_of_moves hn hwatched hm hstart).reread
  rw [← hf] at hsafe
  have hconfig : s.agent.config = a.configFrom w.file := by
    rw [hs, config_connect, config_configure]
  have htimer : s.configTimer.isSome = false := by
    rw [hs]
    rfl
  exact ⟨hconfig, htimer ▸ hsafe⟩

theorem Attentive.serves (hc : n.Climbs place) {sc : Scene} {s : Serving}
    (hi : Attentive a place sc s) (hsame : SameSetup a s.agent)
    (hpath : s.watcher.path = .ofNames place) {o : Occasion} {v : Surroundings}
    {rest : List (Except String Event)} (hq : sc.queue = o.item?.toList ++ rest)
    (hb : n.Backs sc.tree v.watching) (hf : v.file = sc.tree.found place) {turn : Turn}
    (h : s.Serves v o turn) {s' : Serving} (hp : turn.progress = .serving s') :
    Attentive a place (Round.scene ⟨s, o, v⟩ sc rest) s' := by
  cases h with
  | stopped | unsent e | only | unconnected e | blind e x => cases hp
  | cycled =>
    cases hp
    obtain rfl : sc.queue = rest := hq
    exact ⟨hi.config, hi.safe⟩
  | reloaded =>
    cases hp
    obtain rfl : sc.queue = rest := hq
    refine ⟨?_, ?_⟩
    · exact (config_reconfigure s.agent v).trans (hsame.configFrom v.file)
    · have hr := hi.safe.reread
      rw [← hf] at hr
      exact hr
  | ignored e hrel =>
    cases hp
    have hwatches : Round.watches ⟨s, .event e, v⟩ sc = sc.watches := by
      simp [Round.watches, Watcher.handle, hrel]
    have hs := hi.safe.taken hq fun e' he => Except.ok.inj he ▸ hrel
    rw [Round.scene, hwatches]
    exact ⟨hi.config, hs⟩
  | rebuilt e watcher hrel hw =>
    cases hp
    have hwatches : Round.watches ⟨s, .event e, v⟩ sc = sc.tree.seated watcher.live := by
      simp [Round.watches, Watcher.handle, hrel, hw, Except.map]
    rw [hpath] at hw
    exact ⟨hi.config, Or.inr ⟨Scene.guarded_of_create hc hb hw hwatches, Or.inl rfl⟩⟩
  | troubled text =>
    cases hp
    exact ⟨hi.config, hi.safe.taken hq fun e he => by cases he⟩

theorem Unfolds.attentive (hn : n.Faithful) (hc : n.Climbs place)
    (hpath : a.configPath = .ofNames place) {rounds : List Round} {t : Duration} {sc : Scene}
    {p : Progress} (h : Unfolds n a w rounds t sc p) {s : Serving} (hp : p = .serving s) :
    Attentive a place sc s := by
  have hnames : a.configPath.names = place := by rw [hpath, Path.names_ofNames]
  induction h generalizing s with
  | begin hb hw hm hf _ =>
    rw [hnames] at hm hf
    exact attentive_begin hn hc hpath hb hw hm hf hp
  | move hb hm ih =>
    subst hp
    have hi := ih rfl
    have hwatched := (hb.course.heeds_ofNames hpath).2
    refine ⟨?_, hm.safe hn hwatched hi.safe⟩
    cases hm <;> exact hi.config
  | @serve _ _ sc s₀ rest o v h _ _ _ hq hb hf ih =>
    rw [hnames] at hf
    have hown := (h.course.heeds_ofNames hpath).1
    exact (ih rfl).serves hc h.course.sameSetup hown hq hb hf (s₀.serves v o) hp

/-- No change of the configuration is lost where all that is there above its file can be watched:
when an agent waits in its loop, its configuration is made of what the last load found, and if
something else is found at the path now, then an event that concerns it waits or the pause before
the next load has begun. -/
theorem unfolds_noLostChange (hn : n.Faithful) (hc : n.Climbs a.configPath.names) {path : Path}
    (habs : path.absolute = true) (hpath : a.configPath = path.clean) {rounds : List Round}
    {t : Duration} {sc : Scene} {s : Serving} (h : Unfolds n a w rounds t sc (.serving s)) :
    s.agent.config = a.configFrom sc.read ∧
    (sc.tree.found a.configPath.names ≠ sc.read →
      (∃ e, .ok e ∈ sc.queue ∧ s.watcher.isRelevant e = true) ∨ s.configTimer.isSome = true) := by
  obtain ⟨place, hplace⟩ := Path.exists_clean_eq_ofNames habs
  rw [hplace] at hpath
  have hnames : a.configPath.names = place := by rw [hpath, Path.names_ofNames]
  rw [hnames] at hc ⊢
  have hi := h.attentive hn hc hpath rfl
  refine ⟨hi.config, fun hne => ?_⟩
  rcases hi.safe with hw | ⟨_, harmed | hread⟩
  · exact Or.inl hw
  · exact Or.inr harmed
  · exact absurd hread hne

/-- The directory of the configuration file is missing at the start, and is moved to its place once
the file was looked for. -/
theorem unfolds_noLostChange_moved :
    let a := sample .default []
    let tree : FileTree := .directory fun m =>
      if m = "staged" then
        some (.directory fun m => if m = "worker.conf" then some (.file (.ok "{}")) else none)
      else none
    let w : Surroundings :=
      { Surroundings.calm .zero .zero (.error .notFound) with
        watching := .ok (Notifier.plain.places tree) }
    Notifier.plain.Faithful ∧ Notifier.plain.Climbs a.configPath.names ∧
    a.configPath.absolute = true ∧ a.configPath = a.configPath.clean ∧
    ∃ sc s, Unfolds Notifier.plain a w [] .zero sc (.serving s) ∧
      sc.tree.found a.configPath.names = .ok "{}" ∧ sc.read = .error .notFound ∧
      ((∃ e, .ok e ∈ sc.queue ∧ s.watcher.isRelevant e = true) ∨
        s.configTimer.isSome = true) := by
  intro a tree w
  have hn := Notifier.dependable_plain
  have hc : Notifier.plain.Climbs a.configPath.names := fun t p _ => hn.places t p
  have hpath : a.configPath = a.configPath.clean := rfl
  have hw : (Watcher.create w.watching a.configPath).isOk = true := by decide +kernel
  have hr : ((a.configure w).value.connect w).result.isOk = true := by decide +kernel
  have hb : Notifier.plain.Backs tree w.watching := fun _ h => (Except.ok.inj h).symm
  obtain ⟨s, -, -, hbegin⟩ := exists_unfolds (Nat.le_refl _) hb rfl hw hr
  have hmoved := hbegin.move (.changed (.rename ["staged"] ["nfd"]) _ _ rfl rfl)
  refine ⟨hn.toFaithful, hc, rfl, hpath, _, s, hmoved, rfl, rfl, ?_⟩
  exact (unfolds_noLostChange hn.toFaithful hc rfl hpath hmoved).2 (by rintro ⟨⟩)

/-- The directory of the file is there but cannot be watched, and a write to the file is not told. -/
theorem unfolds_noLostChange_unwatched :
    ¬ ∀ (n : Notifier) (a : Agent) (w : Surroundings) (path : Path) (rounds : List Round)
      (t : Duration) (sc : Scene) (s : Serving), n.Faithful → path.absolute = true →
      a.configPath = path.clean → Unfolds n a w rounds t sc (.serving s) →
      sc.tree.found a.configPath.names ≠ sc.read →
      (∃ e, .ok e ∈ sc.queue ∧ s.watcher.isRelevant e = true) ∨
        s.configTimer.isSome = true := by
  intro hall
  let n : Notifier := { Notifier.plain with places := fun _ p => p = .ofNames [] }
  have hn : n.Faithful := ⟨fun _ => by simp [n], Notifier.dependable_plain.tells⟩
  let a := sample .default []
  let tree : FileTree := .directory fun m =>
    if m = "nfd" then
      some (.directory fun m => if m = "worker.conf" then some (.file (.ok "")) else none)
    else none
  let w : Surroundings :=
    { Surroundings.calm .zero .zero (.ok "") with watching := .ok (n.places tree) }
  have hpath : a.configPath = a.configPath.clean := rfl
  have hroot : ∃ q ∈ a.configPath.clean.lineage, n.places tree q = true :=
    ⟨.ofNames [], by decide +kernel, by simp [n]⟩
  have hcreate := Watcher.create_of_placeable hroot
  have hw : (Watcher.create w.watching a.configPath).isOk = true := by decide +kernel
  have hr : ((a.configure w).value.connect w).result.isOk = true := by decide +kernel
  have hb : n.Backs tree w.watching := fun _ h => (Except.ok.inj h).symm
  obtain ⟨s, hc, htimer, hbegin⟩ := exists_unfolds (Nat.le_refl _) hb rfl hw hr
  have hlive : s.watcher.live = [.ofNames []] := by
    rw [← Except.ok.inj (hcreate.symm.trans hc)]
    decide +kernel
  rw [hlive] at hbegin
  have hwritten := hbegin.move (.changed (.write ["nfd", "worker.conf"] (.ok "{}")) _ [] rfl rfl)
  have hne : (.ok "{}" : FileState) ≠ .ok "" := by simp
  rcases hall n a w a.configPath [] _ _ s hn rfl hpath hwritten hne with ⟨e, he, -⟩ | hs
  · cases he
  · rw [htimer] at hs
    cases hs

end NodeSurvey.Agent
