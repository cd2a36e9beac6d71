import NodeSurvey.Proofs.Watch.FileTree
import NodeSurvey.Proofs.Watch.Relevance
import Mathlib.Logic.Relation

/-! Watches in a tree of files that changes. A notifier may tell of anything at any time. What it
owes is an event for each entry that a change touches, where the entry or the directory that holds
it is watched. A change on the way to a watched file is then told of, as long as there is a watch
on everything that is there above the file. -/

namespace NodeSurvey.Watch

structure Notifier where
  places : FileTree → Path → Bool
  tells : List Path → FileTree → FileTree.Change → List Event → Prop

/-- The root can be watched. A watch on what is there tells of each creation, write, rename or
removal of the entry or of one that it holds; one on nothing owes nothing. -/
structure Notifier.Faithful (n : Notifier) : Prop where
  root : ∀ t : FileTree, n.places t (.ofNames []) = true
  tells : ∀ (watches : List Path) (t : FileTree) (c : FileTree.Change) (events : List Event),
    n.tells watches t c events → ∀ place ∈ c.touched, ∀ p ∈ [place, place.dropLast],
      t.isThere p = true → Path.ofNames p ∈ watches →
      ∃ e ∈ events, e.kind.mayChange = true ∧ Path.ofNames place ∈ e.paths

/-- Whatever is there above a place can be watched. -/
def Notifier.Climbs (n : Notifier) (place : List String) : Prop :=
  ∀ (t : FileTree) (p : List String), p <+: place.dropLast → t.isThere p = true →
    n.places t (.ofNames p) = true

/-- Whatever is there can be watched. -/
structure Notifier.Dependable (n : Notifier) : Prop extends n.Faithful where
  places : ∀ (t : FileTree) (place : List String), t.isThere place = true →
    n.places t (.ofNames place) = true

/-- A service that places watches where a notifier does, if it is to be had. -/
def Notifier.Backs (n : Notifier) (t : FileTree) (service : Service) : Prop :=
  ∀ placeable, service = .ok placeable → placeable = n.places t

def FileTree.Change.kind : FileTree.Change → EventKind
  | .create _ (.file _) => .created .file
  | .create _ (.directory _) => .created .folder
  | .write .. => .modified .data
  | .remove _ => .removed .any
  | .rename .. => .modified .name

/-- The notifier that tells what it owes, an event for each entry, and nothing else. -/
def Notifier.plain : Notifier where
  places t p := t.isThere p.names
  tells watches t c events :=
    events = (c.touched.filter fun place => [place, place.dropLast].any fun p =>
      t.isThere p && watches.contains (Path.ofNames p)).map
        fun place => ⟨c.kind, [.ofNames place]⟩

theorem Notifier.dependable_plain : Notifier.plain.Dependable where
  root t := t.isThere_root
  places t place h := by
    rw [← h]
    exact congrArg t.isThere (Path.names_ofNames place)
  tells watches t c events h place hp p hm ht hw := by
    have howed : ([place, place.dropLast].any fun q =>
        t.isThere q && watches.contains (Path.ofNames q)) = true := by
      rw [List.any_eq_true]
      exact ⟨p, hm, by rw [ht, Bool.true_and]; exact List.contains_iff_mem.mpr hw⟩
    have hkind : c.kind.mayChange = true := by
      cases c with
      | create p new => cases new <;> rfl
      | _ => rfl
    refine ⟨⟨c.kind, [.ofNames place]⟩, ?_, hkind, List.mem_cons_self⟩
    rw [h]
    exact List.mem_map_of_mem (List.mem_filter.mpr ⟨hp, howed⟩)

/-- The files around an agent, the watches that are still on what they were placed on, what was told
and not served yet, an error or an event each, and what the last reading found. -/
structure Scene where
  tree : FileTree
  watches : List Path
  queue : List (Except String Event)
  read : FileState

/-- Those of some watches that are on something. A watch on nothing never tells anything. -/
def FileTree.seated (t : FileTree) (live : List Path) : List Path :=
  live.filter fun p => t.isThere p.names

def FileTree.Change.keeps (c : FileTree.Change) (p : Path) : Bool :=
  c.unseated.all fun place => !place.isPrefixOf p.names

namespace Scene

inductive Moves (n : Notifier) (sc : Scene) : Scene → Prop
  | changed (c : FileTree.Change) (t : FileTree) (events : List Event) :
      sc.tree.change? c = some t → n.tells sc.watches sc.tree c events →
      Moves n sc
        { sc with
          tree := t
          watches := sc.watches.filter c.keeps
          queue := sc.queue ++ events.map .ok }
  | told (items : List (Except String Event)) :
      Moves n sc { sc with queue := sc.queue ++ items }

def Waiting (sc : Scene) (w : Watcher) : Prop :=
  ∃ e, .ok e ∈ sc.queue ∧ w.isRelevant e = true

/-- Everything that is there above a place has a watch. -/
def Guarded (sc : Scene) (place : List String) : Prop :=
  ∀ p, p <+: place.dropLast → sc.tree.isThere p = true → Path.ofNames p ∈ sc.watches

/-- No change at a place can be missed: an event waits, or each further change will be told and
what is found now was read or is about to be. -/
def Safe (sc : Scene) (place : List String) (w : Watcher) (armed : Bool) : Prop :=
  sc.Waiting w ∨ sc.Guarded place ∧ (armed = true ∨ sc.tree.found place = sc.read)

end Scene

theorem Watcher.isRelevant_of_prefix {w : Watcher} {place p : List String}
    (hw : w.watched = (Path.ofNames place).lineage) (hp : p <+: place) {e : Event}
    (he : e.kind.mayChange = true) (hm : Path.ofNames p ∈ e.paths) : w.isRelevant e = true := by
  have hl : (Path.ofNames p).clean.LeadsTo (.ofNames place) := by
    rw [Path.clean_ofNames]
    exact ⟨rfl, hp.map _⟩
  exact (isRelevant_iff hw).mpr ⟨he, _, hm, hl⟩

namespace Scene

variable {n : Notifier} {sc sc' : Scene} {place : List String} {w : Watcher} {armed : Bool}

theorem guarded_of_create (hc : n.Climbs place) {service : Service}
    (hb : n.Backs sc.tree service) (h : Watcher.create service (.ofNames place) = .ok w)
    (hs : sc.watches = sc.tree.seated w.live) : sc.Guarded place := by
  obtain ⟨placeable, hservice, rfl⟩ := Watcher.create_eq_ok h
  obtain rfl : placeable = n.places sc.tree := hb placeable hservice
  intro p hp ht
  have hl : Path.ofNames p ∈ (Path.ofNames place).lineage :=
    Path.mem_lineage_ofNames.mpr ⟨p, hp.trans (List.dropLast_prefix place), rfl⟩
  rw [hs, Path.clean_ofNames, FileTree.seated, List.mem_filter, List.mem_filter,
    Path.names_ofNames]
  exact ⟨⟨hl, hc _ _ hp ht⟩, ht⟩

theorem Waiting.append (h : sc.Waiting w) (hq : ∃ items, sc'.queue = sc.queue ++ items) :
    sc'.Waiting w := by
  obtain ⟨e, he, hr⟩ := h
  obtain ⟨items, hi⟩ := hq
  exact ⟨e, hi ▸ List.mem_append_left _ he, hr⟩

theorem Guarded.exists_relevant (hn : n.Faithful) (h : sc.Guarded place)
    (hw : w.watched = (Path.ofNames place).lineage) {c : FileTree.Change} {t : FileTree}
    {events : List Event} (hc : sc.tree.change? c = some t)
    (he : n.tells sc.watches sc.tree c events) {p : List String} (hp : p ∈ c.touched)
    (hl : p <+: place) : ∃ e ∈ events, w.isRelevant e = true := by
  have hthere : sc.tree.isThere p.dropLast = true := FileTree.isThere_of_touched hc hp
  have habove : p.dropLast <+: place.dropLast := Path.dropLast_prefix_dropLast hl
  have hwatched : Path.ofNames p.dropLast ∈ sc.watches := h _ habove hthere
  obtain ⟨e, hm, hk, hpath⟩ := hn.tells _ _ _ _ he p hp p.dropLast (by simp) hthere hwatched
  exact ⟨e, hm, w.isRelevant_of_prefix hw hl hk hpath⟩

theorem Guarded.elsewhere (h : sc.Guarded place) {c : FileTree.Change} {t : FileTree}
    (hc : sc.tree.change? c = some t) (ho : ∀ q ∈ c.touched, ¬ q <+: place)
    (ht : sc'.tree = t) (hs : sc'.watches = sc.watches.filter c.keeps) : sc'.Guarded place := by
  intro p hp hthere
  have hplace : p <+: place := hp.trans (List.dropLast_prefix place)
  have hfar : ∀ q ∈ c.touched, ¬ q <+: p := fun q hq hl => ho q hq (hl.trans hplace)
  rw [ht, (FileTree.change?_elsewhere hc hfar).1] at hthere
  rw [hs, List.mem_filter, FileTree.Change.keeps, Path.names_ofNames, List.all_eq_true]
  refine ⟨h p hp hthere, fun q hq => ?_⟩
  have hl := hfar q (c.unseated_subset hq)
  rwa [Bool.not_eq_true', ← Bool.not_eq_true, List.isPrefixOf_iff_prefix]

theorem Moves.safe (hn : n.Faithful) (hw : w.watched = (Path.ofNames place).lineage)
    (h : Moves n sc sc') (hs : sc.Safe place w armed) : sc'.Safe place w armed := by
  cases h with
  | told items => exact hs.imp_left fun hw => hw.append ⟨items, rfl⟩
  | changed c t events hc he =>
    rcases hs with hq | ⟨hg, hr⟩
    · exact Or.inl (hq.append ⟨_, rfl⟩)
    · by_cases ho : ∀ q ∈ c.touched, ¬ q <+: place
      · refine Or.inr ⟨hg.elsewhere hc ho rfl rfl, hr.imp_right fun hf => ?_⟩
        exact (FileTree.change?_elsewhere hc ho).2.trans hf
      · obtain ⟨q, hq, hl⟩ : ∃ q ∈ c.touched, q <+: place := by simpa using ho
        obtain ⟨e, hm, hrel⟩ := hg.exists_relevant hn hw hc he hq hl
        exact Or.inl ⟨e, List.mem_append_right _ (List.mem_map_of_mem hm), hrel⟩

theorem Safe.reread (h : sc.Safe place w armed) :
    Scene.Safe { sc with read := sc.tree.found place } place w false :=
  h.imp_right fun hg => ⟨hg.1, Or.inr rfl⟩

theorem Safe.taken (h : sc.Safe place w armed) {item : Except String Event}
    {rest : List (Except String Event)} (hq : sc.queue = item :: rest)
    (hi : ∀ e, item = .ok e → w.isRelevant e = false) :
    Scene.Safe { sc with queue := rest } place w armed := by
  refine h.imp_left fun hw => ?_
  obtain ⟨e, he, hr⟩ := hw
  rw [hq] at he
  rcases List.mem_cons.mp he with hitem | he
  · rw [hi e hitem.symm] at hr
    cases hr
  · exact ⟨e, he, hr⟩

theorem safe_of_moves (hn : n.Faithful) (hw : w.watched = (Path.ofNames place).lineage)
    (h : Relation.ReflTransGen (Moves n) sc sc') (hs : sc.Safe place w armed) :
    sc'.Safe place w armed := by
  induction h with
  | refl => exact hs
  | tail _ hm ih => exact hm.safe hn hw ih

end Scene

end NodeSurvey.Watch
