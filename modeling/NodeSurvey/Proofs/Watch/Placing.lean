import Mathlib.Data.List.Induction
import NodeSurvey.Proofs.Watch.Scene

/-! Watches are placed one after another, from the watched file up to the root, and files may appear
between two attempts. What appears below a watch is told of. An entry is missed if it was not there
when a watch on it was tried and was there when one on its directory was, and nothing below such an
entry is ever told. -/

namespace NodeSurvey.Watch

namespace FileTree

theorem ne_nil_of_not_isThere {t : FileTree} {p : List String} (h : t.isThere p = false) :
    p ≠ [] := by
  rintro rfl
  rw [isThere_root] at h
  cases h

section Create

variable {t t' : FileTree} {p : List String} {new : FileTree}

theorem not_isThere_of_create (h : t.change? (.create p new) = some t') :
    t.isThere p = false := by
  rw [change?] at h
  split at h
  · rename_i hc
    rw [Bool.and_eq_true, Bool.not_eq_true'] at hc
    exact hc.1
  · cases h

theorem isThere_create (h : t.change? (.create p new) = some t') {q : List String}
    (hq : t.isThere q = true) : t'.isThere q = true := by
  have hp := not_isThere_of_create h
  have hfar : ∀ place ∈ (Change.create p new).touched, ¬ place <+: q := by
    intro place hm hl
    obtain rfl := List.mem_singleton.mp hm
    rw [isThere_above hl hq] at hp
    cases hp
  rw [(change?_elsewhere h hfar).1]
  exact hq

theorem prefix_of_isThere_create (h : t.change? (.create p new) = some t') {q : List String}
    (hq : t.isThere q = false) (hq' : t'.isThere q = true) : p <+: q := by
  by_cases hl : p <+: q
  · exact hl
  · have hfar : ∀ place ∈ (Change.create p new).touched, ¬ place <+: q := by
      intro place hm
      rw [List.mem_singleton.mp hm]
      exact hl
    rw [(change?_elsewhere h hfar).1, hq] at hq'
    cases hq'

end Create

end FileTree

/-- No watch is placed on what is missing. -/
structure Notifier.Grounded (n : Notifier) : Prop extends n.Dependable where
  there : ∀ (t : FileTree) (place : List String), n.places t (.ofNames place) = true →
    t.isThere place = true

/-- Only what the entry or its directory is watched for is told. -/
structure Notifier.Exact (n : Notifier) : Prop extends n.Grounded where
  owed : ∀ (watches : List Path) (t : FileTree) (c : FileTree.Change) (events : List Event),
    n.tells watches t c events → events ≠ [] →
    ∃ place ∈ c.touched, ∃ p ∈ [place, place.dropLast], t.isThere p = true ∧
      Path.ofNames p ∈ watches

theorem Notifier.Grounded.places_eq {n : Notifier} (hn : n.Grounded) {t : FileTree}
    {place : List String} : n.places t (.ofNames place) = t.isThere place := by
  rw [Bool.eq_iff_iff]
  exact ⟨hn.there t place, hn.places t place⟩

theorem Notifier.exact_plain : Notifier.plain.Exact where
  toDependable := Notifier.dependable_plain
  there t place h := by
    rw [← h]
    exact congrArg t.isThere (Path.names_ofNames place).symm
  owed watches t c events h hne := by
    have hm : ∃ place ∈ c.touched, ([place, place.dropLast].any fun p =>
        t.isThere p && watches.contains (Path.ofNames p)) = true := by
      obtain ⟨e, he⟩ := List.exists_mem_of_ne_nil events hne
      rw [h, List.mem_map] at he
      obtain ⟨place, hp, _⟩ := he
      exact ⟨place, (List.mem_filter.mp hp).1, (List.mem_filter.mp hp).2⟩
    obtain ⟨place, hp, ha⟩ := hm
    obtain ⟨p, hpp, hb⟩ := List.any_eq_true.mp ha
    rw [Bool.and_eq_true] at hb
    exact ⟨place, hp, p, hpp, hb.1, List.contains_iff_mem.mp hb.2⟩

/-- An attempt to place a watch, and the files as they were then. -/
structure Attempt where
  path : Path
  tree : FileTree

namespace Scene

/-- Something that is missing on the way to a place, or there, is created. -/
inductive Fills (n : Notifier) (place : List String) (sc : Scene) : Scene → Prop
  | created (p : List String) (new t : FileTree) (events : List Event) :
      p <+: place → sc.tree.change? (.create p new) = some t →
      n.tells sc.watches sc.tree (.create p new) events →
      Fills n place sc
        { sc with
          tree := t
          watches := sc.watches.filter (FileTree.Change.create p new).keeps
          queue := sc.queue ++ events.map .ok }

def attempt (n : Notifier) (sc : Scene) (p : Path) : Scene :=
  if n.places sc.tree p then { sc with watches := sc.watches ++ [p] } else sc

end Scene

/-- Attempts one after another, the latest first, while the way to a place is filled. -/
inductive Placing (n : Notifier) (place : List String) (start : Scene) :
    List Attempt → Scene → Prop
  | start : Placing n place start [] start
  | filled {log : List Attempt} {sc sc' : Scene} :
      Placing n place start log sc → sc.Fills n place sc' → Placing n place start log sc'
  | attempted {log : List Attempt} {sc : Scene} (p : Path) :
      Placing n place start log sc →
      Placing n place start (⟨p, sc.tree⟩ :: log) (sc.attempt n p)

/-- Where the attempts succeeded. -/
def answers (n : Notifier) (log : List Attempt) (p : Path) : Bool :=
  log.any fun a => a.path = p && n.places a.tree p

/-- An entry was missing at the attempt on it, and there at the attempt on its directory. -/
def Overtaken (log : List Attempt) (p : List String) : Prop :=
  (∃ a ∈ log, a.path = .ofNames p ∧ a.tree.isThere p = false) ∧
  ∃ b ∈ log, b.path = .ofNames p.dropLast ∧ b.tree.isThere p = true

theorem answers_eq_true_iff {n : Notifier} {log : List Attempt} {p : Path} :
    answers n log p = true ↔ ∃ a ∈ log, a.path = p ∧ n.places a.tree p = true := by
  simp [answers]

theorem answers_root {n : Notifier} (hn : n.Grounded) {log : List Attempt}
    (h : ∃ a ∈ log, a.path = .ofNames []) : answers n log (.ofNames []) = true := by
  obtain ⟨a, ha, hpath⟩ := h
  have hplaced : n.places a.tree (.ofNames []) = true := hn.places_eq.trans a.tree.isThere_root
  exact answers_eq_true_iff.mpr ⟨a, ha, hpath, hplaced⟩

@[simp] theorem Scene.tree_attempt (n : Notifier) (sc : Scene) (p : Path) :
    (sc.attempt n p).tree = sc.tree := by
  rw [Scene.attempt]
  split <;> rfl

@[simp] theorem Scene.queue_attempt (n : Notifier) (sc : Scene) (p : Path) :
    (sc.attempt n p).queue = sc.queue := by
  rw [Scene.attempt]
  split <;> rfl

theorem Scene.watches_attempt (n : Notifier) (sc : Scene) (p : Path) :
    (sc.attempt n p).watches = sc.watches ++ if n.places sc.tree p then [p] else [] := by
  rw [Scene.attempt]
  split
  · rfl
  · exact (List.append_nil _).symm

namespace Placing

variable {n : Notifier} {place : List String} {start sc : Scene} {log : List Attempt}

theorem isThere (h : Placing n place start log sc) {a : Attempt} (ha : a ∈ log)
    {q : List String} (hq : a.tree.isThere q = true) : sc.tree.isThere q = true := by
  induction h with
  | start => cases ha
  | filled _ hf ih =>
    cases hf with
    | created p new t events _ hc _ => exact FileTree.isThere_create hc (ih ha)
  | attempted p _ ih =>
    rw [Scene.tree_attempt]
    rcases List.mem_cons.mp ha with rfl | ha
    · exact hq
    · exact ih ha

theorem pairwise (h : Placing n place start log sc) :
    log.Pairwise fun a b => ∀ q, b.tree.isThere q = true → a.tree.isThere q = true := by
  induction h with
  | start => exact .nil
  | filled _ _ ih => exact ih
  | attempted p hp ih => exact List.pairwise_cons.mpr ⟨fun b hb q => hp.isThere hb, ih⟩

theorem mem_watches (hn : n.Grounded) (h : Placing n place start log sc) {a : Attempt}
    (ha : a ∈ log) {q : List String} (hq : a.path = .ofNames q)
    (hp : n.places a.tree a.path = true) : a.path ∈ sc.watches := by
  induction h with
  | start => cases ha
  | @filled log sc _ hb hf ih =>
    cases hf with
    | created p new t events _ hc _ =>
      have hthere : sc.tree.isThere q = true := hb.isThere ha (hn.there _ _ (hq ▸ hp))
      have hfar : ¬ p <+: q := by
        intro hl
        have hm := FileTree.not_isThere_of_create hc
        rw [FileTree.isThere_above hl hthere] at hm
        cases hm
      refine List.mem_filter.mpr ⟨ih ha, ?_⟩
      rw [hq, FileTree.Change.keeps, Path.names_ofNames, List.all_eq_true]
      intro r hr
      obtain rfl := List.mem_singleton.mp hr
      rwa [Bool.not_eq_true', ← Bool.not_eq_true, List.isPrefixOf_iff_prefix]
  | attempted p _ ih =>
    rw [Scene.watches_attempt]
    rcases List.mem_cons.mp ha with rfl | ha
    · rw [if_pos hp]
      exact List.mem_append_right _ List.mem_cons_self
    · exact List.mem_append_left _ (ih ha)

theorem exists_attempt (hstart : start.watches = []) (h : Placing n place start log sc) {p : Path}
    (hp : p ∈ sc.watches) : ∃ a ∈ log, a.path = p ∧ n.places a.tree p = true := by
  induction h with
  | start =>
    rw [hstart] at hp
    cases hp
  | filled _ hf ih =>
    cases hf with
    | created _ _ _ _ _ _ _ => exact ih (List.mem_filter.mp hp).1
  | @attempted log sc q _ ih =>
    rw [Scene.watches_attempt, List.mem_append] at hp
    rcases hp with hp | hp
    · obtain ⟨a, ha, hap⟩ := ih hp
      exact ⟨a, List.mem_cons_of_mem _ ha, hap⟩
    · split at hp
      · rename_i hq
        obtain rfl := List.mem_singleton.mp hp
        exact ⟨_, List.mem_cons_self, rfl, hq⟩
      · cases hp

/-- An entry that comes into a watched directory is told of. -/
theorem told (hn : n.Grounded) (h : Placing n place start log sc) {a : Attempt} (ha : a ∈ log)
    {p : List String} (hne : p ≠ []) (hpath : a.path = .ofNames p.dropLast)
    (hplaced : n.places a.tree a.path = true) (hbefore : a.tree.isThere p = false)
    (hafter : sc.tree.isThere p = true) :
    ∃ e, .ok e ∈ sc.queue ∧ e.kind.mayChange = true ∧ Path.ofNames p ∈ e.paths := by
  induction h with
  | start => cases ha
  | @filled log sc _ hb hf ih =>
    cases hf with
    | created c new t events _ hc ht =>
      cases hold : sc.tree.isThere p with
      | true =>
        obtain ⟨e, he, hk⟩ := ih ha hold
        exact ⟨e, List.mem_append_left _ he, hk⟩
      | false =>
        -- The directory was there all the time, so what is created is the entry itself.
        have hdir : sc.tree.isThere p.dropLast = true :=
          hb.isThere ha (hn.there _ _ (hpath ▸ hplaced))
        have hcp : c = p := by
          have hl := FileTree.prefix_of_isThere_create hc hold hafter
          rcases (Path.prefix_iff_dropLast hne).mp hl with hl | hl
          · exact hl
          · have hm := FileTree.not_isThere_of_create hc
            rw [FileTree.isThere_above hl hdir] at hm
            cases hm
        subst hcp
        have hw : Path.ofNames c.dropLast ∈ sc.watches := hpath ▸ hb.mem_watches hn ha hpath hplaced
        obtain ⟨e, he, hk, hm⟩ := hn.tells _ _ _ _ ht c List.mem_cons_self c.dropLast
          (List.mem_cons_of_mem _ List.mem_cons_self) hdir hw
        exact ⟨e, List.mem_append_right _ (List.mem_map_of_mem he), hk, hm⟩
  | @attempted log sc q hb ih =>
    rw [Scene.tree_attempt] at hafter
    rw [Scene.queue_attempt]
    rcases List.mem_cons.mp ha with rfl | ha
    · rw [hbefore] at hafter
      cases hafter
    · exact ih ha hafter

/-- An entry that is there now has a watch, or its directory has one, or some entry on the way to it
was told of or overtaken: the first one below the watches, going down from the root. -/
theorem covered_or_overtaken (hn : n.Grounded) (h : Placing n place start log sc)
    (hall : ∀ p, p <+: place → ∃ a ∈ log, a.path = .ofNames p) {w : Watcher}
    (hw : w.watched = (Path.ofNames place).lineage) {p : List String} (hp : p <+: place)
    (hthere : sc.tree.isThere p = true) :
    answers n log (.ofNames p) = true ∨ answers n log (.ofNames p.dropLast) = true ∨
      sc.Waiting w ∨ ∃ q, q <+: place ∧ q ≠ place ∧ Overtaken log q := by
  induction p using List.reverseRecOn with
  | nil =>
    exact Or.inl (answers_root hn (hall [] List.nil_prefix))
  | append_singleton l m ih =>
    have hlm : l <+: l ++ [m] := List.prefix_append l [m]
    have hl : l <+: place := hlm.trans hp
    have hlthere := FileTree.isThere_above hlm hthere
    rw [List.dropLast_concat]
    cases hans : answers n log (.ofNames l) with
    | true => exact Or.inr (Or.inl rfl)
    | false =>
      rcases ih hl hlthere with hself | hdir | hrest
      · rw [hans] at hself
        cases hself
      · obtain ⟨a, ha, hapath⟩ := hall l hl
        obtain ⟨b, hb, hbpath, hbplaced⟩ := answers_eq_true_iff.mp hdir
        have hmissing : a.tree.isThere l = false := by
          rw [← hn.places_eq, Bool.eq_false_iff]
          intro hplaced
          rw [answers_eq_true_iff.mpr ⟨a, ha, hapath, hplaced⟩] at hans
          cases hans
        have hne := FileTree.ne_nil_of_not_isThere hmissing
        cases hover : b.tree.isThere l with
        | true =>
          have hlt : l ≠ place := by
            rintro rfl
            have hlen := hp.length_le
            rw [List.length_append, List.length_singleton] at hlen
            omega
          exact Or.inr (Or.inr (Or.inr
            ⟨l, hl, hlt, ⟨a, ha, hapath, hmissing⟩, b, hb, hbpath, hover⟩))
        | false =>
          obtain ⟨e, he, hk, hm⟩ := h.told hn hb hne hbpath (hbpath ▸ hbplaced) hover hlthere
          exact Or.inr (Or.inr (Or.inl ⟨e, he, w.isRelevant_of_prefix hw hl hk hm⟩))
      · exact Or.inr (Or.inr hrest)

/-- If no attempt at or below a directory found anything, and each one above found the directory,
then nothing was told: what was created had no watch on itself or on its directory. -/
theorem queue_eq_nil (hn : n.Exact) (hstart : start.watches = []) (hqueue : start.queue = [])
    (h : Placing n place start log sc) {p : List String} (hp : p <+: place)
    (hbelow : ∀ a ∈ log, ∀ q, a.path = .ofNames q → p <+: q → a.tree.isThere q = false)
    (habove : ∀ a ∈ log, ∀ q, a.path = .ofNames q → ¬ p <+: q → a.tree.isThere p = true) :
    sc.queue = [] := by
  induction h with
  | start => exact hqueue
  | @filled log sc _ hb hf ih =>
    cases hf with
    | created c new t events hc hch ht =>
      have hnone : events = [] := by
        by_cases hne : events = []
        · exact hne
        · exfalso
          obtain ⟨r, hr, q, hq, hqthere, hqw⟩ := hn.owed _ _ _ _ ht hne
          obtain rfl : r = c := List.mem_singleton.mp hr
          have hmissing := FileTree.not_isThere_of_create hch
          obtain ⟨a, ha, hapath, haplaced⟩ := hb.exists_attempt hstart hqw
          have hathere := hn.there _ _ haplaced
          have hpq : ¬ p <+: q := by
            intro hl
            rw [hbelow a ha q hapath hl] at hathere
            cases hathere
          have hpthere := hb.isThere ha (habove a ha q hapath hpq)
          have hqc : q = r.dropLast := by
            rcases List.mem_cons.mp hq with rfl | hq
            · rw [hmissing] at hqthere
              cases hqthere
            · exact List.mem_singleton.mp hq
          rcases List.prefix_or_prefix_of_prefix hp hc with hl | hl
          · have hne := FileTree.ne_nil_of_not_isThere hmissing
            rcases (Path.prefix_iff_dropLast hne).mp hl with rfl | hl
            · rw [hmissing] at hpthere
              cases hpthere
            · exact hpq (hqc ▸ hl)
          · rw [FileTree.isThere_above hl hpthere] at hmissing
            cases hmissing
      rw [ih hbelow habove, hnone]
      rfl
  | attempted q _ ih =>
    rw [Scene.queue_attempt]
    exact ih (fun a ha => hbelow a (List.mem_cons_of_mem _ ha))
      (fun a ha => habove a (List.mem_cons_of_mem _ ha))

theorem isThere_of_not_later (r : Path → Path → Prop) (h : Placing n place start log sc)
    (hr : log.Pairwise fun a b => r a.path b.path) {a b : Attempt} (ha : a ∈ log) (hb : b ∈ log)
    (hnot : ¬ r b.path a.path) {q : List String} (hq : b.tree.isThere q = true) :
    a.tree.isThere q = true := by
  have hlog := hr.and h.pairwise
  clear h hr
  induction log with
  | nil => cases ha
  | cons x log ih =>
    obtain ⟨hx, hrest⟩ := List.pairwise_cons.mp hlog
    rcases List.mem_cons.mp ha with hax | ha <;> rcases List.mem_cons.mp hb with hbx | hb
    · rw [hax, ← hbx]
      exact hq
    · rw [hax]
      exact (hx b hb).2 q hq
    · rw [hbx] at hnot
      exact absurd (hx a ha).1 hnot
    · exact ih ha hb hrest

end Placing

section Upward

variable {n : Notifier} {place : List String} {start sc : Scene} {log : List Attempt}

theorem exists_attempt_of_prefix (hlog : (log.map (·.path)).reverse = (Path.ofNames place).lineage)
    {p : List String} (hp : p <+: place) : ∃ a ∈ log, a.path = .ofNames p := by
  have hm : Path.ofNames p ∈ (log.map (·.path)).reverse := by
    rw [hlog]
    exact Path.mem_lineage_ofNames.mpr ⟨p, hp, rfl⟩
  obtain ⟨a, ha, hpath⟩ := List.mem_map.mp (List.mem_reverse.mp hm)
  exact ⟨a, ha, hpath⟩

theorem pairwise_length_of_lineage {p : Path} (hlog : (log.map (·.path)).reverse = p.lineage) :
    log.Pairwise fun a b => a.path.steps.length < b.path.steps.length := by
  have h := Path.pairwise_lineage p
  rwa [← hlog, List.pairwise_reverse, List.pairwise_map] at h

/-- Attempts that go upward find an overtaken entry above it and nothing from it on. -/
theorem Overtaken.sides (h : Placing n place start log sc)
    (hlog : (log.map (·.path)).reverse = (Path.ofNames place).lineage) {p : List String}
    (hp : p <+: place) (ho : Overtaken log p) {a : Attempt} (ha : a ∈ log) {q : List String}
    (hq : a.path = .ofNames q) :
    (p <+: q → a.tree.isThere q = false) ∧ (¬ p <+: q → a.tree.isThere p = true) := by
  obtain ⟨⟨m, hm, hmpath, hmissing⟩, b, hb, hbpath, hthere⟩ := ho
  have hkey := pairwise_length_of_lineage hlog
  constructor
  · intro hl
    rw [Bool.eq_false_iff]
    intro hfound
    have hle : ¬ a.path.steps.length < m.path.steps.length := by
      simpa [hmpath, hq] using hl.length_le
    have hfirst : m.tree.isThere p = true :=
      h.isThere_of_not_later (fun x y => x.steps.length < y.steps.length) hkey hm ha hle
        (FileTree.isThere_above hl hfound)
    rw [hfirst] at hmissing
    cases hmissing
  · intro hl
    have hqplace : q <+: place := by
      have hmem : a.path ∈ (Path.ofNames place).lineage := by
        rw [← hlog]
        exact List.mem_reverse.mpr (List.mem_map_of_mem ha)
      obtain ⟨r, hr, hpath⟩ := Path.mem_lineage_ofNames.mp hmem
      have hqr : q = r := by
        rw [← Path.names_ofNames q, ← hq, hpath, Path.names_ofNames]
      exact hqr ▸ hr
    have hqp : q <+: p := (List.prefix_or_prefix_of_prefix hp hqplace).resolve_left hl
    have hne : p ≠ [] := fun he => hl (he ▸ List.nil_prefix)
    have hdir : q <+: p.dropLast := by
      rcases (Path.prefix_iff_dropLast hne).mp hqp with rfl | hdir
      · exact absurd (List.prefix_refl _) hl
      · exact hdir
    have hle : ¬ b.path.steps.length < a.path.steps.length := by
      have hlen := hdir.length_le
      rw [hbpath, hq, Path.length_steps_ofNames, Path.length_steps_ofNames]
      omega
    exact h.isThere_of_not_later (fun x y => x.steps.length < y.steps.length) hkey ha hb hle hthere

theorem not_overtaken_of_downward (h : Placing n place start log sc)
    (hlog : log.map (·.path) = (Path.ofNames place).lineage) (p : List String) :
    ¬ Overtaken log p := by
  rintro ⟨⟨m, hm, hmpath, hmissing⟩, b, hb, hbpath, hthere⟩
  have hkey : log.Pairwise fun a b => b.path.steps.length < a.path.steps.length := by
    have hl := Path.pairwise_lineage (.ofNames place)
    rwa [← hlog, List.pairwise_map] at hl
  have hle : ¬ m.path.steps.length < b.path.steps.length := by
    have hlen := (List.dropLast_prefix p).length_le
    rw [hmpath, hbpath, Path.length_steps_ofNames, Path.length_steps_ofNames]
    omega
  rw [h.isThere_of_not_later (fun x y => y.steps.length < x.steps.length) hkey hm hb hle hthere]
    at hmissing
  cases hmissing

end Upward

/-- What happens later at a place is not missed: there is a watch on it or on its directory, or an
event waits that makes the watcher place its watches anew. -/
def Scene.Covers (sc : Scene) (w : Watcher) (place : List String) : Prop :=
  Path.ofNames place ∈ w.live ∨ Path.ofNames place.dropLast ∈ w.live ∨ sc.Waiting w

/-- A watcher on a place, with a watch wherever an attempt on the way to it succeeded. -/
structure Placed (n : Notifier) (log : List Attempt) (place : List String) (w : Watcher) : Prop where
  tried : ∀ p, p <+: place → ∃ a ∈ log, a.path = .ofNames p
  watched : w.watched = (Path.ofNames place).lineage
  live : w.live = w.watched.filter (answers n log)

theorem exists_placed {path : Path} (habs : path.absolute = true) {n : Notifier} (hn : n.Grounded)
    {log : List Attempt} (hlog : (log.map (·.path)).reverse = watchPaths path) :
    ∃ w, Watcher.create (.ok (answers n log)) path = .ok w ∧ Placed n log path.clean.names w := by
  have hplace : path.clean = .ofNames path.clean.names := (Path.ofNames_names_clean habs).symm
  have hpaths : (log.map (·.path)).reverse = (Path.ofNames path.clean.names).lineage :=
    hplace ▸ hlog
  have htried := fun p => exists_attempt_of_prefix hpaths (p := p)
  have hroot := answers_root hn (htried [] List.nil_prefix)
  have hmem : Path.ofNames [] ∈ path.clean.lineage := by
    rw [hplace]
    exact Path.mem_lineage_ofNames.mpr ⟨[], List.nil_prefix, rfl⟩
  exact ⟨_, Watcher.create_of_placeable ⟨_, hmem, hroot⟩, htried, congrArg Path.lineage hplace, rfl⟩

namespace Placed

variable {n : Notifier} {place : List String} {start sc : Scene} {log : List Attempt} {w : Watcher}

theorem mem_live_iff (hw : Placed n log place w) {p : List String} (hp : p <+: place) :
    Path.ofNames p ∈ w.live ↔ answers n log (.ofNames p) = true := by
  have hm : Path.ofNames p ∈ w.watched := by
    rw [hw.watched]
    exact Path.mem_lineage_ofNames.mpr ⟨p, hp, rfl⟩
  rw [hw.live, List.mem_filter]
  exact and_iff_right hm

theorem mem_watches (hw : Placed n log place w) (hn : n.Grounded)
    (h : Placing n place start log sc) {q : Path} (hq : q ∈ w.live) : q ∈ sc.watches := by
  rw [hw.live, List.mem_filter, hw.watched] at hq
  obtain ⟨p, _, rfl⟩ := Path.mem_lineage_ofNames.mp hq.1
  obtain ⟨a, ha, hpath, hplaced⟩ := answers_eq_true_iff.mp hq.2
  rw [← hpath] at hplaced ⊢
  exact h.mem_watches hn ha hpath hplaced

theorem covers_or_overtaken (hw : Placed n log place w) (hn : n.Grounded)
    (h : Placing n place start log sc) (hthere : sc.tree.isThere place = true) :
    sc.Covers w place ∨ ∃ p, p <+: place ∧ p ≠ place ∧ Overtaken log p := by
  have hself : place <+: place := List.prefix_refl place
  rcases h.covered_or_overtaken hn hw.tried hw.watched hself hthere with hans | hans | hwait | ho
  · exact Or.inl (Or.inl ((hw.mem_live_iff hself).mpr hans))
  · exact Or.inl (Or.inr (Or.inl ((hw.mem_live_iff (List.dropLast_prefix place)).mpr hans)))
  · exact Or.inl (Or.inr (Or.inr hwait))
  · exact Or.inr ho

theorem not_covers_of_overtaken (hw : Placed n log place w) (hn : n.Exact)
    (hstart : start.watches = []) (hqueue : start.queue = [])
    (h : Placing n place start log sc)
    (hlog : (log.map (·.path)).reverse = (Path.ofNames place).lineage) {p : List String}
    (hp : p <+: place) (hne : p ≠ place) (ho : Overtaken log p) : ¬ sc.Covers w place := by
  have hsides := fun a ha q hq => Overtaken.sides h hlog hp ho (a := a) ha (q := q) hq
  have hlive : ∀ q, q <+: place → p <+: q → Path.ofNames q ∉ w.live := by
    intro q hq hl hm
    obtain ⟨a, ha, hpath, hplaced⟩ := answers_eq_true_iff.mp ((hw.mem_live_iff hq).mp hm)
    rw [hn.places_eq, (hsides a ha q hpath).1 hl] at hplaced
    cases hplaced
  have hempty : sc.queue = [] := h.queue_eq_nil hn hstart hqueue hp
    (fun a ha q hq => (hsides a ha q hq).1) (fun a ha q hq => (hsides a ha q hq).2)
  have hnil : place ≠ [] := by
    intro he
    rw [he] at hp hne
    exact hne (List.prefix_nil.mp hp)
  have hdir : p <+: place.dropLast := ((Path.prefix_iff_dropLast hnil).mp hp).resolve_left hne
  rintro (hm | hm | ⟨e, he, _⟩)
  · exact hlive place (List.prefix_refl place) hp hm
  · exact hlive place.dropLast (List.dropLast_prefix place) hdir hm
  · rw [hempty] at he
    cases he

/-- The other way round, from the root down to the file, nothing would be missed. -/
theorem covers_of_downward (hw : Placed n log place w) (hn : n.Grounded)
    (h : Placing n place start log sc) (hlog : log.map (·.path) = (Path.ofNames place).lineage)
    (hthere : sc.tree.isThere place = true) : sc.Covers w place := by
  rcases hw.covers_or_overtaken hn h hthere with hc | ⟨p, _, _, ho⟩
  · exact hc
  · exact absurd ho (not_overtaken_of_downward h hlog p)

end Placed

/-- Watches on a path are placed one after another while the way to it is filled. When all were
tried, what is at the path is covered, unless a directory on the way was overtaken: it was missing
when a watch on it was tried, and there when the one on its own directory was. If the notifier tells
no more than it owes, then what is at the path is not covered. -/
theorem placing_blindSpot {path : Path} (habs : path.absolute = true) {n : Notifier}
    (hn : n.Grounded) {start sc : Scene} (hstart : start.watches = []) {log : List Attempt}
    (h : Placing n path.clean.names start log sc)
    (hlog : (log.map (·.path)).reverse = watchPaths path) :
    let place := path.clean.names
    let overtaken := ∃ p, p <+: place ∧ p ≠ place ∧ Overtaken log p
    ∃ w, Watcher.create (.ok (answers n log)) path = .ok w ∧ (∀ q ∈ w.live, q ∈ sc.watches) ∧
      (sc.tree.isThere place = true → sc.Covers w place ∨ overtaken) ∧
      (n.Exact → start.queue = [] → overtaken → ¬ sc.Covers w place) := by
  intro place overtaken
  obtain ⟨w, hc, hw⟩ := exists_placed habs hn hlog
  refine ⟨w, hc, fun q hq => hw.mem_watches hn h hq, hw.covers_or_overtaken hn h, ?_⟩
  rintro hexact hqueue ⟨p, hp, hne, ho⟩
  have hpaths : (log.map (·.path)).reverse = (Path.ofNames place).lineage := by
    rw [Path.ofNames_names_clean habs]
    exact hlog
  exact hw.not_covers_of_overtaken hexact hstart hqueue h hpaths hp hne ho

/-- The directory is there from the start, and the file is created before the attempt on the root. -/
theorem placing_blindSpot_file :
    let path := Path.ofString "/nfd/worker.conf"
    let place := ["nfd", "worker.conf"]
    let tree : FileTree :=
      .directory fun m => if m = "nfd" then some (.directory fun _ => none) else none
    let start : Scene := ⟨tree, [], [], .error .notFound⟩
    path.absolute = true ∧ Notifier.plain.Grounded ∧ ∃ log sc,
      Placing .plain path.clean.names start log sc ∧
      (log.map (·.path)).reverse = watchPaths path ∧ sc.tree.isThere place = true ∧
      ∃ w, Watcher.create (.ok (answers .plain log)) path = .ok w ∧
        (sc.Covers w place ∨ ∃ p, p <+: place ∧ p ≠ place ∧ Overtaken log p) := by
  intro path place tree start
  have habs : path.absolute = true := by decide +kernel
  have hnames : path.clean.names = place := by decide +kernel
  have hn := Notifier.exact_plain.toGrounded
  have hbelow : Placing .plain place start _ _ :=
    (Placing.start.attempted (.ofNames place)).attempted (.ofNames ["nfd"])
  have hfile := hbelow.filled
    (.created place (.file (.ok "{}")) _ _ (List.prefix_refl place) rfl rfl)
  have h := hfile.attempted (.ofNames [])
  rw [← hnames] at h
  obtain ⟨w, hc, _, hcover, _⟩ := placing_blindSpot habs hn rfl h (by decide +kernel)
  rw [hnames] at hcover
  exact ⟨habs, hn, _, _, h, by decide +kernel, rfl, w, hc, hcover rfl⟩

/-- The directory and the file are created after the attempt on the directory and before the one on
the root. Then the file is there, none of the two has a watch, no event waits, and a write to the
file is not told. -/
theorem placing_blindSpot_created :
    let path := Path.ofString "/nfd/worker.conf"
    let place := ["nfd", "worker.conf"]
    let start : Scene := ⟨.directory fun _ => none, [], [], .error .notFound⟩
    ∃ log sc w, Placing .plain path.clean.names start log sc ∧
      (log.map (·.path)).reverse = watchPaths path ∧
      Watcher.create (.ok (answers .plain log)) path = .ok w ∧ sc.tree.found place = .ok "{}" ∧
      ¬ sc.Covers w place ∧
      Notifier.plain.tells sc.watches sc.tree (.write place (.ok "core: {}")) [] := by
  intro path place start
  have habs : path.absolute = true := by decide +kernel
  have hnames : path.clean.names = place := by decide +kernel
  let folder := start.tree.put ["nfd"] (some (.directory fun _ => none))
  let tree := folder.put place (some (.file (.ok "{}")))
  let log : List Attempt :=
    [⟨.ofNames [], tree⟩, ⟨.ofNames ["nfd"], start.tree⟩, ⟨.ofNames place, start.tree⟩]
  have hlog : (log.map (·.path)).reverse = watchPaths path := by decide +kernel
  have hbelow : Placing .plain place start _ _ :=
    (Placing.start.attempted (.ofNames place)).attempted (.ofNames ["nfd"])
  have hfolder := hbelow.filled
    (.created ["nfd"] (.directory fun _ => none) folder _ (by decide +kernel) rfl rfl)
  have hfile := hfolder.filled
    (.created place (.file (.ok "{}")) tree _ (List.prefix_refl place) rfl rfl)
  have h : Placing .plain place start log _ := hfile.attempted (.ofNames [])
  have ho : Overtaken log ["nfd"] :=
    ⟨⟨⟨.ofNames ["nfd"], start.tree⟩, by simp [log], rfl, rfl⟩, _, List.mem_cons_self, rfl, rfl⟩
  rw [← hnames] at h
  obtain ⟨w, hc, hw⟩ := exists_placed habs Notifier.exact_plain.toGrounded hlog
  have hblind := hw.not_covers_of_overtaken Notifier.exact_plain rfl rfl h
    (hlog.trans (by decide +kernel)) (by decide +kernel) (by decide +kernel) ho
  rw [hnames] at hblind
  exact ⟨log, _, w, h, hlog, hc, rfl, hblind, rfl⟩

end NodeSurvey.Watch
