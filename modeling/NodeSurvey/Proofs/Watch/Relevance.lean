import NodeSurvey.Proofs.Path.Lineage
import NodeSurvey.Watch.Basic

/-! What a watcher hears. The paths that count for it are the one it was made for and those above,
wherever its watches could be placed and however often it has placed them anew. An event is heard if
it may have changed something and one of its paths leads to the watched one. Paths are compared from
where they start, so a watcher on a relative path hears of no absolute one. -/

namespace NodeSurvey.Watch

theorem EventKind.mayChange_iff {k : EventKind} :
    k.mayChange = true ↔ ∀ a, k = .access a → a = .closed .write := by
  cases k <;> simp [mayChange]

namespace Watcher

inductive Request where
  | handle (e : Event)
  | reset

/-- A request to a watcher, and what there is to watch with meanwhile. -/
structure Call where
  request : Request
  service : Service

def answer (w : Watcher) (c : Call) : Except SetupError Handled :=
  match c.request with
  | .handle e => w.handle c.service e
  | .reset => (create c.service w.path).map .rebuilt

/-- The watcher after a call. If that fails, it keeps the watches that it had. -/
def next (w : Watcher) (c : Call) : Watcher :=
  match w.answer c with
  | .ok (.rebuilt watcher) => watcher
  | _ => w

theorem next_of_error {w : Watcher} {c : Call} {x : SetupError} (h : w.answer c = .error x) :
    w.next c = w := by
  simp [next, h]

def after (w : Watcher) (calls : List Call) : Watcher := calls.foldl next w

theorem create_eq_ok {service : Service} {path : Path} {w : Watcher}
    (h : create service path = .ok w) : ∃ placeable, service = .ok placeable ∧
      w = ⟨path.clean, path.clean.lineage, path.clean.lineage.filter placeable⟩ := by
  cases service with
  | error reason => cases h
  | ok placeable =>
    simp only [create] at h
    split at h
    · cases h
    · cases h
      exact ⟨placeable, rfl, rfl⟩

theorem create_of_placeable {placeable : Path → Bool} {path : Path}
    (h : ∃ q ∈ path.clean.lineage, placeable q = true) :
    create (.ok placeable) path =
      .ok ⟨path.clean, path.clean.lineage, path.clean.lineage.filter placeable⟩ := by
  obtain ⟨q, hq, hp⟩ := h
  have hlive : (path.clean.lineage.filter placeable).isEmpty = false := by
    rw [List.isEmpty_eq_false_iff_exists_mem]
    exact ⟨q, List.mem_filter.mpr ⟨hq, hp⟩⟩
  simp [create, watchPaths, hlive]

theorem isOk_create {placeable : Path → Bool} {path : Path} (h : placeable path.clean = true) :
    (create (.ok placeable) path).isOk = true := by
  have hm : path.clean ∈ path.clean.lineage := Path.mem_lineage.mpr ⟨rfl, List.prefix_refl _⟩
  rw [create_of_placeable ⟨_, hm, h⟩]
  rfl

theorem create_of_unplaceable {placeable : Path → Bool} {path : Path}
    (h : ∀ q ∈ path.clean.lineage, placeable q = false) :
    create (.ok placeable) path = .error (.noWatches path.clean) := by
  have hlive : path.clean.lineage.filter placeable = [] := by
    rw [List.filter_eq_nil_iff]
    intro q hq
    simp [h q hq]
  simp [create, watchPaths, hlive]

@[simp] theorem create_clean (service : Service) (path : Path) :
    create service path.clean = create service path := by
  cases service with
  | error reason => rfl
  | ok placeable => rw [create, create, watchPaths, Path.clean_clean, watchPaths]

/-- Why a path cannot be watched. -/
inductive Unwatchable (service : Service) (path : Path) : SetupError → Prop
  | noService (reason : String) : service = .error reason →
      Unwatchable service path (.noService reason)
  | noWatches (placeable : Path → Bool) : service = .ok placeable →
      (∀ q ∈ watchPaths path, placeable q = false) →
      Unwatchable service path (.noWatches path.clean)

theorem create_eq_error_iff {service : Service} {path : Path} {x : SetupError} :
    create service path = .error x ↔ Unwatchable service path x := by
  constructor
  · intro h
    cases service with
    | error reason =>
      cases h
      exact .noService reason rfl
    | ok placeable =>
      by_cases hp : ∃ q ∈ path.clean.lineage, placeable q = true
      · rw [create_of_placeable hp] at h
        cases h
      · have hnone : ∀ q ∈ path.clean.lineage, placeable q = false := by simpa using hp
        rw [create_of_unplaceable hnone] at h
        cases h
        exact .noWatches placeable rfl hnone
  · rintro (⟨reason, rfl⟩ | ⟨placeable, rfl, hnone⟩)
    · rfl
    · exact create_of_unplaceable hnone

theorem isRelevant_iff {w : Watcher} {p : Path} (hw : w.watched = p.lineage) {e : Event} :
    w.isRelevant e = true ↔ e.kind.mayChange = true ∧ ∃ q ∈ e.paths, q.clean.LeadsTo p := by
  rw [isRelevant, hw, Bool.and_eq_true, List.any_eq_true]
  refine and_congr_right fun _ => exists_congr fun q => and_congr_right fun _ => ?_
  rw [List.contains_iff_mem, Path.mem_lineage]

theorem handle_of_irrelevant {w : Watcher} {e : Event} (h : w.isRelevant e = false)
    (service : Service) : w.handle service e = .ok .irrelevant := by
  simp [handle, h]

theorem handle_of_relevant {w : Watcher} {e : Event} (h : w.isRelevant e = true)
    (service : Service) : w.handle service e = (create service w.path).map .rebuilt := by
  simp [handle, h]

theorem handle_eq_irrelevant_iff {w : Watcher} {e : Event} {service : Service} :
    w.handle service e = .ok .irrelevant ↔ w.isRelevant e = false := by
  constructor
  · intro h
    cases hr : w.isRelevant e with
    | false => rfl
    | true =>
      rw [handle_of_relevant hr] at h
      cases hc : create service w.path <;> simp [hc, Except.map] at h
  · intro h
    exact handle_of_irrelevant h service

theorem handle_eq_error_iff {w : Watcher} {e : Event} {service : Service} {x : SetupError} :
    w.handle service e = .error x ↔
      w.isRelevant e = true ∧ Unwatchable service w.path x := by
  rw [← create_eq_error_iff]
  cases hr : w.isRelevant e with
  | false => simp [handle_of_irrelevant hr]
  | true =>
    rw [handle_of_relevant hr]
    cases hc : create service w.path <;> simp [Except.map]

theorem create_of_answer {w watcher : Watcher} {c : Call}
    (h : w.answer c = .ok (.rebuilt watcher)) : create c.service w.path = .ok watcher := by
  have hmap : (create c.service w.path).map Handled.rebuilt = .ok (.rebuilt watcher) := by
    rw [answer] at h
    split at h
    · rename_i e _
      cases hr : w.isRelevant e with
      | true => rwa [handle_of_relevant hr] at h
      | false =>
        rw [handle_of_irrelevant hr] at h
        cases h
    · exact h
  cases hc : create c.service w.path with
  | error x =>
    rw [hc] at hmap
    cases hmap
  | ok made =>
    rw [hc] at hmap
    cases hmap
    rfl

/-- The watcher was made for a path: its own path is the clean one, and all that is found on the way
up from there counts, be there a watch or not. -/
structure Heeds (w : Watcher) (path : Path) : Prop where
  own : w.path = path.clean
  watched : w.watched = path.clean.lineage

variable {w : Watcher} {path : Path}

theorem heeds_create {service : Service} (h : create service path = .ok w) : w.Heeds path := by
  obtain ⟨placeable, -, rfl⟩ := create_eq_ok h
  exact ⟨rfl, rfl⟩

theorem Heeds.create_eq (h : w.Heeds path) (service : Service) :
    create service w.path = create service path := by
  rw [h.own, create_clean]

theorem Heeds.rebuilt (h : w.Heeds path) {service : Service} {watcher : Watcher}
    (hc : create service w.path = .ok watcher) : watcher.Heeds path :=
  heeds_create ((h.create_eq service).symm.trans hc)

theorem Heeds.next (h : w.Heeds path) (c : Call) : (w.next c).Heeds path := by
  rw [Watcher.next]
  split
  · rename_i watcher ha
    exact h.rebuilt (create_of_answer ha)
  · exact h

theorem Heeds.after (h : w.Heeds path) (calls : List Call) : (w.after calls).Heeds path := by
  induction calls generalizing w with
  | nil => exact h
  | cons c calls ih => exact ih (h.next c)

theorem Heeds.isRelevant_iff (h : w.Heeds path) {e : Event} :
    w.isRelevant e = true ↔
      e.kind.mayChange = true ∧ ∃ q ∈ e.paths, q.clean.LeadsTo path.clean :=
  Watcher.isRelevant_iff h.watched

theorem Heeds.handle_of_placeable (h : w.Heeds path) {e : Event} (he : w.isRelevant e = true)
    {placeable : Path → Bool} (hp : ∃ q ∈ w.watched, placeable q = true) :
    w.handle (.ok placeable) e =
      .ok (.rebuilt { w with live := w.watched.filter placeable }) := by
  have hq : ∃ q ∈ w.path.clean.lineage, placeable q = true := by
    rw [h.own, Path.clean_clean, ← h.watched]
    exact hp
  rw [handle_of_relevant he, create_of_placeable hq, h.own, h.watched, Path.clean_clean]
  rfl

theorem Heeds.handle_of_unplaceable (h : w.Heeds path) {e : Event} (he : w.isRelevant e = true)
    {placeable : Path → Bool} (hp : ∀ q ∈ w.watched, placeable q = false) :
    w.handle (.ok placeable) e = .error (.noWatches path.clean) := by
  have hclean : w.path.clean = path.clean := by rw [h.own, Path.clean_clean]
  have hnone : ∀ q ∈ watchPaths w.path, placeable q = false := by
    rw [watchPaths, hclean, ← h.watched]
    exact hp
  have hx := Unwatchable.noWatches placeable rfl hnone
  rw [hclean] at hx
  exact handle_eq_error_iff.mpr ⟨he, hx⟩

theorem Heeds.not_isRelevant (h : w.Heeds path) (hpath : path.absolute = false) {e : Event}
    (he : ∀ q ∈ e.paths, q.absolute = true) : w.isRelevant e = false := by
  rw [Bool.eq_false_iff]
  intro hr
  obtain ⟨_, q, hq, hstart, _⟩ := h.isRelevant_iff.mp hr
  have hsame : q.absolute = path.absolute := hstart
  rw [he q hq, hpath] at hsame
  cases hsame

end Watcher

/-- A watcher on an absolute path, whatever it was asked to do and wherever its watches could be
placed. Its paths are the clean one and those above it up to the root; it hears the events that may
have changed something on one of them, and no others. An event that it hears makes it place its
watches anew, and if there is no watching or no watch can be placed then it stays as it was. -/
theorem watcher_lawful {path : Path} (habs : path.absolute = true) {placed : Service}
    {start : Watcher} (hc : Watcher.create placed path = .ok start) (calls : List Watcher.Call) :
    let w := start.after calls
    (∀ q, q ∈ w.watched ↔ ∃ k, Path.parent^[k] path.clean = q) ∧
    Path.ofNames [] ∈ w.watched ∧
    (∀ e, w.isRelevant e = true ↔
      (∀ a, e.kind = .access a → a = .closed .write) ∧
      ∃ q ∈ e.paths, q.clean.LeadsTo path.clean) ∧
    ∀ e,
      (∀ service, w.handle service e = .ok .irrelevant ↔ w.isRelevant e = false) ∧
      (w.isRelevant e = true → ∀ placeable, (∃ q ∈ w.watched, placeable q = true) →
        w.handle (.ok placeable) e =
          .ok (.rebuilt { w with live := w.watched.filter placeable })) ∧
      (w.isRelevant e = true → ∀ placeable, (∀ q ∈ w.watched, placeable q = false) →
        w.handle (.ok placeable) e = .error (.noWatches path.clean) ∧
          w.next ⟨.handle e, .ok placeable⟩ = w) ∧
      (w.isRelevant e = true → ∀ reason,
        w.handle (.error reason) e = .error (.noService reason) ∧
          w.next ⟨.handle e, .error reason⟩ = w) := by
  intro w
  have hw : w.Heeds path := (Watcher.heeds_create hc).after calls
  refine ⟨fun q => ?_, ?_, fun e => ?_, fun e => ⟨?_, ?_, ?_, ?_⟩⟩
  · rw [hw.watched]
    exact Path.mem_lineage_iff_iterate
  · rw [hw.watched, Path.mem_lineage]
    exact ⟨habs.symm, List.nil_prefix⟩
  · rw [hw.isRelevant_iff, EventKind.mayChange_iff]
  · exact fun service => Watcher.handle_eq_irrelevant_iff
  · intro he placeable hp
    exact hw.handle_of_placeable he hp
  · intro he placeable hp
    have hh := hw.handle_of_unplaceable he hp
    exact ⟨hh, Watcher.next_of_error hh⟩
  · intro he reason
    have hh := Watcher.handle_eq_error_iff.mpr ⟨he, .noService reason rfl⟩
    exact ⟨hh, Watcher.next_of_error hh⟩

/-- A path with steps that undo each other, a rebuild that fails and one that does not. A name that
only begins like one on the way does not count. -/
theorem watcher_lawful_sibling :
    let path := Path.ofString "/etc//x/../nfd/./worker.conf"
    let folder : Event := ⟨.access (.closed .write), [.ofString "/etc/./nfd/"]⟩
    let sibling : Event := ⟨.created .file, [.ofString "/etc/nf"]⟩
    let calls : List Watcher.Call :=
      [⟨.reset, .error "too many watchers"⟩, ⟨.handle folder, .ok fun _ => true⟩]
    path.absolute = true ∧
      ∃ start, Watcher.create (.ok fun q => q = .ofNames []) path = .ok start ∧
        (start.after calls).isRelevant folder = true ∧
        (start.after calls).isRelevant sibling = false ∧
        (start.after calls).handle (.ok fun _ => false) folder =
          .error (.noWatches path.clean) := by
  intro path folder sibling calls
  have habs : path.absolute = true := by decide +kernel
  have hroot : ∃ q ∈ path.clean.lineage, (fun q => decide (q = Path.ofNames [])) q = true :=
    ⟨.ofNames [], by decide +kernel, by decide +kernel⟩
  have hc := Watcher.create_of_placeable hroot
  obtain ⟨_, _, hrel, hhandle⟩ := watcher_lawful habs hc calls
  have hfolder := (hrel folder).mpr ⟨by simp [folder], _, List.mem_cons_self, by decide +kernel⟩
  refine ⟨habs, _, hc, hfolder, ?_, ?_⟩
  · rw [Bool.eq_false_iff]
    intro hs
    obtain ⟨_, q, hq, hl⟩ := (hrel sibling).mp hs
    obtain rfl := List.mem_singleton.mp hq
    exact absurd hl (by decide +kernel)
  · obtain ⟨-, -, hnone, -⟩ := hhandle folder
    exact (hnone hfolder (fun _ => false) fun _ _ => rfl).1

/-- A watcher on a relative path hears of a change where one of the paths told leads to it from
where it starts. So it hears of none that is told by absolute paths alone, be they those of the
watched file in any directory, while a watcher on the joined path hears of all of these. -/
theorem watcher_relativePath {path : Path} (hpath : path.absolute = false) {placed : Service}
    {start : Watcher} (hc : Watcher.create placed path = .ok start) (calls : List Watcher.Call) :
    let w := start.after calls
    (∀ e, w.isRelevant e = true ↔
      e.kind.mayChange = true ∧
      ∃ q ∈ e.paths, q.absolute = false ∧ q.clean.steps <+: path.clean.steps) ∧
    (∀ e, (∀ q ∈ e.paths, q.absolute = true) →
      w.isRelevant e = false ∧ ∀ service, w.handle service e = .ok .irrelevant) ∧
    ∀ directory : Path, directory.absolute = true → ∀ placed joined,
      Watcher.create placed (directory.join path) = .ok joined → ∀ e, e.kind.mayChange = true →
      (∃ q ∈ e.paths, q.absolute = true ∧ q.clean = (directory.join path).clean) →
      joined.isRelevant e = true := by
  intro w
  have hw : w.Heeds path := (Watcher.heeds_create hc).after calls
  refine ⟨fun e => ?_, fun e he => ?_, ?_⟩
  · rw [hw.isRelevant_iff]
    refine and_congr_right fun _ => exists_congr fun q => and_congr_right fun _ => ?_
    exact and_congr_left fun _ => ⟨fun h => h.trans hpath, fun h => h.trans hpath.symm⟩
  · have hr := hw.not_isRelevant hpath he
    exact ⟨hr, Watcher.handle_of_irrelevant hr⟩
  · intro directory _ placed joined hj e he hq
    obtain ⟨q, hm, _, hq⟩ := hq
    refine (Watcher.heeds_create hj).isRelevant_iff.mpr ⟨he, q, hm, ?_⟩
    rw [hq]
    exact ⟨rfl, List.prefix_refl _⟩

/-- The directory of a file is told of by its relative and by its absolute path. -/
theorem watcher_relativePath_folder :
    let path := Path.ofString "./conf/worker.conf"
    let near : Event := ⟨.created .folder, [.ofString "conf/x/.."]⟩
    let far : Event := ⟨.created .folder, [.ofString "/work/conf"]⟩
    let calls : List Watcher.Call := [⟨.reset, .ok fun _ => false⟩]
    path.absolute = false ∧ ∃ start, Watcher.create (.ok fun q => q = path.clean) path = .ok start ∧
      (start.after calls).isRelevant near = true ∧
      (start.after calls).handle (.ok fun _ => true) far = .ok .irrelevant := by
  intro path near far calls
  have hpath : path.absolute = false := by decide +kernel
  have hplaced : ∃ q ∈ path.clean.lineage, (fun q => decide (q = path.clean)) q = true :=
    ⟨path.clean, Path.mem_lineage.mpr ⟨rfl, List.prefix_refl _⟩, by simp⟩
  have hc := Watcher.create_of_placeable hplaced
  obtain ⟨hnear, hfar, _⟩ := watcher_relativePath hpath hc calls
  have hfolder : ∃ q ∈ near.paths, q.absolute = false ∧ q.clean.steps <+: path.clean.steps :=
    ⟨_, List.mem_cons_self, by decide +kernel, by decide +kernel⟩
  have habs : ∀ q ∈ far.paths, q.absolute = true := by decide +kernel
  exact ⟨hpath, _, hc, (hnear near).mpr ⟨rfl, hfolder⟩, (hfar far habs).2 _⟩

/-- The watched file is written to, and the watcher does not hear of it. -/
theorem watcher_relativePath_unheard :
    ¬ ∀ (path directory : Path) (placed : Service) (w : Watcher) (e : Event),
      path.absolute = false → directory.absolute = true →
      Watcher.create placed path = .ok w → e.kind.mayChange = true →
      (∃ q ∈ e.paths, q.absolute = true ∧ q.clean = (directory.join path).clean) →
      w.isRelevant e = true := by
  intro hall
  let path := Path.ofString "conf/worker.conf"
  let e : Event := ⟨.modified .data, [.ofString "/work/conf/worker.conf"]⟩
  have hpath : path.absolute = false := by decide +kernel
  have habs : (Path.ofString "/work/conf/worker.conf").absolute = true := by decide +kernel
  have hplaced : ∃ q ∈ path.clean.lineage, (fun _ : Path => true) q = true :=
    ⟨path.clean, Path.mem_lineage.mpr ⟨rfl, List.prefix_refl _⟩, rfl⟩
  have hc := Watcher.create_of_placeable hplaced
  have he := hall path (.ofString "/work") _ _ e hpath (by decide +kernel) hc rfl
    ⟨_, List.mem_cons_self, habs, by decide +kernel⟩
  have hpaths : ∀ q ∈ e.paths, q.absolute = true := fun q hq => List.mem_singleton.mp hq ▸ habs
  have hdeaf := (Watcher.heeds_create hc).not_isRelevant hpath hpaths
  rw [hdeaf] at he
  cases he

end NodeSurvey.Watch
