import Mathlib.Data.List.Induction
import Mathlib.Logic.Function.Iterate
import NodeSurvey.Path.Basic

/-! The clean form of an absolute path is a list of names, and the lineage of a path holds the
beginnings of its steps, which are what is found on the way up from it. Cleaning a path twice is
cleaning it once. -/

namespace NodeSurvey

def PathStep.name? : PathStep → Option String
  | .down n => some n
  | _ => none

namespace Path

def ofNames (names : List String) : Path := ⟨true, names.map .down⟩

def names (p : Path) : List String := p.steps.filterMap PathStep.name?

/-- The components of one path are the first ones of another, and both start at the same place. -/
def LeadsTo (q p : Path) : Prop := q.absolute = p.absolute ∧ q.steps <+: p.steps

instance (q p : Path) : Decidable (q.LeadsTo p) := inferInstanceAs (Decidable (_ ∧ _))

@[simp] theorem length_steps_ofNames (l : List String) : (ofNames l).steps.length = l.length :=
  List.length_map _

@[simp] theorem names_ofNames (l : List String) : (ofNames l).names = l := by
  have hn : (PathStep.name? ∘ PathStep.down) = some := rfl
  rw [names, ofNames, List.filterMap_map, hn, List.filterMap_some]

theorem foldl_cleanStep_down (absolute : Bool) (l : List String) (taken : List PathStep) :
    (l.map .down).foldl (cleanStep absolute) taken = (l.map .down).reverse ++ taken := by
  induction l generalizing taken with
  | nil => rfl
  | cons n l ih =>
    rw [List.map_cons, List.foldl_cons, ih, List.reverse_cons, List.append_assoc]
    rfl

@[simp] theorem clean_ofNames (l : List String) : (ofNames l).clean = ofNames l := by
  rw [clean, ofNames, foldl_cleanStep_down, List.append_nil, List.reverse_reverse]

/-- Below the root a step up either undoes a name or does nothing, so only names are left. -/
theorem exists_foldl_cleanStep (steps : List PathStep) (l : List String) :
    ∃ m : List String, steps.foldl (cleanStep true) (l.map .down) = m.map .down := by
  induction steps generalizing l with
  | nil => exact ⟨l, rfl⟩
  | cons x steps ih =>
    rw [List.foldl_cons]
    cases x with
    | here => exact ih l
    | down n => exact ih (n :: l)
    | up =>
      cases l with
      | nil => exact ih []
      | cons n l => exact ih l

theorem exists_clean_eq_ofNames {p : Path} (hp : p.absolute = true) :
    ∃ l, p.clean = ofNames l := by
  obtain ⟨m, hm⟩ := exists_foldl_cleanStep p.steps []
  refine ⟨m.reverse, ?_⟩
  rw [clean, hp, ofNames, List.map_reverse]
  exact congrArg (fun s => Path.mk true (List.reverse s)) hm

theorem ofNames_names_clean {p : Path} (hp : p.absolute = true) :
    ofNames p.clean.names = p.clean := by
  obtain ⟨l, hl⟩ := exists_clean_eq_ofNames hp
  rw [hl, names_ofNames]

/-- What a clean path goes through is not undone by its own steps, so all of them are kept. -/
theorem foldl_cleanStep_reverse (absolute : Bool) (steps : List PathStep) :
    (steps.foldl (cleanStep absolute) []).reverse.foldl (cleanStep absolute) [] =
      steps.foldl (cleanStep absolute) [] := by
  induction steps using List.reverseRecOn with
  | nil => rfl
  | append_singleton steps x ih =>
    rw [List.foldl_append, List.foldl_cons, List.foldl_nil]
    generalize steps.foldl (cleanStep absolute) [] = taken at ih ⊢
    cases x with
    | here => exact ih
    | down n => simp [cleanStep, ih]
    | up =>
      cases taken with
      | nil => cases absolute <;> rfl
      | cons y r =>
        by_cases hy : ∃ n, y = .down n
        · obtain ⟨n, rfl⟩ := hy
          have hr : PathStep.down n :: r.reverse.foldl (cleanStep absolute) [] = .down n :: r := by
            simpa [cleanStep] using ih
          exact (List.cons.inj hr).2
        · have hup : cleanStep absolute (y :: r) .up =
              if absolute then y :: r else .up :: y :: r := by
            cases y with
            | down n => exact absurd ⟨n, rfl⟩ hy
            | _ => rfl
          rw [hup]
          cases absolute with
          | true => exact ih
          | false =>
            have hback : (PathStep.up :: y :: r).reverse = (y :: r).reverse ++ [.up] := by simp
            simp only [Bool.false_eq_true, if_false]
            rw [hback, List.foldl_append, ih]
            exact hup

@[simp] theorem clean_clean (p : Path) : p.clean.clean = p.clean := by
  have hs := foldl_cleanStep_reverse p.absolute p.steps
  exact congrArg (fun s => Path.mk p.absolute (List.reverse s)) hs

theorem prefix_iff_dropLast {α : Type} {l m : List α} (hm : m ≠ []) :
    l <+: m ↔ l = m ∨ l <+: m.dropLast := by
  have h : l <+: m.dropLast ++ [m.getLast hm] ↔ _ := List.prefix_concat_iff
  rwa [List.dropLast_concat_getLast hm] at h

theorem dropLast_prefix_dropLast {α : Type} {l m : List α} (h : l <+: m) :
    l.dropLast <+: m.dropLast := by
  by_cases hm : m = []
  · subst hm
    obtain rfl := List.prefix_nil.mp h
    exact List.prefix_refl _
  · rcases (prefix_iff_dropLast hm).mp h with rfl | h
    · exact List.prefix_refl _
    · exact (List.dropLast_prefix l).trans h

theorem mem_lineage {p q : Path} : q ∈ p.lineage ↔ q.LeadsTo p := by
  induction p using lineage.induct with
  | case1 p hp =>
    obtain ⟨absolute, steps⟩ := p
    obtain rfl : steps = [] := hp
    rw [lineage, if_pos rfl, List.mem_singleton]
    exact ⟨fun h => h ▸ ⟨rfl, List.prefix_refl _⟩,
      fun h => Path.mk.injEq .. |>.mpr ⟨h.1, List.prefix_nil.mp h.2⟩⟩
  | case2 p hp ih =>
    rw [lineage, if_neg hp, List.mem_cons, ih, LeadsTo, LeadsTo, prefix_iff_dropLast hp,
      and_or_left]
    refine or_congr_left ?_
    exact ⟨fun h => h ▸ ⟨rfl, rfl⟩, fun h => Path.mk.injEq .. |>.mpr h⟩

theorem mem_lineage_iff_iterate {p q : Path} : q ∈ p.lineage ↔ ∃ k, parent^[k] p = q := by
  induction p using lineage.induct with
  | case1 p hp =>
    have hfix : p.parent = p := by
      obtain ⟨absolute, steps⟩ := p
      obtain rfl : steps = [] := hp
      rfl
    rw [lineage, if_pos hp, List.mem_singleton]
    constructor
    · intro h
      exact ⟨0, h.symm⟩
    · rintro ⟨k, rfl⟩
      exact Function.iterate_fixed hfix k
  | case2 p hp ih =>
    rw [lineage, if_neg hp, List.mem_cons, ih]
    constructor
    · rintro (h | ⟨k, hk⟩)
      · exact ⟨0, h.symm⟩
      · exact ⟨k + 1, hk⟩
    · rintro ⟨k, hk⟩
      cases k with
      | zero => exact Or.inl hk.symm
      | succ k => exact Or.inr ⟨k, hk⟩

theorem pairwise_lineage (p : Path) :
    p.lineage.Pairwise fun q r => r.steps.length < q.steps.length := by
  induction p using lineage.induct with
  | case1 p hp =>
    rw [lineage, if_pos hp]
    exact List.pairwise_singleton _ _
  | case2 p hp ih =>
    rw [lineage, if_neg hp, List.pairwise_cons]
    refine ⟨fun q hq => ?_, ih⟩
    have hle := (mem_lineage.mp hq).2.length_le
    have hpos := List.length_pos_iff.mpr hp
    simp only [parent, List.length_dropLast] at hle
    omega

theorem mem_lineage_ofNames {q : Path} {l : List String} :
    q ∈ (ofNames l).lineage ↔ ∃ m, m <+: l ∧ q = ofNames m := by
  rw [mem_lineage]
  constructor
  · rintro ⟨ha, hs⟩
    obtain ⟨m, hm, he⟩ := List.prefix_map_iff.mp hs
    exact ⟨m, hm, Path.mk.injEq .. |>.mpr ⟨ha, he⟩⟩
  · rintro ⟨m, hm, rfl⟩
    exact ⟨rfl, hm.map _⟩

end Path

end NodeSurvey
