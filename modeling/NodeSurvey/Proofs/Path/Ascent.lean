import Mathlib.Data.List.Nodup
import NodeSurvey.Proofs.Path.CleanForm

/-! Going up from a path. The way passes every directory above it once and ends at the first one
that holds itself, and the texts of the paths on it tell them apart as well. -/

namespace NodeSurvey.Path

/-- The loop that goes up. It notes every path that it comes to, and ends at one that holds
itself. -/
inductive Ascent : Path → List Path → Prop where
  | top {p : Path} (hp : p.parent = p) : Ascent p [p]
  | up {p : Path} {above : List Path} (hp : p.parent ≠ p) (h : Ascent p.parent above) :
      Ascent p (p :: above)

/-- The parts of a path as it is written: the root if it starts there, and the steps. A path that
goes nowhere is written as a point. -/
def components (p : Path) : List String :=
  if p.absolute then "/" :: p.steps.map PathStep.text
  else if p.steps = [] then ["."]
  else p.steps.map PathStep.text

theorem length_steps_le_components (p : Path) : p.steps.length ≤ p.components.length := by
  rw [components]
  split
  · simp
  · split
    · simp_all
    · simp

theorem parent_eq_self_iff {p : Path} : p.parent = p ↔ p.steps = [] := by
  constructor
  · intro h
    have hlen := congrArg (fun q => q.steps.length) h
    simp only [parent, List.length_dropLast] at hlen
    exact List.length_eq_zero_iff.mp (by omega)
  · intro h
    obtain ⟨absolute, steps⟩ := p
    obtain rfl : steps = [] := h
    rfl

theorem ascent_lineage (p : Path) : Ascent p p.lineage := by
  induction p using lineage.induct with
  | case1 p hp =>
    rw [lineage, if_pos hp]
    exact .top (parent_eq_self_iff.mpr hp)
  | case2 p hp ih =>
    rw [lineage, if_neg hp]
    exact .up (mt parent_eq_self_iff.mp hp) ih

namespace Ascent

variable {p : Path} {paths : List Path}

/-- The loop has no choice. -/
theorem eq_lineage (h : Ascent p paths) : paths = p.lineage := by
  induction h with
  | top hp => rw [lineage, if_pos (parent_eq_self_iff.mp hp)]
  | up hp _ ih => rw [lineage, if_neg (mt parent_eq_self_iff.mpr hp), ih]

theorem head?_eq (h : Ascent p paths) : paths.head? = some p := by
  cases h <;> rfl

theorem isChain (h : Ascent p paths) : paths.IsChain fun q r => r = q.parent := by
  induction h with
  | top _ => exact .singleton _
  | @up p above _ h ih =>
    obtain ⟨rest, rfl⟩ := List.head?_eq_some_iff.mp h.head?_eq
    exact .cons_cons rfl ih

theorem exists_top (h : Ascent p paths) :
    ∃ below, paths = below ++ [⟨p.absolute, []⟩] ∧ ∀ q ∈ below, q.parent ≠ q := by
  induction h with
  | @top p hp =>
    obtain ⟨absolute, steps⟩ := p
    obtain rfl : steps = [] := parent_eq_self_iff.mp hp
    exact ⟨[], rfl, by simp⟩
  | @up p above hp _ ih =>
    obtain ⟨below, rfl, hbelow⟩ := ih
    exact ⟨p :: below, rfl, List.forall_mem_cons.mpr ⟨hp, hbelow⟩⟩

theorem length_eq (h : Ascent p paths) : paths.length = p.steps.length + 1 := by
  induction h with
  | top hp => rw [parent_eq_self_iff.mp hp]; rfl
  | @up p above hp _ ih =>
    have hpos := List.length_pos_iff.mpr (mt parent_eq_self_iff.mpr hp)
    rw [List.length_cons, ih, parent, List.length_dropLast]
    omega

end Ascent

theorem nodup_lineage (p : Path) : p.lineage.Nodup :=
  p.pairwise_lineage.imp fun h e => by simp [e] at h

/-! The texts of the paths on the way. -/

theorem cleanStep_cases (absolute : Bool) (taken : List PathStep) (x : PathStep) :
    cleanStep absolute taken x = taken ∨ cleanStep absolute taken x = x :: taken ∨
      ∃ y, taken = y :: cleanStep absolute taken x := by
  cases x with
  | here => exact .inl rfl
  | down n => exact .inr (.inl rfl)
  | up =>
    rcases taken with _ | ⟨_ | _ | n, taken⟩ <;> cases absolute <;> simp [cleanStep]

theorem length_foldl_cleanStep_le (absolute : Bool) (steps : List PathStep) :
    (steps.foldl (cleanStep absolute) []).length ≤ steps.length := by
  induction steps using List.reverseRecOn with
  | nil => exact le_rfl
  | append_singleton steps x ih =>
    rw [List.foldl_append, List.foldl_cons, List.foldl_nil, List.length_append,
      List.length_singleton]
    generalize steps.foldl (cleanStep absolute) [] = taken at ih ⊢
    rcases cleanStep_cases absolute taken x with h | h | ⟨y, h⟩
    · rw [h]
      omega
    · rw [h, List.length_cons]
      omega
    · have hlen := congrArg List.length h
      rw [List.length_cons] at hlen
      omega

/-- Cleaning adds at most a step at a time, so a path of which it keeps every step keeps them from
the beginning on. -/
theorem clean_parent {p : Path} (hp : p.clean = p) : p.parent.clean = p.parent := by
  obtain ⟨absolute, steps⟩ := p
  cases steps using List.reverseRecOn with
  | nil => rfl
  | append_singleton before x =>
    have hle := length_foldl_cleanStep_le absolute before
    have hfold : cleanStep absolute (before.foldl (cleanStep absolute) []) x =
        x :: before.reverse := by
      simpa [clean] using congrArg (fun q => q.steps.reverse) hp
    have hbefore : before.foldl (cleanStep absolute) [] = before.reverse := by
      generalize before.foldl (cleanStep absolute) [] = taken at hle hfold ⊢
      rcases cleanStep_cases absolute taken x with h | h | ⟨y, h⟩
      · rw [← h, hfold, List.length_cons, List.length_reverse] at hle
        omega
      · exact (List.cons.inj (h.symm.trans hfold)).2
      · rw [h, hfold, List.length_cons, List.length_cons, List.length_reverse] at hle
        omega
    simp only [parent, List.dropLast_concat, clean, hbefore, List.reverse_reverse]

theorem clean_of_mem_lineage {p q : Path} (hp : p.clean = p) (hq : q ∈ p.lineage) :
    q.clean = q := by
  induction p using lineage.induct with
  | case1 p hs =>
    rw [lineage, if_pos hs, List.mem_singleton] at hq
    rw [hq, hp]
  | case2 p hs ih =>
    rw [lineage, if_neg hs, List.mem_cons] at hq
    rcases hq with rfl | hq
    · exact hp
    · exact ih (clean_parent hp) hq

theorem Named.of_mem_lineage {p q : Path} (hp : p.Named) (hq : q ∈ p.lineage) : q.Named :=
  fun n hn => hp n ((mem_lineage.mp hq).2.subset hn)

theorem toString_inj_of_clean {p q : Path} (hp : p.Named) (hq : q.Named) (hpc : p.clean = p)
    (hqc : q.clean = q) (h : p.toString = q.toString) : p = q := by
  have hback : (ofString p.toString).clean = (ofString q.toString).clean :=
    congrArg (fun s => (ofString s).clean) h
  have hp' := clean_ofString_toString hp
  have hq' := clean_ofString_toString hq
  rw [hpc] at hp'
  rw [hqc] at hq'
  rw [← hp', ← hq', hback]

theorem nodup_texts_lineage {p : Path} (hn : p.Named) (hp : p.clean = p) :
    (p.lineage.map toString).Nodup :=
  p.nodup_lineage.map_on fun _ hq _ hr =>
    toString_inj_of_clean (hn.of_mem_lineage hq) (hn.of_mem_lineage hr)
      (clean_of_mem_lineage hp hq) (clean_of_mem_lineage hp hr)

/-- Going up from a path ends, in one way. It starts at the clean path, goes from every path to the
one that holds it, passes none twice, not even as a text, and ends at the first that holds itself:
the root, or where the process stands. -/
theorem watchPaths_ascent (s : String) :
    (∀ noted, Ascent (ofString s).clean noted ↔ noted = Watch.watchPaths (ofString s)) ∧
      (Watch.watchPaths (ofString s)).head? = some (ofString s).clean ∧
      ((Watch.watchPaths (ofString s)).IsChain fun q r => r = q.parent) ∧
      ((Watch.watchPaths (ofString s)).map toString).Nodup ∧
      (∃ below top, Watch.watchPaths (ofString s) = below ++ [top] ∧ top.parent = top ∧
        (∀ q ∈ below, q.parent ≠ q) ∧
        top.toString = if (ofString s).absolute then "/" else ".") ∧
      (Watch.watchPaths (ofString s)).length ≤ (ofString s).clean.components.length + 1 := by
  have hclimb : Ascent (ofString s).clean (Watch.watchPaths (ofString s)) := ascent_lineage _
  refine ⟨fun noted => ⟨Ascent.eq_lineage, fun h => h ▸ hclimb⟩, hclimb.head?_eq, hclimb.isChain,
    nodup_texts_lineage (named_clean (named_ofString s)) (clean_clean _), ?_, ?_⟩
  · obtain ⟨below, hpaths, hbelow⟩ := hclimb.exists_top
    refine ⟨below, _, hpaths, rfl, hbelow, ?_⟩
    have habsolute : (ofString s).clean.absolute = (ofString s).absolute := rfl
    rw [habsolute, toString]
    cases (ofString s).absolute <;> rfl
  · rw [hclimb.length_eq]
    exact Nat.add_le_add_right (length_steps_le_components _) 1

/-- A relative path also passes the steps up that it starts with, and ends where the process
stands. -/
theorem watchPaths_ascent_up :
    let p := ofString "conf/../../../site/./worker.conf"
    let paths := Watch.watchPaths p
    paths.map toString = ["../../site/worker.conf", "../../site", "../..", "..", "."] ∧
      Ascent p.clean paths ∧ ¬ Ascent p.clean (paths.dropLast) ∧
      (paths.map toString).Nodup ∧ paths.length = p.clean.components.length + 1 := by
  intro p paths
  have hne : paths.dropLast ≠ paths := by decide +kernel
  obtain ⟨hclimb, -, -, hnodup, -, -⟩ := watchPaths_ascent "conf/../../../site/./worker.conf"
  exact ⟨by decide +kernel, (hclimb _).mpr rfl, fun h => hne ((hclimb _).mp h), hnodup,
    by decide +kernel⟩

end NodeSurvey.Path
