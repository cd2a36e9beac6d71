import Mathlib.Data.List.Induction
import NodeSurvey.Proofs.Path.Lineage
import NodeSurvey.Proofs.Text.Split
import NodeSurvey.Watch.Basic

/-! The form of clean paths, as steps and as texts. Steps up stand only in front, never below the
root, and a path below the root leads to the same place whether it is cleaned before or after it is
put there. -/

namespace NodeSurvey.Path

/-- The name of an entry of a directory. -/
structure IsName (n : String) : Prop where
  ne_empty : n ≠ ""
  slash_not_mem : '/' ∉ n.toList
  ne_here : n ≠ "."
  ne_up : n ≠ ".."

/-- The texts of clean paths. -/
inductive CleanText : String → Prop where
  | here : CleanText "."
  | absolute (names : List String) (h : ∀ n ∈ names, IsName n) :
    CleanText ("/" ++ "/".intercalate names)
  | relative (ups : Nat) (names : List String) (h : ∀ n ∈ names, IsName n)
    (hne : ups ≠ 0 ∨ names ≠ []) :
    CleanText ("/".intercalate (List.replicate ups ".." ++ names))

/-! Cleaning below the root. -/

/-- What a relative path does to the steps taken before it is done by its clean form too. -/
theorem foldl_cleanStep_relative (absolute : Bool) (steps before : List PathStep) :
    (steps.foldl (cleanStep false) []).reverse.foldl (cleanStep absolute) before =
      steps.foldl (cleanStep absolute) before := by
  induction steps using List.reverseRecOn with
  | nil => rfl
  | append_singleton steps x ih =>
    rw [List.foldl_append, List.foldl_append, ← ih]
    simp only [List.foldl_cons, List.foldl_nil]
    generalize steps.foldl (cleanStep false) [] = taken
    cases x with
    | here => rfl
    | down n => simp [cleanStep]
    | up => rcases taken with _ | ⟨_ | _ | m, taken⟩ <;> simp [cleanStep]

theorem clean_join_clean {b : Path} (hb : b.absolute = true) (p : Path) :
    (b.join p.clean).clean = (b.join p).clean := by
  have ha : p.clean.absolute = p.absolute := rfl
  cases hp : p.absolute with
  | true => rw [join, join, ha, hp, if_pos rfl, if_pos rfl, clean_clean]
  | false =>
    rw [join, join, ha, hp, if_neg Bool.false_ne_true, if_neg Bool.false_ne_true]
    simp only [clean, hp, hb, List.foldl_append, foldl_cleanStep_relative]

/-! The steps of clean paths. -/

/-- Names are taken behind the steps up that could not be avoided, of which there are none below the
root. -/
theorem exists_foldl_cleanStep_eq (absolute : Bool) (steps : List PathStep) :
    ∃ (names : List String) (ups : Nat), steps.foldl (cleanStep absolute) [] =
        names.map .down ++ List.replicate ups .up ∧
      (absolute = true → ups = 0) ∧ ∀ n ∈ names, .down n ∈ steps := by
  induction steps using List.reverseRecOn with
  | nil => exact ⟨[], 0, rfl, fun _ => rfl, by simp⟩
  | append_singleton steps x ih =>
    obtain ⟨names, ups, hfold, hups, hnames⟩ := ih
    have hkept : ∀ n ∈ names, .down n ∈ steps ++ [x] := fun n hn =>
      List.mem_append_left _ (hnames n hn)
    rw [List.foldl_append, List.foldl_cons, List.foldl_nil, hfold]
    cases x with
    | here => exact ⟨names, ups, rfl, hups, hkept⟩
    | down n => exact ⟨n :: names, ups, rfl, hups, List.forall_mem_cons.mpr ⟨by simp, hkept⟩⟩
    | up =>
      cases names with
      | cons n names => exact ⟨names, ups, rfl, hups, (List.forall_mem_cons.mp hkept).2⟩
      | nil =>
        cases absolute with
        | true =>
          obtain rfl := hups rfl
          exact ⟨[], 0, rfl, fun _ => rfl, by simp⟩
        | false =>
          refine ⟨[], ups + 1, ?_, fun h => Bool.noConfusion h, by simp⟩
          cases ups <;> rfl

theorem exists_clean_eq (p : Path) :
    ∃ (ups : Nat) (names : List String),
      p.clean = ⟨p.absolute, List.replicate ups .up ++ names.map .down⟩ ∧
        (p.absolute = true → ups = 0) ∧ ∀ n ∈ names, .down n ∈ p.steps := by
  obtain ⟨names, ups, hfold, hups, hnames⟩ := exists_foldl_cleanStep_eq p.absolute p.steps
  refine ⟨ups, names.reverse, ?_, hups, fun n hn => hnames n (List.mem_reverse.mp hn)⟩
  rw [clean, hfold, List.reverse_append, List.reverse_replicate, List.map_reverse]

/-! Writing and reading paths. -/

/-- The steps of the path go down by names that an entry can have. -/
def Named (p : Path) : Prop := ∀ n, .down n ∈ p.steps → IsName n

theorem named_ofString (s : String) : (ofString s).Named := by
  intro n hn
  obtain ⟨piece, hp, hstep⟩ := List.mem_map.mp hn
  obtain ⟨hp, hne⟩ := List.mem_filter.mp hp
  rw [PathStep.ofText.eq_def] at hstep
  split at hstep
  · cases hstep
  · cases hstep
  · rename_i hhere hup
    obtain rfl := PathStep.down.inj hstep
    have htext (t : String) : String.ofList piece = t ↔ piece = t.toList := by
      rw [← String.toList_inj, String.toList_ofList]
    constructor
    · rw [Ne, htext]
      rintro rfl
      exact Bool.false_ne_true hne
    · rw [String.toList_ofList]
      exact Text.not_mem_of_mem_split hp
    · exact fun h => hhere ((htext _).mp h)
    · exact fun h => hup ((htext _).mp h)

theorem ofText_text {x : PathStep} (hx : ∀ n, x = .down n → IsName n) :
    PathStep.ofText x.text.toList = x := by
  cases x with
  | here => rfl
  | up => rfl
  | down n =>
    have hn := hx n rfl
    have hhere : n.toList ≠ ['.'] := fun h => hn.ne_here (String.toList_inj.mp h)
    have hup : n.toList ≠ ['.', '.'] := fun h => hn.ne_up (String.toList_inj.mp h)
    rw [PathStep.text, PathStep.ofText.eq_def]
    split
    · rename_i h
      exact absurd h hhere
    · rename_i h
      exact absurd h hup
    · rw [String.ofList_toList]

theorem slash_not_mem_text {x : PathStep} (hx : ∀ n, x = .down n → IsName n) :
    '/' ∉ x.text.toList := by
  cases x with
  | here => decide
  | up => decide
  | down n => exact (hx n rfl).slash_not_mem

theorem text_ne_nil {x : PathStep} (hx : ∀ n, x = .down n → IsName n) : x.text.toList ≠ [] := by
  cases x with
  | here => decide
  | up => decide
  | down n => exact fun h => (hx n rfl).ne_empty (String.toList_inj.mp h)

theorem split_steps {steps : List PathStep} (hs : ∀ n, .down n ∈ steps → IsName n) :
    ((Text.split '/' ("/".intercalate (steps.map PathStep.text)).toList).filter
      (!·.isEmpty)).map PathStep.ofText = steps := by
  have hx : ∀ x ∈ steps, ∀ n, x = .down n → IsName n := fun x hm n h => hs n (h ▸ hm)
  have hpieces : (steps.map PathStep.text).map String.toList =
      steps.map fun x => x.text.toList := by rw [List.map_map]; rfl
  have hslash : "/".toList = ['/'] := rfl
  rw [String.toList_intercalate, hpieces, hslash]
  cases steps with
  | nil => rfl
  | cons x steps =>
    rw [Text.split_intercalate (by simp), List.filter_eq_self.mpr, List.map_map]
    · refine (List.map_congr_left fun y hy => ?_).trans (List.map_id _)
      exact ofText_text (hx y hy)
    · intro p hp
      obtain ⟨y, hy, rfl⟩ := List.mem_map.mp hp
      simpa using text_ne_nil (hx y hy)
    · intro p hp
      obtain ⟨y, hy, rfl⟩ := List.mem_map.mp hp
      exact slash_not_mem_text (hx y hy)

theorem head?_steps {steps : List PathStep} (hs : ∀ n, .down n ∈ steps → IsName n)
    (hne : steps ≠ []) :
    ("/".intercalate (steps.map PathStep.text)).toList.head? ≠ some '/' := by
  obtain ⟨x, r, rfl⟩ := List.exists_cons_of_ne_nil hne
  have hx : ∀ n, x = .down n → IsName n := fun n h => hs n (h ▸ List.mem_cons_self)
  obtain ⟨rest, hrest⟩ : ∃ rest, ("/".intercalate ((x :: r).map PathStep.text)).toList =
      x.text.toList ++ rest := by
    rw [List.map_cons]
    cases r with
    | nil => exact ⟨[], by simp⟩
    | cons y r => exact ⟨_, by rw [List.map_cons, String.intercalate_cons_cons,
        String.append_assoc, String.toList_append]⟩
  obtain ⟨c, cs, hc⟩ := List.exists_cons_of_ne_nil (text_ne_nil hx)
  rw [hrest, hc, List.cons_append, List.head?_cons]
  exact fun h => slash_not_mem_text hx (hc ▸ Option.some.inj h ▸ List.mem_cons_self)

theorem ofString_toString {p : Path} (hp : p.Named) (hne : p.absolute = true ∨ p.steps ≠ []) :
    ofString p.toString = p := by
  obtain ⟨absolute, steps⟩ := p
  have hsteps := split_steps hp
  cases absolute with
  | true =>
    have ht : (toString ⟨true, steps⟩).toList =
        [] ++ '/' :: ("/".intercalate (steps.map PathStep.text)).toList := by
      rw [toString, if_pos rfl, String.toList_append]
      rfl
    rw [ofString, ht, Text.split_append_cons List.not_mem_nil]
    exact Path.mk.injEq .. |>.mpr ⟨rfl, hsteps⟩
  | false =>
    have hs : steps ≠ [] := hne.resolve_left Bool.false_ne_true
    have ht : toString ⟨false, steps⟩ = "/".intercalate (steps.map PathStep.text) := by
      rw [toString, if_neg Bool.false_ne_true, if_neg (by simpa using hs)]
    rw [ofString, ht]
    exact Path.mk.injEq .. |>.mpr ⟨decide_eq_false (head?_steps hp hs), hsteps⟩

theorem named_clean {p : Path} (hp : p.Named) : p.clean.Named := by
  obtain ⟨ups, names, hclean, -, hnames⟩ := p.exists_clean_eq
  intro n hn
  rw [hclean] at hn
  have hmem : n ∈ names := by simpa [List.mem_replicate] using hn
  exact hp n (hnames n hmem)

theorem clean_ofString_toString {p : Path} (hp : p.Named) :
    (ofString p.clean.toString).clean = p.clean := by
  by_cases hne : p.clean.absolute = true ∨ p.clean.steps ≠ []
  · rw [ofString_toString (named_clean hp) hne, clean_clean]
  · obtain ⟨ha, hs⟩ := not_or.mp hne
    have hnowhere : p.clean = ⟨false, []⟩ :=
      Path.mk.injEq .. |>.mpr ⟨Bool.eq_false_iff.mpr ha, not_not.mp hs⟩
    rw [hnowhere]
    decide

theorem cleanText_toString {p : Path} (hp : p.Named) : CleanText p.clean.toString := by
  obtain ⟨ups, names, hclean, hups, hnames⟩ := p.exists_clean_eq
  have hn : ∀ n ∈ names, IsName n := fun n h => hp n (hnames n h)
  have htexts : (List.replicate ups PathStep.up ++ names.map PathStep.down).map PathStep.text =
      List.replicate ups ".." ++ names := by
    rw [List.map_append, List.map_replicate, List.map_map]
    exact congrArg (_ ++ ·) (List.map_id _)
  rw [hclean, toString]
  cases ha : p.absolute with
  | true =>
    obtain rfl := hups ha
    rw [if_pos rfl, htexts]
    exact .absolute names hn
  | false =>
    rw [if_neg Bool.false_ne_true, htexts]
    split
    · exact .here
    · rename_i hne
      refine .relative ups names hn (Classical.not_and_iff_not_or_not.mp fun h => hne ?_)
      simp [h.1, h.2]

/-- The text of the clean form of a path. -/
def cleaned (s : String) : String := (ofString s).clean.toString

/-- The clean form of a path is a normal form: it has the shape of clean texts, it starts where the
path starts, cleaning it again changes nothing, and below the root it stands for the path. -/
theorem clean_normalForm (s : String) :
    cleaned (cleaned s) = cleaned s ∧ CleanText (cleaned s) ∧
      ((cleaned s).toList.head? = some '/' ↔ s.toList.head? = some '/') ∧
      (∀ b : Path, b.absolute = true →
        (b.join (ofString (cleaned s))).clean = (b.join (ofString s)).clean) ∧
      ∀ service w, Watch.Watcher.create service (ofString s).clean = .ok w →
        w.path = (ofString s).clean := by
  have hp : (ofString s).Named := named_ofString s
  have hback : (ofString (cleaned s)).clean = (ofString s).clean := clean_ofString_toString hp
  have habsolute : (ofString (cleaned s)).clean.absolute = (ofString s).clean.absolute :=
    congrArg absolute hback
  refine ⟨congrArg toString hback, cleanText_toString hp, decide_eq_decide.mp habsolute,
    fun b hb => ?_, fun service w hw => ?_⟩
  · rw [← clean_join_clean hb, hback, clean_join_clean hb]
  · cases service with
    | error reason => cases hw
    | ok placeable =>
      simp only [Watch.Watcher.create] at hw
      split at hw
      · cases hw
      · cases hw
        exact (ofString s).clean_clean

/-- A step up that is left over takes away a name of the directory that the path is put into. -/
theorem clean_normalForm_below :
    let b : Path := .ofNames ["etc", "nfd"]
    let p := ofString "conf/.././../site//worker.conf"
    b.absolute = true ∧ cleaned "conf/.././../site//worker.conf" = "../site/worker.conf" ∧
      (b.join (ofString "../site/worker.conf")).clean = (b.join p).clean ∧
      (b.join p).clean.toString = "/etc/site/worker.conf" ∧
      ∃ w, Watch.Watcher.create (.ok fun _ => true) p.clean = .ok w ∧ w.path = p.clean := by
  intro b p
  have ht : cleaned "conf/.././../site//worker.conf" = "../site/worker.conf" := by decide +kernel
  have hw : (Watch.Watcher.create (.ok fun _ => true) p.clean).isOk = true := by decide +kernel
  obtain ⟨-, -, -, hjoin, hpath⟩ := clean_normalForm "conf/.././../site//worker.conf"
  refine ⟨rfl, ht, ?_, by decide +kernel, ?_⟩
  · rw [← ht]
    exact hjoin b rfl
  · cases hc : Watch.Watcher.create (.ok fun _ => true) p.clean with
    | error e =>
      rw [hc] at hw
      cases hw
    | ok w => exact ⟨w, rfl, hpath _ w hc⟩

end NodeSurvey.Path
