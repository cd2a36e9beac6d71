import NodeSurvey.Proofs.Yaml.Keys
import NodeSurvey.Yaml.Document

/-! No mapping of a document has a key twice, whatever its aliases stand for. -/

namespace NodeSurvey.Yaml.Document

/-- Whatever an action gives has a property. -/
def Gives {α : Type} (act : Action α) (P : α → Prop) : Prop :=
  ∀ anchored left a left', (act.run anchored).run left = some (a, left') → P a

namespace Gives

variable {α β : Type} {P : α → Prop} {Q : β → Prop}

theorem pure {a : α} (h : P a) : Gives (pure a) P := by
  intro anchored left a' left' he
  cases he
  exact h

theorem trivial (act : Action α) : Gives act fun _ => True := fun _ _ _ _ _ => True.intro

theorem failure : Gives failure P := by
  intro anchored left a left' he
  cases he

theorem lift {o : Option α} (h : ∀ a, o = some a → P a) : Gives (o : Action α) P := by
  intro anchored left a left' he
  cases o with
  | none => cases he
  | some b =>
    cases he
    exact h a rfl

theorem bind {act : Action α} {next : α → Action β} (ha : Gives act P)
    (hn : ∀ a, P a → Gives (next a) Q) : Gives (act >>= next) Q := by
  intro anchored left b left' he
  simp only [ReaderT.run_bind, StateT.run_bind, Option.bind_eq_bind, Option.bind_eq_some_iff] at he
  obtain ⟨⟨a, middle⟩, hact, hnext⟩ := he
  exact hn a (ha _ _ _ _ hact) _ _ _ _ hnext

theorem mapM {f : α → Action β} (h : ∀ a, Gives (f a) Q) (l : List α) :
    Gives (l.mapM f) fun bs => ∀ b ∈ bs, Q b := by
  induction l with
  | nil => exact .pure (by simp)
  | cons a l ih =>
    rw [List.mapM_cons]
    exact .bind (h a) fun b hb => .bind ih fun bs hbs => .pure (List.forall_mem_cons.mpr ⟨hb, hbs⟩)

theorem foldlM {f : β → α → Action β} (h : ∀ b a, Q b → Gives (f b a) Q) (l : List α) {b : β}
    (hb : Q b) : Gives (l.foldlM f b) Q := by
  induction l generalizing b with
  | nil => exact .pure hb
  | cons a l ih =>
    rw [List.foldlM_cons]
    exact .bind (h b a hb) fun b' hb' => ih hb'

end Gives

theorem proper_wrap (tag : Option Tag) {v : Value} (h : v.Proper) : (wrap tag v).Proper := by
  unfold wrap
  split
  · exact .tagged _ h
  · exact h

theorem proper_of_plain? {s : String} {v : Value} (h : Scalar.plain? s = some v) : v.Proper := by
  unfold Scalar.plain? at h
  split at h
  · cases h
    exact .null
  split at h
  · cases h
    exact .bool _
  split at h
  · cases h
    exact .int _
  · cases h
  · split at h
    · cases h
      exact .float _
    · cases h
      exact .string s

theorem proper_of_untagged? {plain : Bool} {s : String} {v : Value}
    (h : Scalar.untagged? plain s = some v) : v.Proper := by
  unfold Scalar.untagged? at h
  split at h
  · exact proper_of_plain? h
  · cases h
    exact .string s

theorem proper_of_typed? {type : CoreType} {s : String} {v : Value}
    (h : Scalar.typed? type s = some v) : v.Proper := by
  cases type with
  | bool =>
    obtain ⟨b, -, rfl⟩ := Option.map_eq_some_iff.mp h
    exact .bool b
  | int =>
    simp only [Scalar.typed?] at h
    split at h <;> cases h
    exact .int _
  | float =>
    obtain ⟨x, -, rfl⟩ := Option.map_eq_some_iff.mp h
    exact .float x
  | null =>
    simp only [Scalar.typed?] at h
    split at h <;> cases h
    exact .null

theorem proper_of_scalar {tag : Option Tag} {plain : Bool} {s : String} {v : Value}
    (h : Scalar.value? tag plain s = some v) : v.Proper := by
  unfold Scalar.value? at h
  split at h
  · exact proper_of_untagged? h
  · obtain ⟨w, hw, rfl⟩ := Option.map_eq_some_iff.mp h
    exact .tagged _ (proper_of_untagged? hw)
  · exact proper_of_typed? h
  · exact proper_of_untagged? h
  · cases h
    exact .string s

theorem proper_of_addEntry {entries added : List (Value × Value)} {k v : Value}
    (h : addEntry entries k v = some added) (he : (Value.mapping entries).Proper) (hk : k.Proper)
    (hv : v.Proper) : (Value.mapping added).Proper := by
  unfold addEntry at h
  split at h
  · cases h
  · rename_i hnone
    obtain rfl := Option.some.inj h
    rw [Bool.not_eq_true, Option.isSome_eq_false_iff, Option.isNone_iff_eq_none,
      Value.lookup_eq_none_iff] at hnone
    refine .mapping ?_ ?_ ?_
    · refine List.pairwise_append.mpr ⟨he.distinct.pairwise, List.pairwise_singleton _ _, ?_⟩
      simpa using hnone
    · exact List.forall_mem_append.mpr ⟨he.distinct.proper, by simpa using hk⟩
    · exact List.forall_mem_append.mpr ⟨he.value, by simpa using hv⟩

theorem gives_valueOf (depth : Nat) (node : Node) : Gives (valueOf depth node) Value.Proper := by
  induction depth generalizing node with
  | zero =>
    rw [valueOf]
    refine .bind (.trivial _) fun node _ => ?_
    split
    · exact .lift fun v => proper_of_scalar
    · exact .failure
  | succ depth ih =>
    rw [valueOf]
    refine .bind (.trivial _) fun node _ => ?_
    split
    · exact .failure
    · exact .lift fun v => proper_of_scalar
    · exact .bind (.mapM ih _) fun items hitems => .pure (proper_wrap _ (.sequence hitems))
    · refine .bind (.foldlM (Q := fun entries => (Value.mapping entries).Proper) ?_ _ ?_)
        fun entries he => .pure (proper_wrap _ he)
      · intro entries e he
        exact .bind (ih e.1) fun k hk => .bind (ih e.2) fun v hv =>
          .lift fun added hadd => proper_of_addEntry hadd he hk hv
      · exact .mapping .nil nofun nofun

theorem proper_of_parse? {s : String} {v : Value} (h : parse? s = some v) : v.Proper := by
  unfold parse? at h
  simp only [Option.bind_eq_bind, Option.bind_eq_some_iff] at h
  obtain ⟨tokens, -, root, -, h⟩ := h
  cases root with
  | none =>
    cases h
    exact .null
  | some root =>
    simp only [Option.bind_eq_some_iff] at h
    obtain ⟨⟨v', left⟩, hv, he⟩ := h
    cases he
    exact gives_valueOf _ _ _ _ _ _ hv

end NodeSurvey.Yaml.Document
