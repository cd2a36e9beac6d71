import NodeSurvey.Proofs.Dict
import NodeSurvey.Proofs.Yaml.Merge
import NodeSurvey.Settings.Basic

/-! Mappings whose keys are plain texts, each once. A merge of two of them is one again, and what it
holds under a name is decided by what the two hold there. -/

namespace NodeSurvey.Settings

open Yaml Yaml.Value

def updateNamed (f : Value → Value) (name : String) (patch : Value) :
    List (String × Value) → List (String × Value)
  | [] => if patch.isNull then [] else [(name, patch)]
  | (k, v) :: r => if k = name then (k, f v) :: r else (k, v) :: updateNamed f name patch r

def mergeNamed (base : List (String × Value)) : List (String × Value) → List (String × Value)
  | [] => base
  | (k, v) :: r => mergeNamed (updateNamed (fun old => old.merge v) k v base) r

theorem update_string (f : Value → Value) (name : String) (patch : Value)
    (l : List (String × Value)) :
    Value.update f (.string name) patch (l.map fun e => (.string e.1, e.2)) =
      (updateNamed f name patch l).map fun e => (.string e.1, e.2) := by
  induction l with
  | nil =>
    simp only [List.map_nil, Value.update, updateNamed]
    split <;> rfl
  | cons e l ih =>
    simp only [List.map_cons, Value.update, Value.same, decide_eq_true_eq, updateNamed]
    split
    · rfl
    · rw [ih, List.map_cons]

theorem merge_encodeFields (base patch : List (String × Value)) :
    (encodeFields base).merge (encodeFields patch) = encodeFields (mergeNamed base patch) := by
  simp only [encodeFields, Value.merge]
  induction patch generalizing base with
  | nil => rfl
  | cons e patch ih => rw [List.map_cons, Value.mergeEntries, update_string, ih, mergeNamed]

theorem find_updateNamed (f : Value → Value) (k name : String) (patch : Value)
    (l : List (String × Value)) :
    Dict.find name (updateNamed f k patch l) =
      if name = k then
        ((Dict.find k l).map f).or (if patch.isNull then none else some patch)
      else Dict.find name l := by
  induction l with
  | nil =>
    by_cases hp : patch.isNull <;> by_cases hk : name = k <;>
      simp [updateNamed, Dict.find, hp, hk]
  | cons e l ih =>
    by_cases he : e.1 = k
    · by_cases hk : name = k
      · simp [updateNamed, Dict.find, he, hk]
      · simp [updateNamed, Dict.find, he, hk]
    · by_cases hk : name = k
      · subst hk
        simp [updateNamed, Dict.find, he, Ne.symm he, ih]
      · simp [updateNamed, Dict.find, he, hk, ih]

theorem mem_names_updateNamed {f : Value → Value} {k name : String} {patch : Value}
    {l : List (String × Value)} (h : name ∈ (updateNamed f k patch l).map Prod.fst) :
    name = k ∨ name ∈ l.map Prod.fst := by
  induction l with
  | nil =>
    rw [updateNamed] at h
    split at h
    · simp at h
    · exact .inl (by simpa using h)
  | cons e l ih =>
    rw [updateNamed] at h
    split at h
    · exact .inr h
    · rcases List.mem_cons.mp h with rfl | h
      · exact .inr List.mem_cons_self
      · exact (ih h).imp_right (List.mem_cons_of_mem _)

theorem nodup_updateNamed {f : Value → Value} {k : String} {patch : Value}
    {l : List (String × Value)} (hl : (l.map Prod.fst).Nodup) :
    ((updateNamed f k patch l).map Prod.fst).Nodup := by
  induction l with
  | nil =>
    rw [updateNamed]
    split <;> simp
  | cons e l ih =>
    obtain ⟨he, hn⟩ := List.nodup_cons.mp hl
    rw [updateNamed]
    split
    · exact hl
    · rename_i hk
      refine List.nodup_cons.mpr ⟨fun h => ?_, ih hn⟩
      rcases mem_names_updateNamed h with h | h
      · exact hk h
      · exact he h

theorem nodup_mergeNamed {base patch : List (String × Value)} (hb : (base.map Prod.fst).Nodup) :
    ((mergeNamed base patch).map Prod.fst).Nodup := by
  induction patch generalizing base with
  | nil => exact hb
  | cons e patch ih => exact ih (nodup_updateNamed hb)

/-- A name that the patch gives a value holds the merge of both values or, if there was none, the
value of the patch. -/
theorem find_mergeNamed {base patch : List (String × Value)} (hp : (patch.map Prod.fst).Nodup)
    (name : String) :
    Dict.find name (mergeNamed base patch) =
      match Dict.find name patch with
      | none => Dict.find name base
      | some v => ((Dict.find name base).map (·.merge v)).or (if v.isNull then none else some v) := by
  induction patch generalizing base with
  | nil => rfl
  | cons e patch ih =>
    obtain ⟨k, v⟩ := e
    obtain ⟨hk, hp⟩ := List.nodup_cons.mp hp
    rw [mergeNamed, ih hp, find_updateNamed]
    by_cases hname : name = k
    · subst hname
      have hn : Dict.find name patch = none := Dict.find_eq_none_iff.mpr hk
      simp [hn, Dict.find]
    · simp [hname, Dict.find]

/-- The entries of a mapping whose keys are plain texts, none of them twice. -/
structure Plain where
  entries : List (String × Value)
  nodup : (entries.map Prod.fst).Nodup

namespace Plain

def value (p : Plain) : Value := encodeFields p.entries

/-- What a mapping gives under a name. A null gives nothing. -/
def given? (p : Plain) (name : String) : Option Value :=
  (Dict.find name p.entries).filter fun v => !v.isNull

/-- What is merged into the value under a name. -/
def patchFor (p : Plain) (name : String) : Value := (p.given? name).getD .null

theorem isNull_of_given? {p : Plain} {name : String} {v : Value} (h : p.given? name = some v) :
    v.isNull = false := by
  simpa using (Option.filter_eq_some_iff.mp h).2

theorem find_mergeNamed_entries (p : Plain) {base : List (String × Value)} {name : String}
    {old : Value} (hb : Dict.find name base = some old) :
    Dict.find name (mergeNamed base p.entries) = some (old.merge (p.patchFor name)) := by
  rw [find_mergeNamed p.nodup, hb, patchFor, given?]
  cases hv : Dict.find name p.entries with
  | none => simp [merge_null]
  | some v =>
    cases hn : v.isNull with
    | false => simp [Option.filter, hn]
    | true =>
      cases v <;> simp [Value.isNull] at hn
      simp [Option.filter, Value.isNull, merge_null]

theorem find_mergeNamed_of_flat (p : Plain) {base : List (String × Value)} {name : String}
    (hb : ∀ old, Dict.find name base = some old → ∀ entries, old ≠ .mapping entries) :
    Dict.find name (mergeNamed base p.entries) = (p.given? name).or (Dict.find name base) := by
  cases hold : Dict.find name base with
  | none =>
    rw [find_mergeNamed p.nodup, hold, given?]
    cases Dict.find name p.entries with
    | none => rfl
    | some v => cases hn : v.isNull <;> simp [Option.filter, hn]
  | some old =>
    rw [p.find_mergeNamed_entries hold, patchFor]
    cases hv : p.given? name with
    | none => rw [Option.getD_none, merge_null, Option.none_or]
    | some v =>
      rw [Option.getD_some, merge_of_not_mapping (hb old hold) (isNull_of_given? hv), Option.some_or]

/-- What a mapping gives under a name is a mapping with plain keys again, if it is anything. -/
def Nests (p : Plain) (name : String) (q : Plain) : Prop :=
  p.given? name = some q.value ∨ p.given? name = none ∧ q.entries = []

theorem Nests.merge_patchFor {p q : Plain} {name : String} (h : p.Nests name q)
    (base : List (String × Value)) :
    (encodeFields base).merge (p.patchFor name) = (encodeFields base).merge q.value := by
  rcases h with h | ⟨h, hq⟩
  · rw [patchFor, h, Option.getD_some]
  · rw [patchFor, h, Option.getD_none, merge_null, value, hq, merge_encodeFields, mergeNamed]

end Plain

end NodeSurvey.Settings
