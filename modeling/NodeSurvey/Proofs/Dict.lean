import Mathlib.Data.List.Nodup
import NodeSurvey.Dict

/-! Lookups in maps that are put together or cut down. Of several entries with one key the one that
was added last is found, and a map that is added to another hides what has its keys. -/

namespace NodeSurvey.Dict

variable {α : Type}

theorem find_append (k : String) (l m : List (String × α)) :
    find k (l ++ m) = (find k l).or (find k m) := by
  induction l with
  | nil => simp [find]
  | cons a l ih =>
    by_cases h : k = a.1
    · simp [find, h]
    · simp [find, h, ih]

theorem find_map_entry {β : Type} (f : String → α → β) (k : String) (l : List (String × α)) :
    find k (l.map fun e => (e.1, f e.1 e.2)) = (find k l).map (f k) := by
  induction l with
  | nil => rfl
  | cons a l ih => by_cases hk : k = a.1 <;> simp [find, hk, ih]

theorem find_map {β : Type} (f : α → β) (k : String) (l : List (String × α)) :
    find k (l.map fun e => (e.1, f e.2)) = (find k l).map f := find_map_entry (fun _ => f) k l

theorem mem_of_find {k : String} {v : α} {l : List (String × α)} (h : find k l = some v) :
    (k, v) ∈ l := by
  induction l with
  | nil => simp [find] at h
  | cons a l ih =>
    by_cases hk : k = a.1
    · have hv : a.2 = v := by simpa [find, hk] using h
      exact hk ▸ hv ▸ List.mem_cons_self
    · exact List.mem_cons_of_mem _ (ih (by simpa [find, hk] using h))

/-- In a sorted list a key stands once, so the order of the entries does not matter. -/
theorem find_reverse {k : String} {l : List (String × α)}
    (hl : l.Pairwise (fun a b => a.1 < b.1)) : find k l.reverse = find k l := by
  induction l with
  | nil => rfl
  | cons a l ih =>
    obtain ⟨ha, hl⟩ := List.pairwise_cons.mp hl
    rw [List.reverse_cons, find_append, ih hl]
    by_cases hk : k = a.1
    · subst hk
      simp [find_eq_none ha, find]
    · simp [find, hk]

theorem find_eq_none_iff {k : String} {l : List (String × α)} :
    find k l = none ↔ k ∉ l.map Prod.fst := by
  induction l with
  | nil => simp [find]
  | cons a l ih => by_cases hk : k = a.1 <;> simp [find, hk, ih]

theorem find_eq_some_iff {k : String} {v : α} {l : List (String × α)}
    (hl : (l.map Prod.fst).Nodup) : find k l = some v ↔ (k, v) ∈ l := by
  refine ⟨mem_of_find, fun h => ?_⟩
  induction l with
  | nil => simp at h
  | cons a l ih =>
    obtain ⟨ha, hl⟩ := List.nodup_cons.mp hl
    rcases List.mem_cons.mp h with rfl | h
    · simp [find]
    · have hk : k ≠ a.1 := fun e => ha (e ▸ List.mem_map_of_mem h)
      simpa [find, hk] using ih hl h

theorem get?_foldl_insert (k : String) (l : List (String × α)) (d : Dict α) :
    (l.foldl (fun d e => d.insert e.1 e.2) d).get? k = (find k l.reverse).or (d.get? k) := by
  induction l generalizing d with
  | nil => simp [find]
  | cons a l ih =>
    rw [List.foldl_cons, ih, get?_insert, List.reverse_cons, find_append, Option.or_assoc]
    by_cases hk : k = a.1 <;> simp [find, hk]

theorem get?_ofList (k : String) (l : List (String × α)) :
    (ofList l).get? k = find k l.reverse := by
  rw [ofList, get?_foldl_insert, get?_empty, Option.or_none]

theorem get?_ofList_append {k : String} {l m : List (String × α)} (hk : k ∉ m.map Prod.fst) :
    (ofList (l ++ m)).get? k = (ofList l).get? k := by
  have hm : find k m.reverse = none := find_eq_none_iff.mpr (by simpa using hk)
  rw [get?_ofList, get?_ofList, List.reverse_append, find_append, hm, Option.none_or]

/-- The entry is in the list, and none behind it has its key. -/
def IsLast (k : String) (v : α) (l : List (String × α)) : Prop :=
  ∃ before after, l = before ++ (k, v) :: after ∧ ∀ e ∈ after, e.1 ≠ k

theorem find_eq_some_iff_append {k : String} {v : α} {l : List (String × α)} :
    find k l = some v ↔ ∃ before after, l = before ++ (k, v) :: after ∧ ∀ e ∈ before, e.1 ≠ k := by
  constructor
  · intro h
    induction l with
    | nil => cases h
    | cons a l ih =>
      by_cases hk : k = a.1
      · have hv : a.2 = v := by simpa [find, hk] using h
        exact ⟨[], l, by simp [hk, ← hv], by simp⟩
      · obtain ⟨before, after, rfl, hb⟩ := ih (by simpa [find, hk] using h)
        exact ⟨a :: before, after, rfl, List.forall_mem_cons.mpr ⟨fun e => hk e.symm, hb⟩⟩
  · rintro ⟨before, after, rfl, hb⟩
    have hnone : find k before = none := find_eq_none_iff.mpr fun hm => by
      obtain ⟨e, he, hk⟩ := List.mem_map.mp hm
      exact hb e he hk
    simp [find_append, hnone, find]

theorem get?_ofList_iff_isLast {k : String} {v : α} {l : List (String × α)} :
    (ofList l).get? k = some v ↔ IsLast k v l := by
  rw [get?_ofList, find_eq_some_iff_append]
  constructor
  · rintro ⟨after, before, hl, ha⟩
    refine ⟨before.reverse, after.reverse, ?_, fun e he => ha e (List.mem_reverse.mp he)⟩
    rw [← List.reverse_reverse l, hl]
    simp
  · rintro ⟨before, after, rfl, ha⟩
    exact ⟨after.reverse, before.reverse, by simp, fun e he => ha e (List.mem_reverse.mp he)⟩

theorem get?_union (d e : Dict α) (k : String) :
    (d.union e).get? k = (e.get? k).or (d.get? k) := by
  rw [union, get?_foldl_insert, find_reverse e.sorted]
  rfl

theorem mem_of_get?_ofList {l : List (String × α)} {k : String} {v : α}
    (h : (ofList l).get? k = some v) : (k, v) ∈ l := by
  rw [get?_ofList] at h
  exact List.mem_reverse.mp (mem_of_find h)

theorem get?_ofList_eq_some_iff {l : List (String × α)} {k : String} {v : α}
    (hl : (l.map Prod.fst).Nodup) : (ofList l).get? k = some v ↔ (k, v) ∈ l := by
  have hr : (l.reverse.map Prod.fst).Nodup := by
    rw [List.map_reverse, List.nodup_reverse]
    exact hl
  rw [get?_ofList, find_eq_some_iff hr, List.mem_reverse]

theorem get?_ofList_const {l : List String} {v w : α} {k : String} :
    (ofList (l.map fun k => (k, v))).get? k = some w ↔ w = v ∧ k ∈ l := by
  have hfind : ∀ l : List String,
      find k (l.map fun k => (k, v)) = if k ∈ l then some v else none := by
    intro l
    induction l with
    | nil => rfl
    | cons a l ih => by_cases hk : k = a <;> simp [find, hk, ih]
  rw [get?_ofList, ← List.map_reverse, hfind, ite_eq_iff]
  simp [eq_comm, and_comm]

theorem nodup_keys (d : Dict α) : (d.toList.map Prod.fst).Nodup := by
  rw [List.Nodup, List.pairwise_map]
  refine d.sorted.imp fun {a b} h e => ?_
  rw [e] at h
  exact String.lt_irrefl _ h

theorem get?_eq_some_iff {d : Dict α} {k : String} {v : α} :
    d.get? k = some v ↔ (k, v) ∈ d.toList :=
  find_eq_some_iff d.nodup_keys

/-- The entries whose keys pass a test. -/
def filter (p : String → Bool) (d : Dict α) : Dict α :=
  ⟨d.toList.filter fun e => p e.1, d.sorted.filter _⟩

def erase (d : Dict α) (k : String) : Dict α := d.filter (· ≠ k)

theorem find_filter (p : String → Bool) (k : String) (l : List (String × α)) :
    find k (l.filter fun e => p e.1) = if p k then find k l else none := by
  induction l with
  | nil => simp [find]
  | cons a l ih =>
    by_cases hk : k = a.1
    · subst hk
      cases hp : p a.1 with
      | true => simp [hp, find]
      | false => simpa [hp] using ih
    · cases hp : p a.1 <;> simp [hp, find, hk, ih]

theorem get?_filter (p : String → Bool) (d : Dict α) (k : String) :
    (d.filter p).get? k = if p k then d.get? k else none :=
  find_filter p k d.toList

theorem get?_erase (d : Dict α) (k k' : String) :
    (d.erase k).get? k' = if k' = k then none else d.get? k' := by
  rw [erase, get?_filter]
  by_cases hk : k' = k <;> simp [hk]

theorem ofList_filter (p : String → Bool) (l : List (String × α)) :
    ofList (l.filter fun e => p e.1) = (ofList l).filter p :=
  ext fun k => by rw [get?_filter, get?_ofList, get?_ofList, ← List.filter_reverse, find_filter]

end NodeSurvey.Dict
