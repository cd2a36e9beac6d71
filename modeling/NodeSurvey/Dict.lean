/-! Finite maps from text to values. The entries are kept in increasing order of their keys, so a
map has one representation and `ext` needs nothing but the view `get?`. -/

namespace NodeSurvey

/-- A finite map keyed by text; keys are ordered by code point. -/
structure Dict (α : Type) where
  toList : List (String × α)
  sorted : toList.Pairwise (fun a b => a.1 < b.1)

namespace Dict

variable {α β : Type}

def empty : Dict α := ⟨[], .nil⟩

instance : EmptyCollection (Dict α) := ⟨empty⟩
instance : Inhabited (Dict α) := ⟨empty⟩

def find (k : String) : List (String × α) → Option α
  | [] => none
  | (k', v) :: r => if k = k' then some v else find k r

def get? (d : Dict α) (k : String) : Option α := find k d.toList

def contains (d : Dict α) (k : String) : Bool := (d.get? k).isSome

def keys (d : Dict α) : List String := d.toList.map Prod.fst

def place (k : String) (v : α) : List (String × α) → List (String × α)
  | [] => [(k, v)]
  | (k', v') :: r =>
    if k < k' then (k, v) :: (k', v') :: r
    else if k = k' then (k, v) :: r
    else (k', v') :: place k v r

theorem mem_place {k : String} {v : α} {l : List (String × α)} {e : String × α}
    (h : e ∈ place k v l) : e = (k, v) ∨ e ∈ l := by
  induction l with
  | nil => simp [place] at h; exact .inl h
  | cons a r ih =>
    rw [place] at h
    split at h
    · simpa using h
    · split at h
      · rcases List.mem_cons.1 h with h | h
        · exact .inl h
        · exact .inr (List.mem_cons_of_mem _ h)
      · rcases List.mem_cons.1 h with h | h
        · exact .inr (h ▸ List.mem_cons_self)
        · exact (ih h).imp_right (List.mem_cons_of_mem _)

theorem lt_of_not_lt_of_ne {a b : String} (h : ¬ a < b) (h' : a ≠ b) : b < a := by
  by_cases hb : b < a
  · exact hb
  · exact absurd (String.le_antisymm (String.not_lt.1 hb) (String.not_lt.1 h)) h'

theorem pairwise_place {k : String} {v : α} {l : List (String × α)}
    (h : l.Pairwise (fun a b => a.1 < b.1)) :
    (place k v l).Pairwise (fun a b => a.1 < b.1) := by
  induction l with
  | nil => exact List.pairwise_singleton _ _
  | cons a r ih =>
    obtain ⟨ha, hr⟩ := List.pairwise_cons.1 h
    rw [place]
    split
    · rename_i hk
      refine List.pairwise_cons.2 ⟨fun e he => ?_, h⟩
      rcases List.mem_cons.1 he with rfl | he
      · exact hk
      · exact String.lt_trans hk (ha e he)
    · rename_i hk
      split
      · rename_i hke
        exact List.pairwise_cons.2 ⟨fun e he => by simpa [hke] using ha e he, hr⟩
      · rename_i hke
        refine List.pairwise_cons.2 ⟨fun e he => ?_, ih hr⟩
        rcases mem_place he with rfl | he
        · exact lt_of_not_lt_of_ne hk hke
        · exact ha e he

def insert (d : Dict α) (k : String) (v : α) : Dict α :=
  ⟨place k v d.toList, pairwise_place d.sorted⟩

/-- The map of a list of entries; of entries with one key the last wins. -/
def ofList (l : List (String × α)) : Dict α := l.foldl (fun d e => d.insert e.1 e.2) empty

/-- Adds all entries of `e` to `d`, those of `e` winning. -/
def union (d e : Dict α) : Dict α := e.toList.foldl (fun d e => d.insert e.1 e.2) d

def map (f : String → α → β) (d : Dict α) : Dict β :=
  ⟨d.toList.map (fun e => (e.1, f e.1 e.2)), by
    rw [List.pairwise_map]
    exact d.sorted⟩

theorem find_place (k k' : String) (v : α) (l : List (String × α)) :
    find k' (place k v l) = if k' = k then some v else find k' l := by
  induction l with
  | nil => simp [place, find]
  | cons a r ih =>
    rw [place]
    split
    · simp [find]
    · split
      · rename_i hk
        by_cases h : k' = k
        · simp [find, h]
        · have h' : k' ≠ a.1 := hk ▸ h
          simp [find, h, h']
      · rename_i hk
        by_cases h : k' = a.1
        · have h' : a.1 ≠ k := fun e => hk e.symm
          simp [find, h, h']
        · simp [find, h, ih]

theorem get?_insert (d : Dict α) (k k' : String) (v : α) :
    (d.insert k v).get? k' = if k' = k then some v else d.get? k' :=
  find_place k k' v d.toList

theorem get?_empty (k : String) : (empty : Dict α).get? k = none := rfl

theorem find_eq_none {k : String} {l : List (String × α)} (h : ∀ e ∈ l, k < e.1) :
    find k l = none := by
  induction l with
  | nil => rfl
  | cons a r ih =>
    have hk : k ≠ a.1 := fun e => String.lt_irrefl _ (e ▸ h a List.mem_cons_self)
    simp [find, hk, ih fun e he => h e (List.mem_cons_of_mem _ he)]

theorem ext {d e : Dict α} (h : ∀ k, d.get? k = e.get? k) : d = e := by
  obtain ⟨l, hl⟩ := d
  obtain ⟨m, hm⟩ := e
  suffices l = m by subst this; rfl
  simp only [get?] at h
  induction l generalizing m with
  | nil =>
    cases m with
    | nil => rfl
    | cons b m => simpa [find] using h b.1
  | cons a l ih =>
    obtain ⟨ha, hl⟩ := List.pairwise_cons.1 hl
    cases m with
    | nil => simpa [find] using h a.1
    | cons b m =>
      obtain ⟨hb, hm⟩ := List.pairwise_cons.1 hm
      have hab : a.1 = b.1 := by
        by_cases hlt : a.1 < b.1
        · have hn := find_eq_none (k := a.1) (l := b :: m) (by
            intro e he
            rcases List.mem_cons.1 he with rfl | he
            · exact hlt
            · exact String.lt_trans hlt (hb e he))
          have hk := h a.1
          rw [hn] at hk
          simp [find] at hk
        · by_cases hne : a.1 = b.1
          · exact hne
          · have hgt := lt_of_not_lt_of_ne hlt hne
            have hn := find_eq_none (k := b.1) (l := a :: l) (by
              intro e he
              rcases List.mem_cons.1 he with rfl | he
              · exact hgt
              · exact String.lt_trans hgt (ha e he))
            have hk := h b.1
            rw [hn] at hk
            simp [find] at hk
      have hv : a.2 = b.2 := by simpa [find, hab] using h a.1
      have htail : l = m := by
        refine ih hl m hm fun k => ?_
        by_cases hk : k = a.1
        · rw [hk, find_eq_none ha, find_eq_none (hab ▸ hb)]
        · have hk' : k ≠ b.1 := hab ▸ hk
          simpa [find, hk, hk'] using h k
      rw [htail, Prod.ext hab hv]

end Dict

end NodeSurvey
