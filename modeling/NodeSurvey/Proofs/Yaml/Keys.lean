import Mathlib.Data.List.Basic
import NodeSurvey.Yaml.Value

/-! Values in which no mapping has a key twice. Among them it is an equivalence to be the same,
although the order of entries inside a key does not count, so that a key can be looked up by any that
is the same. -/

namespace NodeSurvey.Yaml

namespace Value

/-- No mapping in the value, or in one of its keys, has a key twice. -/
inductive Proper : Value → Prop where
  | null : Proper .null
  | bool (b : Bool) : Proper (.bool b)
  | int (n : Int) : Proper (.int n)
  | float (x : Binary64) : Proper (.float x)
  | string (s : String) : Proper (.string s)
  | sequence {items : List Value} (h : ∀ v ∈ items, Proper v) : Proper (.sequence items)
  | mapping {entries : List (Value × Value)} (hd : entries.Pairwise fun d e => same d.1 e.1 = false)
    (hk : ∀ e ∈ entries, Proper e.1) (hv : ∀ e ∈ entries, Proper e.2) : Proper (.mapping entries)
  | tagged (name : String) {v : Value} (h : Proper v) : Proper (.tagged name v)

/-- Entries of a mapping: no key occurs twice. -/
structure Distinct (entries : List (Value × Value)) : Prop where
  pairwise : entries.Pairwise fun d e => same d.1 e.1 = false
  proper : ∀ e ∈ entries, Proper e.1

theorem Proper.distinct {entries : List (Value × Value)} (h : Proper (.mapping entries)) :
    Distinct entries := by
  cases h with
  | mapping hd hk hv => exact ⟨hd, hk⟩

theorem Proper.value {entries : List (Value × Value)} (h : Proper (.mapping entries)) :
    ∀ e ∈ entries, Proper e.2 := by
  cases h with
  | mapping hd hk hv => exact hv

theorem Distinct.of_nodup {l : List (String × Value)} (h : (l.map Prod.fst).Nodup) :
    Distinct (l.map fun e => (.string e.1, e.2)) := by
  refine ⟨List.pairwise_map.mpr ?_, List.forall_mem_map.mpr fun e _ => .string e.1⟩
  refine (List.pairwise_map.mp h).imp fun hne => ?_
  simpa [same] using hne

theorem Proper.of_nodup {l : List (String × Value)} (hd : (l.map Prod.fst).Nodup)
    (hv : ∀ e ∈ l, Proper e.2) : Proper (.mapping (l.map fun e => (.string e.1, e.2))) :=
  .mapping (Distinct.of_nodup hd).pairwise (Distinct.of_nodup hd).proper
    (List.forall_mem_map.mpr hv)

/-! Being the same is an equivalence. -/

theorem sameEntries_iff {a b : List (Value × Value)} :
    sameEntries a b = true ↔ ∀ d ∈ a, ∃ e ∈ b, same d.1 e.1 = true ∧ same d.2 e.2 = true := by
  induction a with
  | nil => simp [sameEntries]
  | cons d a ih => simp [sameEntries, ih]

theorem sameValue_symm {x y : Binary64} (h : x.sameValue y = true) : y.sameValue x = true := by
  cases x <;> cases y <;> simp_all [Binary64.sameValue]
  grind

theorem sameValue_trans {x y z : Binary64} (h : x.sameValue y = true) (h' : y.sameValue z = true) :
    x.sameValue z = true := by
  cases x <;> cases y <;> cases z <;> simp_all [Binary64.sameValue]
  grind

/-- If every element of a list has a partner in a list that is no longer, and no two have a common
one, then every element of the other list is a partner. -/
theorem exists_partner {α β : Type} {R : α → β → Prop} {l : List α} {m : List β}
    (hl : ∀ a ∈ l, ∃ b ∈ m, R a b) (hd : l.Pairwise fun a a' => ∀ b, R a b → ¬ R a' b)
    (hlen : m.length ≤ l.length) : ∀ b ∈ m, ∃ a ∈ l, R a b := by
  induction l generalizing m with
  | nil =>
    obtain rfl := List.length_eq_zero_iff.mp (Nat.le_zero.mp hlen)
    simp
  | cons a l ih =>
    obtain ⟨ha, hd⟩ := List.pairwise_cons.mp hd
    obtain ⟨b₀, hb₀, hab⟩ := hl a List.mem_cons_self
    obtain ⟨m₁, m₂, rfl⟩ := List.append_of_mem hb₀
    have hrest : ∀ a' ∈ l, ∃ b ∈ m₁ ++ m₂, R a' b := by
      intro a' ha'
      obtain ⟨b, hb, hr⟩ := hl a' (List.mem_cons_of_mem a ha')
      have hne : b ≠ b₀ := fun e => ha a' ha' b₀ hab (e ▸ hr)
      exact ⟨b, by simpa [hne] using hb, hr⟩
    have hlen' : (m₁ ++ m₂).length ≤ l.length := by
      simp only [List.length_append, List.length_cons] at hlen ⊢
      omega
    intro b hb
    by_cases hbb : b = b₀
    · exact ⟨a, List.mem_cons_self, hbb ▸ hab⟩
    · obtain ⟨a', ha', hr⟩ := ih hrest hd hlen' b (by simpa [hbb] using hb)
      exact ⟨a', List.mem_cons_of_mem a ha', hr⟩

section

variable {a b c : List Value}

theorem sameItems_trans (h : ∀ v ∈ a, ∀ w x, same v w = true → same w x = true → same v x = true)
    (hab : sameItems a b = true) (hbc : sameItems b c = true) : sameItems a c = true := by
  induction a generalizing b c with
  | nil => cases b <;> simp_all [sameItems]
  | cons v a ih =>
    cases b with
    | nil => simp [sameItems] at hab
    | cons w b =>
      cases c with
      | nil => simp [sameItems] at hbc
      | cons x c =>
        simp only [sameItems, Bool.and_eq_true] at hab hbc ⊢
        exact ⟨h v List.mem_cons_self w x hab.1 hbc.1,
          ih (fun v hv => h v (List.mem_cons_of_mem _ hv)) hab.2 hbc.2⟩

theorem sameItems_symm (h : ∀ v ∈ a, ∀ w, same v w = true → same w v = true)
    (hab : sameItems a b = true) : sameItems b a = true := by
  induction a generalizing b with
  | nil => cases b <;> simp_all [sameItems]
  | cons v a ih =>
    cases b with
    | nil => simp [sameItems] at hab
    | cons w b =>
      simp only [sameItems, Bool.and_eq_true] at hab ⊢
      exact ⟨h v List.mem_cons_self w hab.1, ih (fun v hv => h v (List.mem_cons_of_mem _ hv)) hab.2⟩

end

theorem same_trans {u v w : Value} (hu : u.Proper) (h : same u v = true) (h' : same v w = true) :
    same u w = true := by
  induction hu generalizing v w with
  | sequence _ ih =>
    cases v <;> simp only [same, Bool.false_eq_true] at h
    cases w <;> simp only [same, Bool.false_eq_true] at h'
    exact sameItems_trans (fun v hv w x => ih v hv) h h'
  | @mapping entries _ _ _ ihk ihv =>
    cases v <;> simp only [same, Bool.false_eq_true] at h
    cases w <;> simp only [same, Bool.false_eq_true] at h'
    simp only [same, Bool.and_eq_true, decide_eq_true_eq, sameEntries_iff] at h h' ⊢
    refine ⟨h.1.trans h'.1, fun d hd => ?_⟩
    obtain ⟨e, he, hk, hv⟩ := h.2 d hd
    obtain ⟨f, hf, hk', hv'⟩ := h'.2 e he
    exact ⟨f, hf, ihk d hd hk hk', ihv d hd hv hv'⟩
  | float x =>
    cases v <;> simp only [same, Bool.false_eq_true] at h
    cases w <;> simp only [same, Bool.false_eq_true] at h'
    exact sameValue_trans h h'
  | tagged name _ ih =>
    cases v <;> simp only [same, Bool.false_eq_true] at h
    cases w <;> simp only [same, Bool.false_eq_true] at h'
    simp only [same, Bool.and_eq_true, decide_eq_true_eq] at h h' ⊢
    exact ⟨h.1.trans h'.1, ih h.2 h'.2⟩
  | _ => cases v <;> cases w <;> simp_all [same]

theorem same_symm {u v : Value} (hu : u.Proper) (h : same u v = true) : same v u = true := by
  induction hu generalizing v with
  | sequence _ ih =>
    cases v <;> simp only [same, Bool.false_eq_true] at h
    exact sameItems_symm (fun v hv w => ih v hv) h
  | @mapping entries hd hk _ ihk ihv =>
    cases v <;> simp only [same, Bool.false_eq_true] at h
    rename_i entries'
    simp only [same, Bool.and_eq_true, decide_eq_true_eq, sameEntries_iff] at h ⊢
    -- Two keys that are the same as one are the same as each other, so no two have one partner.
    have hpartner := exists_partner h.2
      (List.Pairwise.imp_of_mem (fun {d e} hdm hem hne f hdf hef => ?_) hd) (Nat.le_of_eq h.1.symm)
    · refine ⟨h.1.symm, fun e he => ?_⟩
      obtain ⟨d, hdm, hkey, hval⟩ := hpartner e he
      exact ⟨d, hdm, ihk d hdm hkey, ihv d hdm hval⟩
    · have hsame := same_trans (hk d hdm) hdf.1 (ihk e hem hef.1)
      rw [hne] at hsame
      cases hsame
  | float x =>
    cases v <;> simp only [same, Bool.false_eq_true] at h
    exact sameValue_symm h
  | tagged name _ ih =>
    cases v <;> simp only [same, Bool.false_eq_true] at h
    simp only [same, Bool.and_eq_true, decide_eq_true_eq] at h ⊢
    exact ⟨h.1.symm, ih h.2⟩
  | _ => cases v <;> simp_all [same]

theorem same_comm {u v : Value} (hu : u.Proper) (hv : v.Proper) : same u v = same v u := by
  rw [Bool.eq_iff_iff]
  exact ⟨same_symm hu, same_symm hv⟩

theorem same_congr {u v : Value} (hu : u.Proper) (h : same u v = true) (w : Value) (hw : w.Proper) :
    same w v = same w u := by
  rw [Bool.eq_iff_iff]
  exact ⟨fun hwv => same_symm hu (same_trans hu h (same_symm hw hwv)),
    fun hwu => same_trans hw hwu h⟩

/-! Looking up keys. -/

theorem lookup_eq_none_iff {k : Value} {l : List (Value × Value)} :
    lookup k l = none ↔ ∀ e ∈ l, same e.1 k = false := by
  induction l with
  | nil => simp [lookup]
  | cons e l ih => cases hs : same e.1 k <;> simp [lookup, hs, ih]

theorem exists_of_lookup {k v : Value} {l : List (Value × Value)} (h : lookup k l = some v) :
    ∃ k', (k', v) ∈ l ∧ same k' k = true := by
  induction l with
  | nil => cases h
  | cons e l ih =>
    rw [lookup] at h
    split at h
    · rename_i hs
      obtain rfl := Option.some.inj h
      exact ⟨e.1, List.mem_cons_self, hs⟩
    · obtain ⟨k', hm, hs⟩ := ih h
      exact ⟨k', List.mem_cons_of_mem _ hm, hs⟩

theorem lookup_append (k : Value) (l m : List (Value × Value)) :
    lookup k (l ++ m) = (lookup k l).or (lookup k m) := by
  induction l with
  | nil => rfl
  | cons e l ih => cases hs : same e.1 k <;> simp [lookup, hs, ih]

theorem lookup_map {f : Value × Value → Value} {g : Value → Value} {k : Value}
    {l : List (Value × Value)} (h : ∀ e ∈ l, same e.1 k = true → f e = g e.2) :
    lookup k (l.map fun e => (e.1, f e)) = (lookup k l).map g := by
  induction l with
  | nil => rfl
  | cons e l ih =>
    have he := h e List.mem_cons_self
    have hl := ih fun d hd => h d (List.mem_cons_of_mem _ hd)
    cases hs : same e.1 k with
    | true => simp [lookup, hs, he hs]
    | false => simp [lookup, hs, hl]

namespace Distinct

variable {l m : List (Value × Value)}

theorem nil : Distinct [] := ⟨.nil, by simp⟩

theorem cons_iff {e : Value × Value} :
    Distinct (e :: l) ↔ e.1.Proper ∧ (∀ d ∈ l, same e.1 d.1 = false) ∧ Distinct l := by
  constructor
  · intro h
    obtain ⟨he, hl⟩ := List.pairwise_cons.mp h.pairwise
    exact ⟨h.proper e List.mem_cons_self, he, hl,
      fun d hd => h.proper d (List.mem_cons_of_mem _ hd)⟩
  · rintro ⟨hp, he, hl⟩
    exact ⟨List.pairwise_cons.mpr ⟨he, hl.pairwise⟩, List.forall_mem_cons.mpr ⟨hp, hl.proper⟩⟩

theorem sublist (h : Distinct l) (hm : m.Sublist l) : Distinct m :=
  ⟨h.pairwise.sublist hm, fun e he => h.proper e (hm.subset he)⟩

theorem lookup_congr (h : Distinct l) {u v : Value} (hu : u.Proper) (huv : same u v = true) :
    lookup v l = lookup u l := by
  have hl := h.proper
  clear h
  induction l with
  | nil => rfl
  | cons e l ih =>
    obtain ⟨he, hl⟩ := List.forall_mem_cons.mp hl
    rw [lookup, lookup, same_congr hu huv e.1 he, ih hl]

theorem lookup_eq_some_iff (h : Distinct l) {k v : Value} :
    lookup k l = some v ↔ ∃ k', (k', v) ∈ l ∧ same k' k = true := by
  refine ⟨exists_of_lookup, ?_⟩
  rintro ⟨k', hm, hs⟩
  induction l with
  | nil => cases hm
  | cons e l ih =>
    obtain ⟨he, hne, hl⟩ := cons_iff.mp h
    rcases List.mem_cons.mp hm with rfl | hm
    · rw [lookup, if_pos hs]
    · have hek : same e.1 k = false := by
        rw [same_congr (hl.proper _ hm) hs e.1 he]
        exact hne _ hm
      rw [lookup, hek, if_neg Bool.false_ne_true]
      exact ih hl hm

end Distinct

end Value

end NodeSurvey.Yaml
