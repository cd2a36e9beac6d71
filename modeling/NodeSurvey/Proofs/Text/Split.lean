import Mathlib.Data.List.TakeWhile
import NodeSurvey.Text.Blank

/-! Splitting a text around a character. A text without the character is one piece, and the first
piece of any other text ends before its first occurrence. -/

namespace NodeSurvey.Text

theorem splitBy_eq_singleton_iff {sep : Char → Bool} {s p : List Char} :
    splitBy sep s = [p] ↔ p = s ∧ ∀ c ∈ s, sep c = false := by
  constructor
  · intro h
    have hs : ∀ c ∈ s, sep c = false := by
      induction s generalizing p with
      | nil => simp
      | cons c r ih =>
        rw [splitBy] at h
        split at h
        · exact absurd (List.cons.inj h).2 (splitBy_ne_nil sep r)
        · rename_i hc
          split at h
          · rename_i hr
            exact absurd hr (splitBy_ne_nil sep r)
          · rename_i q qs hr
            have hq : qs = [] := (List.cons.inj h).2
            subst hq
            exact List.forall_mem_cons.mpr ⟨Bool.eq_false_iff.mpr hc, ih hr⟩
    have hp := h.symm.trans (splitBy_of_forall hs)
    exact ⟨(List.cons.inj hp).1, hs⟩
  · rintro ⟨rfl, hs⟩
    exact splitBy_of_forall hs

theorem split_eq_singleton_iff {sep : Char} {s p : List Char} :
    split sep s = [p] ↔ p = s ∧ sep ∉ s := by
  rw [split, splitBy_eq_singleton_iff]
  refine and_congr_right fun _ => ⟨fun h hm => ?_, fun h c hc => ?_⟩
  · simpa using h sep hm
  · exact beq_eq_false_iff_ne.mpr fun e => h (e ▸ hc)

theorem split_append_cons {sep : Char} {a : List Char} (ha : sep ∉ a) (b : List Char) :
    split sep (a ++ sep :: b) = a :: split sep b :=
  splitBy_append_cons (fun c hc => beq_eq_false_iff_ne.mpr fun e => ha (e ▸ hc)) (by simp)

theorem of_mem_splitBy {sep : Char → Bool} {s p : List Char} (h : p ∈ splitBy sep s) :
    ∀ c ∈ p, sep c = false := by
  induction s generalizing p with
  | nil =>
    obtain rfl := List.mem_singleton.mp h
    simp
  | cons d s ih =>
    rw [splitBy] at h
    split at h
    · rcases List.mem_cons.mp h with rfl | h
      · simp
      · exact ih h
    · rename_i hd
      split at h
      · rename_i hs
        exact absurd hs (splitBy_ne_nil sep s)
      · rename_i q qs hs
        rcases List.mem_cons.mp h with rfl | h
        · have hq := ih (hs ▸ List.mem_cons_self)
          exact List.forall_mem_cons.mpr ⟨Bool.eq_false_iff.mpr hd, hq⟩
        · exact ih (hs ▸ List.mem_cons_of_mem q h)

theorem not_mem_of_mem_split {sep : Char} {s p : List Char} (h : p ∈ split sep s) : sep ∉ p :=
  fun hm => by simpa using of_mem_splitBy h sep hm

theorem split_eq_splitOn (sep : Char) (s : List Char) : split sep s = s.splitOn sep := by
  rw [split]
  induction s with
  | nil => rfl
  | cons c s ih =>
    rw [splitBy, List.splitOn_cons_eq_if_modifyHead, ih]
    by_cases hc : (c == sep) = true
    · rw [if_pos hc, if_pos hc]
    · rw [if_neg hc, if_neg hc]
      cases hs : s.splitOn sep with
      | nil => exact absurd hs (List.splitOn_ne_nil sep s)
      | cons p ps => rfl

theorem intercalate_split (sep : Char) (s : List Char) : [sep].intercalate (split sep s) = s := by
  rw [split_eq_splitOn, List.intercalate_splitOn]

theorem split_intercalate {sep : Char} {pieces : List (List Char)} (hp : pieces ≠ [])
    (hs : ∀ p ∈ pieces, sep ∉ p) : split sep ([sep].intercalate pieces) = pieces := by
  rw [split_eq_splitOn, List.splitOn_intercalate sep hs hp]

theorem mem_intercalate {c sep : Char} {pieces : List (List Char)}
    (hc : c ∈ [sep].intercalate pieces) : c = sep ∨ ∃ p ∈ pieces, c ∈ p := by
  induction pieces with
  | nil => cases hc
  | cons p ps ih =>
    cases ps with
    | nil => exact Or.inr ⟨p, List.mem_singleton_self p, by simpa using hc⟩
    | cons q qs =>
      rw [List.intercalate_cons_cons, List.append_assoc, List.mem_append, List.mem_append,
        List.mem_singleton] at hc
      rcases hc with hp | hsep | hc
      · exact Or.inr ⟨p, List.mem_cons_self, hp⟩
      · exact Or.inl hsep
      · exact (ih hc).imp_right fun ⟨r, hr, hm⟩ => ⟨r, List.mem_cons_of_mem p hr, hm⟩

theorem splitOnce_eq_none_iff {sep : Char} {s : List Char} :
    splitOnce sep s = none ↔ sep ∉ s := by
  have hd : splitOnce sep s = none ↔ s.dropWhile (· != sep) = [] := by
    rw [splitOnce]
    split <;> simp_all
  rw [hd, List.dropWhile_eq_nil_iff]
  refine ⟨fun h hm => ?_, fun h c hc => ?_⟩
  · simpa using h sep hm
  · exact bne_iff_ne.mpr fun e => h (e ▸ hc)

theorem splitOnce_append_cons {sep : Char} {a : List Char} (ha : sep ∉ a) (b : List Char) :
    splitOnce sep (a ++ sep :: b) = some (a, b) := by
  have hne : ∀ c ∈ a, (c != sep) = true := fun c hc => bne_iff_ne.mpr fun e => ha (e ▸ hc)
  rw [splitOnce, List.dropWhile_append_of_pos hne, List.takeWhile_append_of_pos hne]
  simp

theorem splitOnce_eq_some_iff {sep : Char} {s a b : List Char} :
    splitOnce sep s = some (a, b) ↔ s = a ++ sep :: b ∧ sep ∉ a := by
  constructor
  · intro h
    by_cases hm : sep ∈ s
    · obtain ⟨a', b', rfl, ha⟩ := List.eq_append_cons_of_mem hm
      rw [splitOnce_append_cons ha] at h
      obtain ⟨rfl, rfl⟩ := Prod.mk.inj (Option.some.inj h)
      exact ⟨rfl, ha⟩
    · rw [splitOnce_eq_none_iff.mpr hm] at h
      cases h
  · rintro ⟨rfl, ha⟩
    exact splitOnce_append_cons ha b

theorem takeWhile_eq_iff {p : Char → Bool} {s a : List Char} :
    s.takeWhile p = a ↔ (∀ c ∈ a, p c = true) ∧
      ∃ b, s = a ++ b ∧ ∀ c, b.head? = some c → p c = false := by
  constructor
  · rintro rfl
    refine ⟨fun c hc => List.mem_takeWhile_imp hc, s.dropWhile p,
      List.takeWhile_append_dropWhile.symm, fun c hc => ?_⟩
    have hd := List.head?_dropWhile_not p s
    rw [hc] at hd
    exact hd
  · rintro ⟨ha, b, rfl, hb⟩
    rw [List.takeWhile_append_of_pos ha]
    cases b with
    | nil => simp
    | cons c b => rw [List.takeWhile_cons_of_neg (by simp [hb c rfl]), List.append_nil]

end NodeSurvey.Text
