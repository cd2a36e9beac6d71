import Mathlib.Data.List.DropRight
import Mathlib.Data.List.Forall2
import Mathlib.Data.List.ReduceOption
import NodeSurvey.Proofs.Text.Split

/-! Blanks at the ends of texts and of lines. A reader of lines that does not mind blanks around a
line, and finds nothing on an empty one, does not mind blanks around the whole text either, and
can as well go by the newlines alone. -/

namespace NodeSurvey.Text

theorem splitBy_append_sep {sep : Char → Bool} {c : Char} (hc : sep c = true) (a b : List Char) :
    splitBy sep (a ++ c :: b) = splitBy sep a ++ splitBy sep b := by
  induction a with
  | nil => simp [splitBy, hc]
  | cons x a ih =>
    rw [List.cons_append, splitBy, splitBy, ih]
    by_cases hx : sep x = true
    · rw [if_pos hx, if_pos hx, List.cons_append]
    · rw [if_neg hx, if_neg hx]
      cases ha : splitBy sep a with
      | nil => exact absurd ha (splitBy_ne_nil sep a)
      | cons p ps => rfl

theorem split_append_sep (sep : Char) (a b : List Char) :
    split sep (a ++ sep :: b) = split sep a ++ split sep b :=
  splitBy_append_sep (by simp) a b

theorem exists_splitBy_concat {sep : Char → Bool} {c : Char} (hc : sep c = false) (s : List Char) :
    ∃ init last, splitBy sep s = init ++ [last] ∧
      splitBy sep (s ++ [c]) = init ++ [last ++ [c]] := by
  induction s with
  | nil => exact ⟨[], [], rfl, by simp [splitBy, hc]⟩
  | cons x s ih =>
    obtain ⟨init, last, hs, hsc⟩ := ih
    by_cases hx : sep x = true
    · exact ⟨[] :: init, last, by simp [splitBy, hx, hs], by simp [splitBy, hx, hsc]⟩
    · cases init with
      | nil => exact ⟨[], x :: last, by simp [splitBy, hx, hs], by simp [splitBy, hx, hsc]⟩
      | cons p init =>
        exact ⟨(x :: p) :: init, last, by simp [splitBy, hx, hs], by simp [splitBy, hx, hsc]⟩

theorem words_append_blank {c : Char} (hc : isBlank c = true) (a b : List Char) :
    words (a ++ c :: b) = words a ++ words b := by
  rw [words, splitBy_append_sep hc, List.filter_append]
  rfl

section Blanks

variable {b s : List Char} (hb : ∀ c ∈ b, isBlank c = true)
include hb

theorem trim_of_blanks : trim b = [] := by
  rw [trim, trimStart, List.dropWhile_eq_nil_iff.mpr hb]
  rfl

theorem trim_blanks_append : trim (b ++ s) = trim s := by
  rw [trim, trimStart, List.dropWhile_append_of_pos hb]
  rfl

theorem trim_append_blanks : trim (s ++ b) = trim s := by
  rw [trim, trim, trimStart, List.dropWhile_append]
  split
  · rename_i he
    rw [List.dropWhile_eq_nil_iff.mpr hb, trimStart, List.isEmpty_iff.mp he]
  · rw [trimEnd, List.reverse_append, List.dropWhile_append_of_pos (by simpa using hb)]
    rfl

theorem words_blanks_append : words (b ++ s) = words s := by
  induction b with
  | nil => rfl
  | cons c b ih =>
    obtain ⟨hc, hb⟩ := List.forall_mem_cons.mp hb
    have hcut : words (c :: (b ++ s)) = words [] ++ words (b ++ s) := words_append_blank hc [] _
    rw [List.cons_append, hcut, ih hb]
    rfl

theorem words_append_blanks : words (s ++ b) = words s := by
  induction b generalizing s with
  | nil => rw [List.append_nil]
  | cons c b ih =>
    obtain ⟨hc, hb⟩ := List.forall_mem_cons.mp hb
    have hcut : words (s ++ [c]) = words s ++ words [] := words_append_blank hc s []
    rw [List.append_cons, ih hb, hcut]
    exact List.append_nil _

end Blanks

theorem exists_blanks (s : List Char) :
    ∃ before after, s = before ++ trim s ++ after ∧ (∀ c ∈ before, isBlank c = true) ∧
      ∀ c ∈ after, isBlank c = true := by
  refine ⟨s.takeWhile isBlank, (trimStart s).rtakeWhile isBlank, ?_,
    fun c hc => List.mem_takeWhile_imp hc, fun c hc => List.mem_rtakeWhile_imp hc⟩
  have hend : trim s ++ (trimStart s).rtakeWhile isBlank = trimStart s :=
    List.rdropWhile_append_rtakeWhile
  rw [List.append_assoc, hend, trimStart, List.takeWhile_append_dropWhile]

theorem mem_of_mem_trim {c : Char} {s : List Char} (hc : c ∈ trim s) : c ∈ s := by
  obtain ⟨before, after, hs, -, -⟩ := exists_blanks s
  rw [hs]
  exact List.mem_append_left _ (List.mem_append_right _ hc)

theorem words_trim (s : List Char) : words (trim s) = words s := by
  obtain ⟨before, after, hs, hb, ha⟩ := exists_blanks s
  conv_rhs => rw [hs, words_append_blanks ha, words_blanks_append hb]

theorem trim_trim (s : List Char) : trim (trim s) = trim s := by
  obtain ⟨before, after, hs, hb, ha⟩ := exists_blanks s
  conv_rhs => rw [hs, trim_append_blanks ha, trim_blanks_append hb]

theorem trim_eq_self {c d : Char} {s : List Char} (hc : s.head? = some c) (hd : s.getLast? = some d)
    (hcb : isBlank c = false) (hdb : isBlank d = false) : trim s = s := by
  have hstart : trimStart s = s := by
    obtain ⟨r, rfl⟩ := List.head?_eq_some_iff.mp hc
    rw [trimStart, List.dropWhile_cons_of_neg (by simp [hcb])]
  obtain ⟨r, rfl⟩ := List.getLast?_eq_some_iff.mp hd
  rw [trim, hstart]
  exact List.rdropWhile_concat_neg _ _ _ (by simp [hdb])

theorem trim_eq_self_of_ends {s : List Char} (hf : ∀ c, s.head? = some c → isBlank c = false)
    (hl : ∀ c, s.getLast? = some c → isBlank c = false) : trim s = s := by
  cases s with
  | nil => rfl
  | cons c s =>
    have hlast := List.getLast?_eq_some_getLast (List.cons_ne_nil c s)
    exact trim_eq_self rfl hlast (hf c rfl) (hl _ hlast)

theorem trim_cons {c : Char} (hc : isBlank c = false) (s : List Char) :
    trim (c :: s) = c :: trimEnd s := by
  have hstart : trimStart (c :: s) = c :: s := List.dropWhile_cons_of_neg (by simp [hc])
  have hend : [c].dropWhile isBlank = [c] := List.dropWhile_cons_of_neg (by simp [hc])
  rw [trim, hstart, trimEnd, trimEnd, List.reverse_cons, List.dropWhile_append]
  split
  · rename_i hs
    rw [hend, List.isEmpty_iff.mp hs]
    rfl
  · simp

theorem trim_chomp (s : List Char) : trim (chomp s) = trim s := by
  rw [chomp]
  split
  · rename_i hs
    obtain ⟨r, rfl⟩ := List.getLast?_eq_some_iff.mp hs
    rw [List.dropLast_concat, trim_append_blanks (List.forall_mem_singleton.mpr rfl)]
  · rfl

section Reading

variable {β : Type} {f : List Char → Option β}
variable (hf : ∀ p, f (trim p) = f p) (hn : f [] = none)
include hf hn

theorem filterMap_lines (s : List Char) :
    (lines s).filterMap f = (split '\n' s).filterMap f := by
  have hne : split '\n' s ≠ [] := splitBy_ne_nil _ s
  have hchomp : ∀ p, f (chomp p) = f p := fun p => by rw [← hf, trim_chomp, hf]
  have hlast : (if ((split '\n' s).getLast hne).isEmpty then [] else
      [(split '\n' s).getLast hne]).filterMap f = [(split '\n' s).getLast hne].filterMap f := by
    split
    · rename_i he
      rw [List.isEmpty_iff.mp he]
      simp [hn]
    · rfl
  conv_rhs => rw [← List.dropLast_append_getLast hne, List.filterMap_append, ← hlast]
  rw [lines, List.filterMap_append, List.filterMap_map, List.getLast?_eq_some_getLast hne]
  simp only [Function.comp_def, hchomp, Option.getD_some]

theorem filterMap_split_concat {c : Char} (hc : isBlank c = true) (s : List Char) :
    (split '\n' (s ++ [c])).filterMap f = (split '\n' s).filterMap f := by
  by_cases hnl : c = '\n'
  · subst hnl
    rw [split_append_sep, List.filterMap_append]
    simp [split, splitBy, hn]
  · obtain ⟨init, last, hs, hsc⟩ :=
      @exists_splitBy_concat (· == '\n') c (beq_eq_false_iff_ne.mpr hnl) s
    have hlast : f (last ++ [c]) = f last := by
      rw [← hf, trim_append_blanks (by simpa using hc), hf]
    simp [split, hs, hsc, List.filterMap_cons, hlast]

theorem filterMap_split_cons {c : Char} (hc : isBlank c = true) (s : List Char) :
    (split '\n' (c :: s)).filterMap f = (split '\n' s).filterMap f := by
  by_cases hnl : c = '\n'
  · simp [split, splitBy, hnl, hn]
  · have hbeq : (c == '\n') = false := beq_eq_false_iff_ne.mpr hnl
    cases hs : split '\n' s with
    | nil => exact absurd hs (splitBy_ne_nil _ s)
    | cons p ps =>
      have hfirst : f (c :: p) = f p := by
        rw [← hf, ← List.singleton_append, trim_blanks_append (by simpa using hc), hf]
      have hcons : split '\n' (c :: s) = (c :: p) :: ps := by
        rw [split] at hs
        simp [split, splitBy, hbeq, hs]
      simp [hcons, List.filterMap_cons, hfirst]

theorem filterMap_split_trim (s : List Char) :
    (split '\n' (trim s)).filterMap f = (split '\n' s).filterMap f := by
  have hbefore : ∀ b t : List Char, (∀ c ∈ b, isBlank c = true) →
      (split '\n' (b ++ t)).filterMap f = (split '\n' t).filterMap f := by
    intro b t hb
    induction b with
    | nil => rfl
    | cons c b ih =>
      obtain ⟨hc, hb⟩ := List.forall_mem_cons.mp hb
      rw [List.cons_append, filterMap_split_cons hf hn hc, ih hb]
  have hafter : ∀ b t : List Char, (∀ c ∈ b, isBlank c = true) →
      (split '\n' (t ++ b)).filterMap f = (split '\n' t).filterMap f := by
    intro b
    induction b with
    | nil => simp
    | cons c b ih =>
      intro t hb
      obtain ⟨hc, hb⟩ := List.forall_mem_cons.mp hb
      rw [List.append_cons, ih _ hb, filterMap_split_concat hf hn hc]
  obtain ⟨before, after, hs, hb, ha⟩ := exists_blanks s
  conv_rhs => rw [hs, hafter after _ ha, hbefore before _ hb]

theorem filterMap_lines_trim (s : List Char) :
    (lines (trim s)).filterMap f = (lines s).filterMap f := by
  rw [filterMap_lines hf hn, filterMap_lines hf hn, filterMap_split_trim hf hn]

theorem filterMap_lines_of_no_newline {s : List Char} (hs : '\n' ∉ s) :
    (lines s).filterMap f = (f s).toList := by
  rw [filterMap_lines hf hn, split_eq_singleton_iff.mpr ⟨rfl, hs⟩]
  cases h : f s <;> simp [h]

theorem filterMap_lines_around {before core after : List Char}
    (hb : ∀ c ∈ before, isBlank c = true) (ha : ∀ c ∈ after, isBlank c = true)
    (hc : '\n' ∉ core) : (lines (before ++ core ++ after)).filterMap f = (f core).toList := by
  rw [← filterMap_lines_trim hf hn, trim_append_blanks ha, trim_blanks_append hb,
    filterMap_lines_trim hf hn, filterMap_lines_of_no_newline hf hn hc]

theorem filterMap_lines_append (a b : List Char) :
    (lines (a ++ '\n' :: b)).filterMap f = (lines a).filterMap f ++ (lines b).filterMap f := by
  rw [filterMap_lines hf hn, filterMap_lines hf hn, filterMap_lines hf hn, split_append_sep,
    List.filterMap_append]

/-- What is read from lines is read from the text of them, in their order. -/
theorem filterMap_lines_intercalate {texts : List String} {entries : List (Option β)}
    (h : List.Forall₂ (fun s e => (lines s.toList).filterMap f = e.toList) texts entries) :
    (lines ("\n".intercalate texts).toList).filterMap f = entries.reduceOption := by
  induction h with
  | nil => rfl
  | @cons s e texts entries hs _ ih =>
    have hcut : (lines ("\n".intercalate (s :: texts)).toList).filterMap f =
        (lines s.toList).filterMap f ++ (lines ("\n".intercalate texts).toList).filterMap f := by
      cases texts with
      | nil =>
        rw [String.intercalate_singleton]
        exact (List.append_nil _).symm
      | cons t texts =>
        have htext : ("\n".intercalate (s :: t :: texts)).toList =
            s.toList ++ '\n' :: ("\n".intercalate (t :: texts)).toList := by
          simp [String.intercalate_cons_cons]
        rw [htext, filterMap_lines_append hf hn]
    rw [hcut, hs, ih]
    cases e <;> rfl

end Reading

end NodeSurvey.Text
