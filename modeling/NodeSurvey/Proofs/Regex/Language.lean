import Mathlib.Computability.Language
import NodeSurvey.Proofs.Regex.Reach

/-! The texts of an expression. Where no part of an expression looks at what stands around it, its
matches depend on the text between two places alone, so it has a language, which is put together as
the expression is. Between the two ends of a text such an expression accepts its language. -/

namespace NodeSurvey.Regex.Matcher

open Computability

/-- The matches of an expression are the occurrences of the words of a language. -/
def Reads (m : Matcher) (l : Language Char) : Prop :=
  ∀ before word after : List Char,
    Spans (before ++ (word ++ after)) m before.length (before.length + word.length) ↔ word ∈ l

/-- The texts of one character of a class. -/
def letter (accepts : Char → Bool) : Language Char := fun word => ∃ c, accepts c = true ∧ word = [c]

variable {m : Matcher} {items rest : List Matcher} {l k : Language Char} {accepts : Char → Bool}
variable {word : List Char}

theorem mem_letter : word ∈ letter accepts ↔ ∃ c, accepts c = true ∧ word = [c] := Iff.rfl

theorem mem_kstar_letter : word ∈ (letter accepts)∗ ↔ ∀ c ∈ word, accepts c = true := by
  rw [Language.mem_kstar]
  constructor
  · rintro ⟨words, rfl, hwords⟩ c hc
    obtain ⟨w, hw, hc⟩ := List.mem_flatten.mp hc
    obtain ⟨d, hd, rfl⟩ := hwords w hw
    exact List.mem_singleton.mp hc ▸ hd
  · intro h
    refine ⟨word.map fun c => [c], (List.flatMap_singleton' word).symm, fun w hw => ?_⟩
    obtain ⟨c, hc, rfl⟩ := List.mem_map.mp hw
    exact ⟨c, h c hc, rfl⟩

theorem intercalate_cons_eq (c : Char) (first : List Char) (pieces : List (List Char)) :
    [c].intercalate (first :: pieces) = first ++ (pieces.map (c :: ·)).flatten := by
  induction pieces generalizing first with
  | nil => simp
  | cons p pieces ih => rw [List.intercalate_cons_cons, ih]; simp

theorem mem_separated {c : Char} :
    word ∈ l * (letter (· = c) * l)∗ ↔
      ∃ pieces, pieces ≠ [] ∧ (∀ p ∈ pieces, p ∈ l) ∧ word = [c].intercalate pieces := by
  rw [Language.mem_mul]
  constructor
  · rintro ⟨first, hfirst, _, hrest, rfl⟩
    obtain ⟨words, rfl, hwords⟩ := Language.mem_kstar.mp hrest
    have hparts : ∀ w ∈ words, c :: w.tail = w ∧ w.tail ∈ l := by
      intro w hw
      obtain ⟨_, ⟨d, hd, rfl⟩, p, hp, rfl⟩ := Language.mem_mul.mp (hwords w hw)
      exact ⟨by simpa using (of_decide_eq_true hd).symm, hp⟩
    have hwhole : (words.map List.tail).map (c :: ·) = words := by
      rw [List.map_map]
      exact (List.map_congr_left fun w hw => (hparts w hw).1).trans (List.map_id words)
    refine ⟨first :: words.map List.tail, List.cons_ne_nil _ _, ?_, ?_⟩
    · refine List.forall_mem_cons.mpr ⟨hfirst, fun p hp => ?_⟩
      obtain ⟨w, hw, rfl⟩ := List.mem_map.mp hp
      exact (hparts w hw).2
    · rw [intercalate_cons_eq, hwhole]
  · rintro ⟨pieces, hne, hpieces, rfl⟩
    obtain ⟨first, pieces, rfl⟩ := List.exists_cons_of_ne_nil hne
    obtain ⟨hfirst, hpieces⟩ := List.forall_mem_cons.mp hpieces
    refine ⟨first, hfirst, _, ?_, (intercalate_cons_eq c first pieces).symm⟩
    refine Language.mem_kstar.mpr ⟨_, rfl, fun w hw => ?_⟩
    obtain ⟨p, hp, rfl⟩ := List.mem_map.mp hw
    exact Language.mem_mul.mpr ⟨[c], ⟨c, decide_eq_true rfl, rfl⟩, p, hpieces p hp, rfl⟩

theorem reads_chars (weight : Nat) : Reads (.chars weight accepts) (letter accepts) := by
  intro before word after
  constructor
  · intro h
    generalize hj : before.length + word.length = j at h
    cases h with
    | @chars _ _ _ c hc ha =>
      have hl : word.length = 1 := by omega
      obtain ⟨d, rfl⟩ := List.length_eq_one_iff.mp hl
      simp only [List.singleton_append, List.getElem?_append_right (Nat.le_refl _),
        Nat.sub_self, List.getElem?_cons_zero, Option.some.injEq] at hc
      exact ⟨d, hc ▸ ha, rfl⟩
  · rintro ⟨c, hc, rfl⟩
    exact .chars (by simp) hc

theorem reads_nil : Reads (.sequence []) 1 := by
  intro before word after
  rw [spans_nil_iff, Language.mem_one, ← List.length_eq_zero_iff]
  omega

theorem exists_cut {before word : List Char} {j : Nat} (hj : before.length ≤ j)
    (hj' : j ≤ before.length + word.length) :
    ∃ u v, word = u ++ v ∧ j = (before ++ u).length := by
  refine ⟨word.take (j - before.length), word.drop (j - before.length), by simp, ?_⟩
  rw [List.length_append, List.length_take]
  omega

theorem Reads.append (hm : Reads (.sequence items) l) (hr : Reads (.sequence rest) k) :
    Reads (.sequence (items ++ rest)) (l * k) := by
  intro before word after
  rw [spans_append_iff, Language.mem_mul]
  constructor
  · rintro ⟨j, hspan, hrest⟩
    obtain ⟨hj, hlen⟩ := hspan.bounds (by simp)
    obtain ⟨hj', _⟩ := hrest.bounds hlen
    obtain ⟨u, v, rfl, rfl⟩ := exists_cut hj hj'
    refine ⟨u, (hm before u (v ++ after)).mp ?_, v, (hr (before ++ u) v after).mp ?_, rfl⟩
    · simpa [List.append_assoc] using hspan
    · simpa [List.append_assoc, Nat.add_assoc] using hrest
  · rintro ⟨u, hu, v, hv, rfl⟩
    refine ⟨(before ++ u).length, ?_, ?_⟩
    · simpa [List.append_assoc] using (hm before u (v ++ after)).mpr hu
    · simpa [List.append_assoc, Nat.add_assoc] using (hr (before ++ u) v after).mpr hv

theorem Reads.singleton (hm : Reads m l) : Reads (.sequence [m]) l := by
  intro before word after
  rw [← hm before word after, spans_cons_iff]
  simp [spans_nil_iff]

theorem Reads.cons (hm : Reads m l) (hr : Reads (.sequence items) k) :
    Reads (.sequence (m :: items)) (l * k) :=
  hm.singleton.append hr

theorem Reads.chain (hm : Reads m l) (n : Nat) :
    Reads (.sequence (List.replicate n m)) (l ^ n) := by
  induction n with
  | zero => simpa using reads_nil
  | succ n ih =>
    rw [List.replicate_succ, pow_succ']
    exact hm.cons ih

theorem Reads.optional (hm : Reads m l) : Reads (.repeated 0 (some 1) m) (1 + l) := by
  intro before word after
  have hchain := fun n => hm.chain n before word after
  rw [spans_repeated_iff, Language.mem_add]
  constructor
  · rintro ⟨more, hmore, hc⟩
    have hle := hmore 1 rfl
    obtain rfl | rfl : more = 0 ∨ more = 1 := by omega
    · exact .inl (by simpa using (hchain _).mp hc)
    · exact .inr (by simpa using (hchain _).mp hc)
  · rintro (h | h)
    · exact ⟨0, by simp, (hchain 0).mpr (by simpa using h)⟩
    · exact ⟨1, by simp, (hchain 1).mpr (by simpa using h)⟩

theorem Reads.star (hm : Reads m l) : Reads (.repeated 0 none m) l∗ := by
  intro before word after
  rw [spans_repeated_iff, Language.kstar_eq_iSup_pow, Language.mem_iSup]
  simp only [Nat.zero_add, reduceCtorEq, false_implies, implies_true, true_and]
  exact exists_congr fun n => hm.chain n before word after

/-- Between the ends of a text an expression accepts the words of its language and no others. -/
theorem Reads.accepts_iff (hm : Reads (.sequence items) l) :
    (sequence (.assertion .start :: (items ++ [.assertion .finish]))).accepts word = true ↔
      word ∈ l := by
  have hend : ∀ {a : Assertion} {i j : Nat},
      Spans word (.assertion a) i j ↔ j = i ∧ holds word a i = true := by
    intro a i j
    constructor
    · intro h
      cases h with
      | assertion ha => exact ⟨rfl, ha⟩
    · rintro ⟨rfl, ha⟩
      exact .assertion ha
  have hwhole := hm [] word []
  simp only [List.nil_append, List.append_nil, List.length_nil, Nat.zero_add] at hwhole
  rw [Matcher.accepts_iff, ← hwhole]
  simp only [spans_cons_iff, spans_append_iff, spans_nil_iff, hend, holds, decide_eq_true_eq]
  constructor
  · rintro ⟨i, _, j, _, ⟨rfl, rfl⟩, x, hspan, y, ⟨rfl, rfl⟩, rfl⟩
    exact hspan
  · intro hspan
    exact ⟨0, Nat.zero_le _, word.length, 0, ⟨rfl, rfl⟩, word.length, hspan, word.length,
      ⟨rfl, rfl⟩, rfl⟩

end NodeSurvey.Regex.Matcher

namespace NodeSurvey.Regex

open Computability Matcher

variable {p : Pattern} {items rest : List Pattern} {l k : Language Char}

/-- An expression as it is written has a matcher that reads a language. -/
def Pattern.Reads (p : Pattern) (l : Language Char) : Prop :=
  ∃ m, p.matcher? .default = some (m, .default) ∧ m.Reads l

/-- The same of expressions behind one another. -/
def AllRead (items : List Pattern) (l : Language Char) : Prop :=
  ∃ ms, matchers? .default items = some (ms, .default) ∧ (Matcher.sequence ms).Reads l

theorem Pattern.reads_class {c : CharClass} {accepts : Char → Bool}
    (hc : c.accepts? .default = some accepts) : (class' c).Reads (letter accepts) :=
  ⟨_, by rw [matcher?, hc]; rfl, reads_chars _⟩

theorem Pattern.reads_literal (c : Char) : (literal ⟨c, false⟩).Reads (letter (· = c)) :=
  ⟨_, rfl, reads_chars _⟩

theorem Pattern.Reads.optional (hp : p.Reads l) :
    (Pattern.repeated 0 (some 1) p).Reads (1 + l) := by
  obtain ⟨m, hm, hr⟩ := hp
  exact ⟨_, by rw [Pattern.matcher?, hm]; rfl, hr.optional⟩

theorem Pattern.Reads.star (hp : p.Reads l) : (Pattern.repeated 0 none p).Reads l∗ := by
  obtain ⟨m, hm, hr⟩ := hp
  exact ⟨_, by rw [Pattern.matcher?, hm]; rfl, hr.star⟩

theorem matchers?_append {f f' f'' : Flags} {ms ns : List Matcher}
    (hm : matchers? f items = some (ms, f')) (hn : matchers? f' rest = some (ns, f'')) :
    matchers? f (items ++ rest) = some (ms ++ ns, f'') := by
  induction items generalizing f ms with
  | nil =>
    rw [matchers?] at hm
    cases hm
    exact hn
  | cons p items ih =>
    rw [matchers?] at hm
    obtain ⟨⟨m, g⟩, hp, hm⟩ := Option.bind_eq_some_iff.mp hm
    obtain ⟨⟨ms', g'⟩, hitems, hm⟩ := Option.bind_eq_some_iff.mp hm
    cases hm
    rw [List.cons_append, matchers?, hp]
    simp [ih hitems]

theorem AllRead.append (hi : AllRead items l) (hr : AllRead rest k) :
    AllRead (items ++ rest) (l * k) := by
  obtain ⟨ms, hms, hl⟩ := hi
  obtain ⟨ns, hns, hk⟩ := hr
  exact ⟨ms ++ ns, matchers?_append hms hns, hl.append hk⟩

theorem Pattern.Reads.single (hp : p.Reads l) : AllRead [p] l := by
  obtain ⟨m, hm, hl⟩ := hp
  exact ⟨[m], by rw [matchers?, hm]; rfl, hl.singleton⟩

theorem AllRead.cons (hp : p.Reads l) (hr : AllRead items k) : AllRead (p :: items) (l * k) :=
  hp.single.append hr

theorem AllRead.group (hr : AllRead items l) : (Pattern.group [] (.concat items)).Reads l := by
  obtain ⟨ms, hms, hl⟩ := hr
  refine ⟨.sequence ms, ?_, hl⟩
  have hf : Flags.default.change [] = .default := rfl
  rw [Pattern.matcher?, hf, Pattern.matcher?, hms]
  rfl

def anchored (items : List Pattern) : Pattern :=
  .concat (.assertion .start :: (items ++ [.assertion .finish]))

theorem AllRead.compile {s : String} (hr : AllRead items l)
    (hp : Pattern.parse? s = some (anchored items)) (hs : (compile? s).isSome = true) :
    ∃ m, compile? s = some m ∧ ∀ word, m.accepts word = true ↔ word ∈ l := by
  obtain ⟨ms, hms, hl⟩ := hr
  have hfinish : matchers? .default [.assertion .finish] =
      some ([.assertion .finish], .default) := rfl
  have hm : (anchored items).matcher? .default =
      some (.sequence (.assertion .start :: (ms ++ [.assertion .finish])), .default) := by
    rw [anchored, Pattern.matcher?, matchers?, Pattern.matcher?]
    simp [matchers?_append hms hfinish]
  refine ⟨_, ?_, fun word => hl.accepts_iff⟩
  rw [compile?, hp] at hs ⊢
  simp only [Option.bind_eq_bind, Option.bind_some, hm] at hs ⊢
  split at hs
  · rename_i hsize
    exact if_pos hsize
  · cases hs

end NodeSurvey.Regex
