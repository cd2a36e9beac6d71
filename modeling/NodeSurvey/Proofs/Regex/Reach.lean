import NodeSurvey.Regex.Matcher

/-! Where the matches of an expression can end. The rules of `Spans` say between which places of a
text an expression has a match, with repetitions of any length. The search goes by sets of places
and stops a repetition that is longer than the text; it finds the same places, since such a
repetition stands still somewhere and can as well be shorter or longer. -/

namespace NodeSurvey.Regex.Matcher

/-- Between which places of a text an expression has a match. A repetition may go on for as long as
its bounds differ, so bounds in the wrong order allow the lower one only. -/
inductive Spans (text : List Char) : Matcher → Nat → Nat → Prop where
  | empty (i : Nat) : Spans text .empty i i
  | chars {weight : Nat} {accepts : Char → Bool} {i : Nat} {c : Char} (hc : text[i]? = some c)
      (ha : accepts c = true) : Spans text (.chars weight accepts) i (i + 1)
  | assertion {a : Assertion} {i : Nat} (h : holds text a i = true) :
      Spans text (.assertion a) i i
  | done (i : Nat) : Spans text (.sequence []) i i
  | next {m : Matcher} {items : List Matcher} {i j k : Nat} (hm : Spans text m i j)
      (hr : Spans text (.sequence items) j k) : Spans text (.sequence (m :: items)) i k
  | branch {m : Matcher} {branches : List Matcher} {i j : Nat} (hb : m ∈ branches)
      (hm : Spans text m i j) : Spans text (.alternation branches) i j
  | repeated {least : Nat} {most : Option Nat} {m : Matcher} {i j : Nat} (more : Nat)
      (hmore : ∀ n, most = some n → more ≤ n - least)
      (hr : Spans text (.sequence (List.replicate (least + more) m)) i j) :
      Spans text (.repeated least most m) i j

/-- A number of matches of an expression behind one another. -/
abbrev Chain (text : List Char) (m : Matcher) (n i j : Nat) : Prop :=
  Spans text (.sequence (List.replicate n m)) i j

variable {text : List Char} {m : Matcher} {items : List Matcher} {i j k n : Nat}

theorem Spans.bounds (h : Spans text m i j) (hi : i ≤ text.length) :
    i ≤ j ∧ j ≤ text.length := by
  induction h with
  | empty i => exact ⟨Nat.le_refl i, hi⟩
  | chars hc ha =>
    have := (List.getElem?_eq_some_iff.mp hc).1
    omega
  | assertion h => exact ⟨Nat.le_refl _, hi⟩
  | done i => exact ⟨Nat.le_refl i, hi⟩
  | next hm hr ihm ihr =>
    obtain ⟨h1, h2⟩ := ihm hi
    obtain ⟨h3, h4⟩ := ihr h2
    exact ⟨Nat.le_trans h1 h3, h4⟩
  | branch hb hm ih => exact ih hi
  | repeated more hmore hr ih => exact ih hi

theorem spans_nil_iff : Spans text (.sequence []) i j ↔ j = i := by
  constructor
  · intro h
    cases h
    rfl
  · rintro rfl
    exact .done j

theorem spans_cons_iff :
    Spans text (.sequence (m :: items)) i k ↔
      ∃ j, Spans text m i j ∧ Spans text (.sequence items) j k := by
  constructor
  · intro h
    cases h with
    | next hm hr => exact ⟨_, hm, hr⟩
  · rintro ⟨j, hm, hr⟩
    exact .next hm hr

theorem spans_append_iff {rest : List Matcher} :
    Spans text (.sequence (items ++ rest)) i k ↔
      ∃ j, Spans text (.sequence items) i j ∧ Spans text (.sequence rest) j k := by
  induction items generalizing i with
  | nil => simp [spans_nil_iff]
  | cons m items ih =>
    simp only [List.cons_append, spans_cons_iff, ih]
    constructor
    · rintro ⟨x, hm, y, hi, hr⟩
      exact ⟨y, ⟨x, hm, hi⟩, hr⟩
    · rintro ⟨y, ⟨x, hm, hi⟩, hr⟩
      exact ⟨x, hm, y, hi, hr⟩

theorem spans_branches_iff {branches : List Matcher} :
    Spans text (.alternation branches) i j ↔ ∃ m ∈ branches, Spans text m i j := by
  constructor
  · intro h
    cases h with
    | branch hb hm => exact ⟨_, hb, hm⟩
  · rintro ⟨m, hb, hm⟩
    exact .branch hb hm

theorem spans_repeated_iff {least : Nat} {most : Option Nat} :
    Spans text (.repeated least most m) i j ↔
      ∃ more, (∀ n, most = some n → more ≤ n - least) ∧ Chain text m (least + more) i j := by
  constructor
  · intro h
    cases h with
    | repeated more hmore hr => exact ⟨more, hmore, hr⟩
  · rintro ⟨more, hmore, hr⟩
    exact .repeated more hmore hr

/-! Chains of matches. -/

theorem chain_zero_iff : Chain text m 0 i j ↔ j = i := spans_nil_iff

theorem chain_succ_iff : Chain text m (n + 1) i k ↔ ∃ j, Spans text m i j ∧ Chain text m n j k := by
  rw [Chain, List.replicate_succ]
  exact spans_cons_iff

theorem chain_add_iff {l : Nat} :
    Chain text m (l + n) i k ↔ ∃ j, Chain text m l i j ∧ Chain text m n j k := by
  rw [Chain, ← List.replicate_append_replicate]
  exact spans_append_iff

theorem chain_of_idle (hm : Spans text m i i) (n : Nat) : Chain text m n i i := by
  induction n with
  | zero => exact chain_zero_iff.mpr rfl
  | succ n ih => exact chain_succ_iff.mpr ⟨i, hm, ih⟩

/-- A chain with more links than places to go through has an idle link, which can be repeated or
left out. -/
theorem Chain.resize (h : Chain text m n i j) (hi : i ≤ text.length) (hn : j - i < n) {l : Nat}
    (hl : j - i ≤ l) : Chain text m l i j := by
  induction n generalizing i l with
  | zero => exact absurd hn (Nat.not_lt_zero _)
  | succ n ih =>
    obtain ⟨x, hm, hr⟩ := chain_succ_iff.mp h
    obtain ⟨hx, hxl⟩ := hm.bounds hi
    obtain ⟨hj, _⟩ := hr.bounds hxl
    by_cases hidle : x = i
    · subst hidle
      by_cases hlt : j - x < n
      · exact ih hr hi hlt hl
      · obtain ⟨idle, rfl⟩ : ∃ idle, l = idle + n := ⟨l - n, by omega⟩
        exact chain_add_iff.mpr ⟨x, chain_of_idle hm idle, hr⟩
    · obtain ⟨l, rfl⟩ : ∃ l', l = l' + 1 := ⟨l - 1, by omega⟩
      exact chain_succ_iff.mpr ⟨x, hm, ih hr hxl (by omega) (by omega)⟩

theorem Chain.shorten (h : Chain text m n i j) (hi : i ≤ text.length) :
    ∃ l ≤ n, l ≤ text.length ∧ Chain text m l i j := by
  have hj := (h.bounds hi).2
  by_cases hn : j - i < n
  · exact ⟨j - i, by omega, by omega, h.resize hi hn (Nat.le_refl _)⟩
  · exact ⟨n, Nat.le_refl n, by omega, h⟩

theorem chain_min_iff (hi : i ≤ text.length) :
    Chain text m (min n (text.length + 1)) i j ↔ Chain text m n i j := by
  by_cases hn : n ≤ text.length + 1
  · rw [Nat.min_eq_left hn]
  · rw [Nat.min_eq_right (by omega)]
    constructor <;> intro h <;> have hj := (h.bounds hi).2 <;>
      exact h.resize hi (by omega) (by omega)

/-! The search. -/

/-- A step takes places of the text to all places that a match from one of them ends at. -/
def Realizes (text : List Char) (step : List Nat → List Nat) (m : Matcher) : Prop :=
  ∀ s, (∀ i ∈ s, i ≤ text.length) → ∀ j, j ∈ step s ↔ ∃ i ∈ s, Spans text m i j

variable {step : List Nat → List Nat} {s : List Nat}

theorem Realizes.bounded (hr : Realizes text step m) (hs : ∀ i ∈ s, i ≤ text.length) :
    ∀ j ∈ step s, j ≤ text.length := by
  intro j hj
  obtain ⟨i, hi, hm⟩ := (hr s hs j).mp hj
  exact (hm.bounds (hs i hi)).2

theorem mem_union {t : List Nat} : j ∈ union s t ↔ j ∈ s ∨ j ∈ t := by
  by_cases h : j ∈ s <;> simp [union, h]

theorem Realizes.cons {more : List Nat → List Nat} (hm : Realizes text step m)
    (hr : Realizes text more (.sequence items)) :
    Realizes text (fun s => more (step s)) (.sequence (m :: items)) := by
  intro s hs j
  rw [hr (step s) (hm.bounded hs) j]
  simp only [hm s hs, spans_cons_iff]
  constructor
  · rintro ⟨x, ⟨i, hi, hx⟩, hc⟩
    exact ⟨i, hi, x, hx, hc⟩
  · rintro ⟨i, hi, x, hx, hc⟩
    exact ⟨x, ⟨i, hi, hx⟩, hc⟩

theorem Realizes.times (hr : Realizes text step m) (n : Nat) :
    Realizes text (times step n) (.sequence (List.replicate n m)) := by
  induction n with
  | zero =>
    intro s hs j
    simp [Matcher.times, spans_nil_iff]
  | succ n ih => exact hr.cons ih

theorem Realizes.mem_of_chain (hr : Realizes text step m) (hs : ∀ i ∈ s, i ≤ text.length)
    (hclosed : ∀ j ∈ step s, j ∈ s) (hi : i ∈ s) (hc : Chain text m n i j) : j ∈ s := by
  induction n generalizing i with
  | zero => exact chain_zero_iff.mp hc ▸ hi
  | succ n ih =>
    obtain ⟨x, hm, hc⟩ := chain_succ_iff.mp hc
    exact ih (hclosed x ((hr s hs x).mpr ⟨i, hi, hm⟩)) hc

theorem Realizes.mem_closure (hr : Realizes text step m) (hs : ∀ i ∈ s, i ≤ text.length) :
    j ∈ closure step n s ↔ ∃ k ≤ n, ∃ i ∈ s, Chain text m k i j := by
  induction n generalizing s with
  | zero =>
    simp [closure, chain_zero_iff]
  | succ n ih =>
    rw [closure]
    have hstay : j ∈ s → ∃ k ≤ n + 1, ∃ i ∈ s, Chain text m k i j :=
      fun hj => ⟨0, Nat.zero_le _, j, hj, chain_zero_iff.mpr rfl⟩
    by_cases hl : (union s (step s)).length = s.length
    · rw [if_pos hl]
      have hclosed : ∀ x ∈ step s, x ∈ s := by
        have hnew : (step s).filter (!s.contains ·) = [] := by
          have := hl
          rw [union, List.length_append] at this
          exact List.length_eq_zero_iff.mp (by omega)
        intro x hx
        simpa using List.filter_eq_nil_iff.mp hnew x hx
      exact ⟨hstay, fun ⟨k, _, i, hi, hc⟩ => hr.mem_of_chain hs hclosed hi hc⟩
    · rw [if_neg hl, ih fun i hi => (mem_union.mp hi).elim (hs i) (hr.bounded hs i)]
      constructor
      · rintro ⟨k, hk, i, hi, hc⟩
        rcases mem_union.mp hi with hi | hi
        · exact ⟨k, Nat.le_succ_of_le hk, i, hi, hc⟩
        · obtain ⟨x, hx, hm⟩ := (hr s hs i).mp hi
          exact ⟨k + 1, Nat.succ_le_succ hk, x, hx, chain_succ_iff.mpr ⟨i, hm, hc⟩⟩
      · rintro ⟨k, hk, i, hi, hc⟩
        cases k with
        | zero => exact ⟨0, Nat.zero_le _, i, mem_union.mpr (.inl hi), hc⟩
        | succ k =>
          obtain ⟨x, hm, hc⟩ := chain_succ_iff.mp hc
          exact ⟨k, Nat.le_of_succ_le_succ hk, x,
            mem_union.mpr (.inr ((hr s hs x).mpr ⟨i, hi, hm⟩)), hc⟩

theorem realizes_repeated (least : Nat) (most : Option Nat) (hr : Realizes text (reach text m) m) :
    Realizes text (reach text (.repeated least most m)) (.repeated least most m) := by
  intro s hs j
  have htimes := hr.times (min least (text.length + 1))
  have hs' := htimes.bounded hs
  have hreach : j ∈ reach text (.repeated least most m) s ↔
      ∃ more, (∀ n, most = some n → more ≤ n - least) ∧ more ≤ text.length + 1 ∧
        ∃ x ∈ times (reach text m) (min least (text.length + 1)) s, Chain text m more x j := by
    cases most with
    | none =>
      rw [reach]
      simp [hr.mem_closure hs']
    | some n =>
      simp only [reach, hr.mem_closure hs', Nat.le_min, Option.some.injEq, forall_eq', and_assoc]
  rw [hreach]
  constructor
  · rintro ⟨more, hmore, _, x, hx, hc⟩
    obtain ⟨i, hi, hf⟩ := (htimes s hs x).mp hx
    exact ⟨i, hi, .repeated more hmore
      (chain_add_iff.mpr ⟨x, (chain_min_iff (hs i hi)).mp hf, hc⟩)⟩
  · rintro ⟨i, hi, h⟩
    obtain ⟨more, hmore, hc⟩ := spans_repeated_iff.mp h
    obtain ⟨x, hf, hc⟩ := chain_add_iff.mp hc
    obtain ⟨l, hl, hlen, hc⟩ := hc.shorten (hf.bounds (hs i hi)).2
    exact ⟨l, fun n hn => Nat.le_trans hl (hmore n hn), Nat.le_succ_of_le hlen, x,
      (htimes s hs x).mpr ⟨i, hi, (chain_min_iff (hs i hi)).mpr hf⟩, hc⟩

mutual

/-- The search finds the places where matches end, and no others. -/
theorem realizes_reach : (m : Matcher) → Realizes text (reach text m) m
  | .empty => fun s _ j => by
    rw [reach]
    constructor
    · exact fun hj => ⟨j, hj, .empty j⟩
    · rintro ⟨i, hi, h⟩
      cases h
      exact hi
  | .chars weight accepts => fun s _ j => by
    rw [reach, List.mem_filterMap]
    refine exists_congr fun i => and_congr_right fun _ => ?_
    constructor
    · intro h
      split at h
      · rename_i ha
        obtain ⟨c, hc, ha⟩ := (Option.any_eq_true ..).mp ha
        cases h
        exact .chars hc ha
      · cases h
    · intro h
      cases h with
      | chars hc ha => simp [hc, ha]
  | .assertion a => fun s _ j => by
    rw [reach, List.mem_filter]
    constructor
    · exact fun ⟨hj, ha⟩ => ⟨j, hj, .assertion ha⟩
    · rintro ⟨i, hi, h⟩
      cases h with
      | assertion ha => exact ⟨hi, ha⟩
  | .sequence items => realizes_reachAll items
  | .alternation branches => realizes_reachAny branches
  | .repeated least most m => realizes_repeated least most (realizes_reach m)

theorem realizes_reachAll : (items : List Matcher) →
    Realizes text (reach.reachAll text items) (.sequence items)
  | [] => fun s _ j => by simp [reach.reachAll, spans_nil_iff]
  | m :: items => fun s hs j => by
    rw [reach.reachAll]
    exact (realizes_reach m).cons (realizes_reachAll items) s hs j

theorem realizes_reachAny : (branches : List Matcher) →
    Realizes text (reach.reachAny text branches) (.alternation branches)
  | [] => fun s _ j => by simp [reach.reachAny, spans_branches_iff]
  | m :: branches => fun s hs j => by
    rw [reach.reachAny, mem_union, realizes_reach m s hs, realizes_reachAny branches s hs]
    simp only [spans_branches_iff, List.mem_cons, or_and_right, exists_or, exists_eq_left,
      and_or_left]

end

theorem accepts_iff :
    m.accepts text = true ↔ ∃ i ≤ text.length, ∃ j, Spans text m i j := by
  have hs : ∀ i ∈ List.range (text.length + 1), i ≤ text.length := fun i hi =>
    Nat.le_of_lt_succ (List.mem_range.mp hi)
  rw [accepts, Bool.not_eq_true', List.isEmpty_eq_false_iff_exists_mem]
  simp only [realizes_reach m _ hs, List.mem_range, Nat.lt_succ_iff]
  constructor
  · rintro ⟨j, i, hi, h⟩
    exact ⟨i, hi, j, h⟩
  · rintro ⟨i, hi, j, h⟩
    exact ⟨j, i, hi, h⟩

end NodeSurvey.Regex.Matcher
