import Mathlib.Data.List.TakeWhile
import NodeSurvey.Duration.Reader

/-! Which texts are spans of time. A text is cut where numerals end and where they begin again, and
since no unit holds a numeral there is only one way to cut it into numbers with units. -/

namespace NodeSurvey

namespace Binary64

open Duration (isNumeral)

/-- A decimal without sign and exponent: digits, at least one, and at most one point. -/
structure IsDecimal (s : List Char) : Prop where
  numerals : ∀ c ∈ s, c.isDigit = true ∨ c = '.'
  point : s.count '.' ≤ 1
  digit : ∃ c ∈ s, c.isDigit = true

/-- The digits as one whole number, shifted by as many places as stand behind the point. -/
def decimalValue (s : List Char) : Binary64 :=
  ofDecimal false (digitsValue (s.filter Char.isDigit))
    (-((s.dropWhile Char.isDigit).length - 1 : Nat))

theorem isNumeral_iff {c : Char} : isNumeral c = true ↔ c.isDigit = true ∨ c = '.' := by
  simp [isNumeral]

theorem IsDecimal.isNumeral {s : List Char} (h : IsDecimal s) : ∀ c ∈ s, isNumeral c = true :=
  fun c hc => isNumeral_iff.mpr (h.numerals c hc)

theorem ne_point_of_isDigit {c : Char} (h : c.isDigit = true) : c ≠ '.' := by
  rintro rfl
  exact absurd h (by decide)

theorem cases_of_numerals {s : List Char} (hs : ∀ c ∈ s, isNumeral c = true) :
    ∃ a b r : List Char, (∀ c ∈ a, c.isDigit = true) ∧ (∀ c ∈ b, c.isDigit = true) ∧
      (s = a ∨ s = a ++ '.' :: b ∨ s = a ++ '.' :: (b ++ '.' :: r)) := by
  have hcut : ∀ t : List Char, (∀ c ∈ t, isNumeral c = true) →
      ∃ a r : List Char, (∀ c ∈ a, c.isDigit = true) ∧ (t = a ∨ t = a ++ '.' :: r) := by
    intro t ht
    induction t with
    | nil => exact ⟨[], [], by simp, .inl rfl⟩
    | cons c t ih =>
      obtain ⟨a, r, ha, hr⟩ := ih fun d hd => ht d (List.mem_cons_of_mem _ hd)
      rcases isNumeral_iff.mp (ht c List.mem_cons_self) with hc | rfl
      · exact ⟨c :: a, r, List.forall_mem_cons.mpr ⟨hc, ha⟩, hr.imp (congrArg _) (congrArg _)⟩
      · exact ⟨[], t, by simp, .inr rfl⟩
  obtain ⟨a, r, ha, h | rfl⟩ := hcut s hs
  · exact ⟨a, [], [], ha, by simp, .inl h⟩
  · have hr : ∀ c ∈ r, isNumeral c = true := fun c hc => hs c (by simp [hc])
    obtain ⟨b, r', hb, h | h⟩ := hcut r hr
    · exact ⟨a, b, [], ha, hb, .inr (.inl (h ▸ rfl))⟩
    · exact ⟨a, b, r', ha, hb, .inr (.inr (h ▸ rfl))⟩

section

variable {a b : List Char} (ha : ∀ c ∈ a, c.isDigit = true) (hb : ∀ c ∈ b, c.isDigit = true)

include ha

theorem count_point : a.count '.' = 0 :=
  List.count_eq_zero.mpr fun h => absurd (ha _ h) (by decide)

theorem takeWhile_digits (r : List Char) :
    (a ++ '.' :: r).takeWhile Char.isDigit = a := by
  rw [List.takeWhile_append_of_pos ha, List.takeWhile_cons_of_neg (by decide), List.append_nil]

theorem dropWhile_digits (r : List Char) :
    (a ++ '.' :: r).dropWhile Char.isDigit = '.' :: r := by
  rw [List.dropWhile_append_of_pos ha, List.dropWhile_cons_of_neg (by decide)]

theorem unsigned?_digits (h : a ≠ []) : unsigned? false a = some (decimalValue a) := by
  have htake : a.takeWhile Char.isDigit = a := List.takeWhile_eq_self_iff.mpr ha
  have hdrop : a.dropWhile Char.isDigit = [] := List.dropWhile_eq_nil_iff.mpr ha
  have hfilter : a.filter Char.isDigit = a := List.filter_eq_self.mpr ha
  simp [unsigned?, decimalValue, htake, hdrop, hfilter, h]

include hb

theorem unsigned?_point :
    unsigned? false (a ++ '.' :: b) =
      if a ++ b = [] then none else some (decimalValue (a ++ '.' :: b)) := by
  have htake : b.takeWhile Char.isDigit = b := List.takeWhile_eq_self_iff.mpr hb
  have hdrop : b.dropWhile Char.isDigit = [] := List.dropWhile_eq_nil_iff.mpr hb
  have hfilter : (a ++ '.' :: b).filter Char.isDigit = a ++ b := by
    rw [List.filter_append, List.filter_cons_of_neg (by decide), List.filter_eq_self.mpr ha,
      List.filter_eq_self.mpr hb]
  simp [unsigned?, decimalValue, takeWhile_digits ha, dropWhile_digits ha, htake, hdrop, hfilter]

theorem unsigned?_points (r : List Char) :
    unsigned? false (a ++ '.' :: (b ++ '.' :: r)) = none := by
  simp [unsigned?, takeWhile_digits ha, dropWhile_digits ha, takeWhile_digits hb,
    dropWhile_digits hb]

end

theorem isDecimal_digits_iff {a : List Char} (ha : ∀ c ∈ a, c.isDigit = true) :
    IsDecimal a ↔ a ≠ [] := by
  refine ⟨fun h => ?_, fun h => ?_⟩
  · obtain ⟨c, hc, -⟩ := h.digit
    exact List.ne_nil_of_mem hc
  · obtain ⟨c, hc⟩ := List.exists_mem_of_ne_nil a h
    exact ⟨fun d hd => .inl (ha d hd), by simp [count_point ha], c, hc, ha c hc⟩

theorem isDecimal_point_iff {a b : List Char} (ha : ∀ c ∈ a, c.isDigit = true)
    (hb : ∀ c ∈ b, c.isDigit = true) : IsDecimal (a ++ '.' :: b) ↔ a ++ b ≠ [] := by
  refine ⟨fun h => ?_, fun h => ?_⟩
  · obtain ⟨c, hc, hd⟩ := h.digit
    have hne : c ≠ '.' := ne_point_of_isDigit hd
    have hab : c ∈ a ++ b := by simpa [hne] using hc
    exact List.ne_nil_of_mem hab
  · obtain ⟨c, hc⟩ := List.exists_mem_of_ne_nil _ h
    have hab : ∀ d ∈ a ++ b, d.isDigit = true := fun d hd =>
      (List.mem_append.mp hd).elim (ha d) (hb d)
    refine ⟨fun d hd => ?_, by simp [count_point ha, count_point hb], c, ?_, hab c hc⟩
    · by_cases hp : d = '.'
      · exact .inr hp
      · exact .inl (hab d (by simpa [hp] using hd))
    · rcases List.mem_append.mp hc with hc | hc <;> simp [hc]

theorem not_isDecimal_points {a b r : List Char} :
    ¬ IsDecimal (a ++ '.' :: (b ++ '.' :: r)) := fun h => by
  have hp := h.point
  simp only [List.count_append, List.count_cons_self] at hp
  omega

theorem lowered_of_numerals {s : List Char} (hs : ∀ c ∈ s, isNumeral c = true) : lowered s = s := by
  refine (List.map_congr_left fun c hc => ?_).trans s.map_id
  have hle : c.val.toNat ≤ 57 := by
    rcases isNumeral_iff.mp (hs c hc) with h | rfl
    · simp only [Char.isDigit, Bool.and_eq_true, decide_eq_true_eq] at h
      exact UInt32.le_iff_toNat_le.mp h.2
    · decide
  refine dif_neg ?_
  rintro ⟨hA, -⟩
  have hge : 65 ≤ c.val.toNat := UInt32.le_iff_toNat_le.mp hA
  omega

theorem splitSign_of_numerals {s : List Char} (hs : ∀ c ∈ s, isNumeral c = true) :
    splitSign s = (false, s) := by
  rw [splitSign.eq_def]
  split
  · exact absurd (hs '-' List.mem_cons_self) (by decide)
  · exact absurd (hs '+' List.mem_cons_self) (by decide)
  · rfl

theorem parse?_of_numerals {s : List Char} (hs : ∀ c ∈ s, isNumeral c = true) :
    parse? s = unsigned? false s := by
  have hword : ∀ w : String, 'n' ∈ w.toList → String.ofList s ≠ w := by
    rintro w hw rfl
    rw [String.toList_ofList] at hw
    exact absurd (hs 'n' hw) (by decide)
  have hinf := hword "inf" (by decide)
  have hinfinity := hword "infinity" (by decide)
  have hnan := hword "nan" (by decide)
  simp only [parse?, splitSign_of_numerals hs, lowered_of_numerals hs, hinf, hinfinity, hnan,
    decide_false, Bool.or_self, Bool.false_eq_true, if_false]

theorem parse?_of_isDecimal {s : List Char} (h : IsDecimal s) :
    parse? s = some (decimalValue s) := by
  rw [parse?_of_numerals h.isNumeral]
  obtain ⟨a, b, r, ha, hb, rfl | rfl | rfl⟩ := cases_of_numerals h.isNumeral
  · exact unsigned?_digits ha ((isDecimal_digits_iff ha).mp h)
  · rw [unsigned?_point ha hb, if_neg ((isDecimal_point_iff ha hb).mp h)]
  · exact absurd h not_isDecimal_points

theorem isDecimal_of_parse? {s : List Char} (hs : ∀ c ∈ s, isNumeral c = true) {x : Binary64}
    (h : parse? s = some x) : IsDecimal s := by
  rw [parse?_of_numerals hs] at h
  obtain ⟨a, b, r, ha, hb, rfl | rfl | rfl⟩ := cases_of_numerals hs
  · refine (isDecimal_digits_iff ha).mpr ?_
    rintro rfl
    cases h
  · rw [unsigned?_point ha hb] at h
    refine (isDecimal_point_iff ha hb).mpr fun he => ?_
    rw [if_pos he] at h
    cases h
  · rw [unsigned?_points ha hb] at h
    cases h

end Binary64

namespace Duration

inductive TimeUnit where
  | milliseconds
  | seconds
  | minutes
  | hours
deriving DecidableEq

namespace TimeUnit

def text : TimeUnit → List Char
  | milliseconds => ['m', 's']
  | seconds => ['s']
  | minutes => ['m']
  | hours => ['h']

def inMilliseconds : TimeUnit → Nat
  | milliseconds => 1
  | seconds => 1000
  | minutes => 60 * 1000
  | hours => 60 * 60 * 1000

theorem unitMilliseconds?_text (u : TimeUnit) :
    unitMilliseconds? u.text = some u.inMilliseconds := by
  cases u <;> rfl

theorem exists_of_unitMilliseconds? {s : List Char} {n : Nat} (h : unitMilliseconds? s = some n) :
    ∃ u : TimeUnit, u.text = s ∧ u.inMilliseconds = n := by
  rw [unitMilliseconds?.eq_def] at h
  split at h
  · exact ⟨milliseconds, rfl, Option.some.inj h⟩
  · exact ⟨seconds, rfl, Option.some.inj h⟩
  · exact ⟨minutes, rfl, Option.some.inj h⟩
  · exact ⟨hours, rfl, Option.some.inj h⟩
  · cases h

theorem not_isNumeral (u : TimeUnit) : ∀ c ∈ u.text, isNumeral c = false := by
  cases u <;> simp [text, isNumeral, Char.isDigit]

theorem text_ne_nil (u : TimeUnit) : u.text ≠ [] := by
  cases u <;> exact List.cons_ne_nil _ _

end TimeUnit

/-- A number directly followed by a unit. -/
structure Component where
  number : List Char
  isDecimal : Binary64.IsDecimal number
  unit : TimeUnit

namespace Component

def text (c : Component) : List Char := c.number ++ c.unit.text

def reading (c : Component) : Binary64 × Nat :=
  (Binary64.decimalValue c.number, c.unit.inMilliseconds)

theorem exists_text_eq (c : Component) : ∃ d r, isNumeral d = true ∧ c.number = d :: r := by
  obtain ⟨x, hx, -⟩ := c.isDecimal.digit
  obtain ⟨d, r, hd⟩ := List.exists_cons_of_ne_nil (List.ne_nil_of_mem hx)
  exact ⟨d, r, c.isDecimal.isNumeral d (hd ▸ List.mem_cons_self), hd⟩

theorem isNumeral_of_mem_head? {l : List Component} :
    ∀ d ∈ (l.flatMap text).head?, isNumeral d = true := by
  cases l with
  | nil => simp
  | cons c l =>
    obtain ⟨d, r, hd, hc⟩ := c.exists_text_eq
    simp [text, hc, hd]

end Component

theorem components?_component (c : Component) {r : List Char}
    (hr : ∀ d ∈ r.head?, isNumeral d = true) :
    components? (c.text ++ r) = (components? r).map (c.reading :: ·) := by
  obtain ⟨d, ds, hd, hc⟩ := c.exists_text_eq
  have hds : ∀ x ∈ ds, isNumeral x = true := fun x hx =>
    c.isDecimal.isNumeral x (hc ▸ List.mem_cons_of_mem _ hx)
  have hunit : ∀ x ∈ c.unit.text, (!isNumeral x) = true := fun x hx => by
    simp [c.unit.not_isNumeral x hx]
  obtain ⟨u, us, hu⟩ := List.exists_cons_of_ne_nil c.unit.text_ne_nil
  have hnot : ¬ isNumeral u = true := by simp [c.unit.not_isNumeral u (hu ▸ List.mem_cons_self)]
  have htake : (ds ++ (c.unit.text ++ r)).takeWhile isNumeral = ds := by
    rw [List.takeWhile_append_of_pos hds, hu, List.cons_append, List.takeWhile_cons_of_neg hnot,
      List.append_nil]
  have hdrop : (ds ++ (c.unit.text ++ r)).dropWhile isNumeral = c.unit.text ++ r := by
    rw [List.dropWhile_append_of_pos hds, hu, List.cons_append, List.dropWhile_cons_of_neg hnot]
  have hrest : r.takeWhile (!isNumeral ·) = [] ∧ r.dropWhile (!isNumeral ·) = r := by
    cases r with
    | nil => exact ⟨rfl, rfl⟩
    | cons x r => simp [hr x rfl]
  have hparse : Binary64.parse? (d :: ds) = some (Binary64.decimalValue c.number) := by
    rw [← hc]
    exact Binary64.parse?_of_isDecimal c.isDecimal
  rw [Component.text, List.append_assoc, hc, List.cons_append, components?, if_pos hd]
  simp only [htake, hdrop, List.takeWhile_append_of_pos hunit, List.dropWhile_append_of_pos hunit,
    hrest, List.append_nil, c.unit.unitMilliseconds?_text, hparse, Component.reading]

theorem exists_component {c : Char} {r : List Char} {l : List (Binary64 × Nat)}
    (h : components? (c :: r) = some l) :
    ∃ (k : Component) (rest : List Char) (m : List (Binary64 × Nat)),
      c :: r = k.text ++ rest ∧ components? rest = some m ∧ l = k.reading :: m := by
  rw [components?] at h
  by_cases hc : isNumeral c = true
  · simp only [if_pos hc] at h
    split at h
    · rename_i x n hx hn
      obtain ⟨m, hm, rfl⟩ := Option.map_eq_some_iff.mp h
      obtain ⟨u, hu, rfl⟩ := TimeUnit.exists_of_unitMilliseconds? hn
      have hnumerals : ∀ d ∈ c :: r.takeWhile isNumeral, isNumeral d = true :=
        List.forall_mem_cons.mpr ⟨hc, List.all_eq_true.mp List.all_takeWhile⟩
      have hdecimal := Binary64.isDecimal_of_parse? hnumerals hx
      have hvalue := (Binary64.parse?_of_isDecimal hdecimal).symm.trans hx
      refine ⟨⟨_, hdecimal, u⟩, _, m, ?_, hm, ?_⟩
      · rw [Component.text, hu, List.append_assoc, List.takeWhile_append_dropWhile,
          List.cons_append, List.takeWhile_append_dropWhile]
      · rw [Component.reading, Option.some.inj hvalue]
    · cases h
  · rw [if_neg hc] at h
    cases h

/-- What is read are texts of components, each of them component by component. -/
theorem components?_eq_some_iff {s : List Char} {l : List (Binary64 × Nat)} :
    components? s = some l ↔
      ∃ cs : List Component, cs.flatMap Component.text = s ∧ cs.map Component.reading = l := by
  constructor
  · intro h
    induction hn : s.length using Nat.strong_induction_on generalizing s l with
    | _ n ih =>
      cases s with
      | nil =>
        rw [components?] at h
        exact ⟨[], rfl, Option.some.inj h⟩
      | cons c r =>
        obtain ⟨k, rest, m, hs, hm, rfl⟩ := exists_component h
        have hlt : rest.length < n := by
          have hpos := List.length_pos_iff.mpr k.unit.text_ne_nil
          rw [← hn, hs, Component.text, List.length_append, List.length_append]
          omega
        obtain ⟨cs, hcs, rfl⟩ := ih _ hlt hm rfl
        exact ⟨k :: cs, by rw [List.flatMap_cons, hcs, hs], List.map_cons⟩
  · rintro ⟨cs, rfl, rfl⟩
    induction cs with
    | nil => rw [List.flatMap_nil, components?, List.map_nil]
    | cons c cs ih =>
      rw [List.flatMap_cons, components?_component c Component.isNumeral_of_mem_head?, ih]
      rfl

theorem Component.two_le_length {cs : List Component} (h : cs ≠ []) :
    2 ≤ (cs.flatMap text).length := by
  obtain ⟨c, cs, rfl⟩ := List.exists_cons_of_ne_nil h
  obtain ⟨d, r, -, hc⟩ := c.exists_text_eq
  have hpos := List.length_pos_iff.mpr c.unit.text_ne_nil
  rw [List.flatMap_cons, text, hc]
  simp only [List.length_append, List.length_cons]
  omega

theorem parse?_eq_some_iff (s : String) (d : Duration) :
    parse? s = some d ↔
      Text.trim s.toList = ['0'] ∧ d = zero ∨
        ∃ cs : List Component, cs ≠ [] ∧ cs.flatMap Component.text = Text.trim s.toList ∧
          d = ofComponents (cs.map Component.reading) := by
  have hshort : ∀ {t : List Char}, t.length < 2 →
      ¬ ∃ cs : List Component, cs ≠ [] ∧ cs.flatMap Component.text = t ∧
        d = ofComponents (cs.map Component.reading) := by
    rintro t ht ⟨cs, hcs, rfl, -⟩
    have hlong := Component.two_le_length hcs
    omega
  rw [parse?]
  split
  · rename_i ht
    simp only [ht, hshort (t := []) (by simp)]
    simp
  · rename_i ht
    simp only [ht, hshort (t := ['0']) (by simp), true_and, or_false, Option.some.injEq]
    exact eq_comm
  · rename_i hne h0
    rw [Option.map_eq_some_iff]
    constructor
    · rintro ⟨l, hl, rfl⟩
      obtain ⟨cs, hcs, rfl⟩ := components?_eq_some_iff.mp hl
      refine .inr ⟨cs, ?_, hcs, rfl⟩
      rintro rfl
      exact hne hcs.symm
    · rintro (⟨ht, -⟩ | ⟨cs, -, hcs, rfl⟩)
      · exact absurd ht h0
      · exact ⟨_, components?_eq_some_iff.mpr ⟨cs, hcs, rfl⟩, rfl⟩

/-- A text is a span of time if, between blanks, it is a lone zero or one component after the other,
at least one of them. All other texts are refused. -/
theorem isSome_parse?_iff (s : String) :
    (parse? s).isSome = true ↔
      Text.trim s.toList = ['0'] ∨
        ∃ cs : List Component, cs ≠ [] ∧ cs.flatMap Component.text = Text.trim s.toList := by
  simp only [Option.isSome_iff_exists, parse?_eq_some_iff]
  constructor
  · rintro ⟨d, ⟨ht, -⟩ | ⟨cs, hne, hcs, -⟩⟩
    · exact .inl ht
    · exact .inr ⟨cs, hne, hcs⟩
  · rintro (ht | ⟨cs, hne, hcs⟩)
    · exact ⟨zero, .inl ⟨ht, rfl⟩⟩
    · exact ⟨_, .inr ⟨cs, hne, hcs, rfl⟩⟩

end Duration

end NodeSurvey
