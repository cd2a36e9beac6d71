import Mathlib
import NodeSurvey.Label.Syntax
import NodeSurvey.Proofs.Regex.Language
import NodeSurvey.Proofs.Text.Split

/-! The patterns that violations quote. As expressions between the ends of a text they accept the
texts that the checks accept, so a check and the pattern in its message never disagree. -/

namespace NodeSurvey.Label

open Computability Regex Regex.Matcher

section Framed

variable {edge inner : Char → Bool} {s : List Char}

theorem isFramed_singleton (c : Char) :
    isFramed edge inner [c] = true ↔ edge c = true ∧ inner c = true := by
  simp [isFramed]

theorem isFramed_cons_concat (c d : Char) (middle : List Char) :
    isFramed edge inner (c :: (middle ++ [d])) = true ↔
      edge c = true ∧ edge d = true ∧ inner c = true ∧ inner d = true ∧
        ∀ x ∈ middle, inner x = true := by
  have hlast : (c :: (middle ++ [d])).getLast? = some d := by
    rw [← List.cons_append, List.getLast?_concat]
  simp only [isFramed, hlast, List.head?_cons, Option.any_some, List.all_cons, List.all_append,
    List.all_nil, Bool.and_true, Bool.and_eq_true, List.all_eq_true]
  tauto

variable (he : ∀ c, edge c = true → inner c = true)
include he

theorem isFramed_iff :
    isFramed edge inner s = true ↔
      (∃ c, edge c = true ∧ s = [c]) ∨
      ∃ c middle d, edge c = true ∧ (∀ x ∈ middle, inner x = true) ∧ edge d = true ∧
        s = c :: (middle ++ [d]) := by
  constructor
  · intro h
    cases s with
    | nil => cases h
    | cons c rest =>
      rcases List.eq_nil_or_concat' rest with rfl | ⟨middle, d, rfl⟩
      · exact Or.inl ⟨c, ((isFramed_singleton c).mp h).1, rfl⟩
      · obtain ⟨hc, hd, _, _, hm⟩ := (isFramed_cons_concat c d middle).mp h
        exact Or.inr ⟨c, middle, d, hc, hm, hd, rfl⟩
  · rintro (⟨c, hc, rfl⟩ | ⟨c, middle, d, hc, hm, hd, rfl⟩)
    · exact (isFramed_singleton c).mpr ⟨hc, he c hc⟩
    · exact (isFramed_cons_concat c d middle).mpr ⟨hc, hd, he c hc, he d hd, hm⟩

theorem mem_optional_edge :
    s ∈ (1 + letter edge * (letter inner)∗) * letter edge ↔ isFramed edge inner s = true := by
  rw [isFramed_iff he]
  simp only [Language.mem_mul, Language.mem_add, Language.mem_one, mem_letter, mem_kstar_letter]
  constructor
  · rintro ⟨_, rfl | ⟨_, ⟨c, hc, rfl⟩, middle, hm, rfl⟩, _, ⟨d, hd, rfl⟩, rfl⟩
    · exact Or.inl ⟨d, hd, rfl⟩
    · exact Or.inr ⟨c, middle, d, hc, hm, hd, rfl⟩
  · rintro (⟨c, hc, rfl⟩ | ⟨c, middle, d, hc, hm, hd, rfl⟩)
    · exact ⟨[], Or.inl rfl, [c], ⟨c, hc, rfl⟩, rfl⟩
    · exact ⟨[c] ++ middle, Or.inr ⟨[c], ⟨c, hc, rfl⟩, middle, hm, rfl⟩, [d], ⟨d, hd, rfl⟩, rfl⟩

theorem mem_edge_optional :
    s ∈ letter edge * (1 + (letter inner)∗ * letter edge) ↔ isFramed edge inner s = true := by
  rw [isFramed_iff he]
  simp only [Language.mem_mul, Language.mem_add, Language.mem_one, mem_letter, mem_kstar_letter]
  constructor
  · rintro ⟨_, ⟨c, hc, rfl⟩, _, rfl | ⟨middle, hm, _, ⟨d, hd, rfl⟩, rfl⟩, rfl⟩
    · exact Or.inl ⟨c, hc, rfl⟩
    · exact Or.inr ⟨c, middle, d, hc, hm, hd, rfl⟩
  · rintro (⟨c, hc, rfl⟩ | ⟨c, middle, d, hc, hm, hd, rfl⟩)
    · exact ⟨[c], ⟨c, hc, rfl⟩, [], Or.inl rfl, rfl⟩
    · exact ⟨[c], ⟨c, hc, rfl⟩, middle ++ [d], Or.inr ⟨middle, hm, [d], ⟨d, hd, rfl⟩, rfl⟩, rfl⟩

end Framed

/-! The parts of the patterns. -/

def nameEdge : CharClass :=
  .bracket false (.union [.range ⟨'A', false⟩ ⟨'Z', false⟩, .range ⟨'a', false⟩ ⟨'z', false⟩,
    .range ⟨'0', false⟩ ⟨'9', false⟩])

def nameInner : CharClass :=
  .bracket false (.union [.literal ⟨'-', false⟩, .range ⟨'A', false⟩ ⟨'Z', false⟩,
    .range ⟨'a', false⟩ ⟨'z', false⟩, .range ⟨'0', false⟩ ⟨'9', false⟩, .literal ⟨'_', false⟩,
    .literal ⟨'.', false⟩])

def domainEdge : CharClass :=
  .bracket false (.union [.range ⟨'a', false⟩ ⟨'z', false⟩, .range ⟨'0', false⟩ ⟨'9', false⟩])

def domainInner : CharClass :=
  .bracket false (.union [.literal ⟨'-', false⟩, .range ⟨'a', false⟩ ⟨'z', false⟩,
    .range ⟨'0', false⟩ ⟨'9', false⟩])

def nameItems : List Pattern :=
  [.repeated 0 (some 1)
      (.group [] (.concat [.class' nameEdge, .repeated 0 none (.class' nameInner)])),
    .class' nameEdge]

def pieceItems : List Pattern :=
  [.class' domainEdge, .repeated 0 (some 1)
    (.group [] (.concat [.repeated 0 none (.class' domainInner), .class' domainEdge]))]

def domainItems : List Pattern :=
  pieceItems ++ [.repeated 0 none (.group [] (.concat (.literal ⟨'.', false⟩ :: pieceItems)))]

theorem parse_name :
    Pattern.parse? ("^" ++ namePattern ++ "$") = some (anchored nameItems) := by cbv

theorem parse_value :
    Pattern.parse? ("^(" ++ namePattern ++ ")?$") =
      some (anchored [.repeated 0 (some 1) (.group [] (.concat nameItems))]) := by cbv

set_option maxRecDepth 1000 in
theorem parse_domain :
    Pattern.parse? ("^" ++ domainPattern ++ "$") = some (anchored domainItems) := by cbv

theorem accepts_nameEdge : nameEdge.accepts? .default = some isAlphanumeric := by
  refine congrArg some (funext fun c => ?_)
  simp only [isAlphanumeric, isLower, isUpper, isDigit, foldCase, Flags.default]
  simp
  ac_rfl

theorem accepts_nameInner : nameInner.accepts? .default = some isNameChar := by
  refine congrArg some (funext fun c => ?_)
  simp [isNameChar, isAlphanumeric, isLower, isUpper, isDigit, foldCase, Flags.default]
  ac_rfl

theorem accepts_domainEdge : domainEdge.accepts? .default = some isDomainEdge := by
  refine congrArg some (funext fun c => ?_)
  simp [isDomainEdge, isLower, isDigit, foldCase, Flags.default]

theorem accepts_domainInner : domainInner.accepts? .default = some isDomainChar := by
  refine congrArg some (funext fun c => ?_)
  simp [isDomainChar, isDomainEdge, isLower, isDigit, foldCase, Flags.default]
  ac_rfl

/-! What the patterns accept. -/

theorem inner_of_alphanumeric (c : Char) (hc : isAlphanumeric c = true) : isNameChar c = true := by
  simp [isNameChar, hc]

theorem inner_of_domainEdge (c : Char) (hc : isDomainEdge c = true) : isDomainChar c = true := by
  simp [isDomainChar, hc]

/-- The pieces of a domain, as the pattern writes them: an edge, and perhaps more up to another. -/
def pieceWords : Language Char :=
  letter isDomainEdge * (1 + (letter isDomainChar)∗ * letter isDomainEdge)

theorem mem_pieceWords {s : List Char} :
    s ∈ pieceWords ↔ isFramed isDomainEdge isDomainChar s = true :=
  mem_edge_optional inner_of_domainEdge

theorem isDomain_iff {s : List Char} :
    isDomain s = true ↔ ∃ pieces, pieces ≠ [] ∧
      (∀ p ∈ pieces, isFramed isDomainEdge isDomainChar p = true) ∧
      s = ['.'].intercalate pieces := by
  rw [isDomain, List.all_eq_true]
  constructor
  · intro h
    exact ⟨Text.split '.' s, Text.splitBy_ne_nil _ s, h, (Text.intercalate_split '.' s).symm⟩
  · rintro ⟨pieces, hne, hpieces, rfl⟩
    have hpoint : ∀ p ∈ pieces, '.' ∉ p := by
      intro p hp hm
      have hall := hpieces p hp
      simp only [isFramed, Bool.and_eq_true, List.all_eq_true] at hall
      exact absurd (hall.2 '.' hm) (by decide)
    rw [Text.split_intercalate hne hpoint]
    exact hpieces

theorem allRead_name :
    AllRead nameItems
      ((1 + letter isAlphanumeric * (letter isNameChar)∗) * letter isAlphanumeric) := by
  have hedge := Pattern.reads_class accepts_nameEdge
  have hinner := Pattern.reads_class accepts_nameInner
  have hgroup := (AllRead.cons hedge hinner.star.single).group
  exact .cons hgroup.optional hedge.single

theorem allRead_piece : AllRead pieceItems pieceWords := by
  have hedge := Pattern.reads_class accepts_domainEdge
  have hinner := Pattern.reads_class accepts_domainInner
  have hgroup := (AllRead.cons hinner.star hedge.single).group
  exact .cons hedge hgroup.optional.single

theorem allRead_domain :
    AllRead domainItems (pieceWords * (letter (· = '.') * pieceWords)∗) := by
  have hrest := (AllRead.cons (Pattern.reads_literal '.') allRead_piece).group
  exact allRead_piece.append hrest.star.single

/-- A pattern is an expression that accepts what a check accepts. -/
def Decides (pattern : String) (check : List Char → Bool) : Prop :=
  ∃ m, compile? pattern = some m ∧ ∀ s, m.accepts s = check s

theorem Decides.of_allRead {pattern : String} {check : List Char → Bool} {items : List Pattern}
    {l : Language Char} (hp : Pattern.parse? pattern = some (anchored items))
    (hr : AllRead items l) (hc : (compile? pattern).isSome = true)
    (hl : ∀ s, s ∈ l ↔ check s = true) : Decides pattern check := by
  obtain ⟨m, hm, ha⟩ := hr.compile hp hc
  exact ⟨m, hm, fun s => Bool.eq_iff_iff.mpr ((ha s).trans (hl s))⟩

theorem decides_name : Decides ("^" ++ namePattern ++ "$") isName :=
  .of_allRead parse_name allRead_name (by decide +kernel)
    fun _ => mem_optional_edge inner_of_alphanumeric

theorem decides_value :
    Decides ("^(" ++ namePattern ++ ")?$") fun s => s.isEmpty || isName s := by
  refine .of_allRead parse_value allRead_name.group.optional.single (by decide +kernel)
    fun s => ?_
  rw [Language.mem_add, Language.mem_one, mem_optional_edge inner_of_alphanumeric,
    Bool.or_eq_true, List.isEmpty_iff, isName]

theorem decides_domain : Decides ("^" ++ domainPattern ++ "$") isDomain := by
  refine .of_allRead parse_domain allRead_domain (by decide +kernel) fun s => ?_
  rw [mem_separated, isDomain_iff]
  simp only [mem_pieceWords]

end NodeSurvey.Label
