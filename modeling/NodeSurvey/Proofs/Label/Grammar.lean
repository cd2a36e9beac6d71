import NodeSurvey.Proofs.Label.Pattern
import NodeSurvey.Proofs.Label.WellFormed

/-! The grammar of label names and label values. A name is a short text of letters, digits and three
signs with a letter or digit at both ends, perhaps behind a domain and a slash; a value is empty or
a name without a domain. The checks find nothing wrong with exactly these texts. -/

namespace NodeSurvey.Label

namespace Grammar

/-- A text of `inner` characters that starts and ends with an `edge`; it is never empty. -/
structure Framed (edge inner : Char → Prop) (s : String) : Prop where
  all : ∀ c ∈ s.toList, inner c
  first : ∃ c, s.toList.head? = some c ∧ edge c
  last : ∃ c, s.toList.getLast? = some c ∧ edge c

structure Name (s : String) : Prop where
  least : 1 ≤ s.utf8ByteSize
  most : s.utf8ByteSize ≤ 63
  framed : Framed (fun c => c.isAlphanum = true)
    (fun c => c.isAlphanum = true ∨ c = '_' ∨ c = '.' ∨ c = '-') s

def Piece (s : String) : Prop :=
  Framed (fun c => c.isLower = true ∨ c.isDigit = true)
    (fun c => c.isLower = true ∨ c.isDigit = true ∨ c = '-') s

structure Domain (s : String) : Prop where
  most : s.utf8ByteSize ≤ 253
  pieces : ∃ pieces, pieces ≠ [] ∧ (∀ p ∈ pieces, Piece p) ∧ s = ".".intercalate pieces

inductive QualifiedName : String → Prop where
  | plain {name : String} (hn : Name name) : QualifiedName name
  | qualified {domain name : String} (hd : Domain domain) (hn : Name name) :
      QualifiedName (domain ++ "/" ++ name)

end Grammar

theorem byteLength_toList (s : String) : byteLength s.toList = s.utf8ByteSize := by
  have hof : ∀ l : List Char, byteLength l = (String.ofList l).utf8ByteSize := by
    intro l
    induction l with
    | nil => rfl
    | cons c l ih =>
      rw [byteLength_cons, ih, String.ofList_cons, String.utf8ByteSize_append,
        String.utf8ByteSize_singleton]
  rw [hof, String.ofList_toList]

theorem one_le_utf8ByteSize {s : String} (hs : s.toList ≠ []) : 1 ≤ s.utf8ByteSize := by
  have hne : s.utf8ByteSize ≠ 0 := fun h =>
    hs (String.toList_eq_nil_iff.mpr (String.utf8ByteSize_eq_zero_iff.mp h))
  omega

/-! The classes of characters are those of the standard library. -/

theorem isLower_eq (c : Char) : isLower c = c.isLower := rfl

theorem isDigit_eq (c : Char) : isDigit c = c.isDigit := rfl

theorem isUpper_eq (c : Char) : isUpper c = c.isUpper :=
  (Bool.decide_and ..).symm

theorem isAlphanumeric_eq (c : Char) : isAlphanumeric c = c.isAlphanum := by
  rw [isAlphanumeric, isLower_eq, isUpper_eq, isDigit_eq, Char.isAlphanum, Char.isAlpha,
    Bool.or_comm c.isLower]

theorem isNameChar_iff {c : Char} :
    isNameChar c = true ↔ c.isAlphanum = true ∨ c = '_' ∨ c = '.' ∨ c = '-' := by
  simp only [isNameChar, isAlphanumeric_eq, Bool.or_eq_true, decide_eq_true_eq]
  tauto

theorem isDomainEdge_iff {c : Char} :
    isDomainEdge c = true ↔ c.isLower = true ∨ c.isDigit = true := by
  rw [isDomainEdge, isLower_eq, isDigit_eq, Bool.or_eq_true]

theorem isDomainChar_iff {c : Char} :
    isDomainChar c = true ↔ c.isLower = true ∨ c.isDigit = true ∨ c = '-' := by
  rw [isDomainChar, Bool.or_eq_true, isDomainEdge_iff, decide_eq_true_eq, or_assoc]

theorem isFramed_iff_framed {edge inner : Char → Bool} {s : String} :
    isFramed edge inner s.toList = true ↔
      Grammar.Framed (fun c => edge c = true) (fun c => inner c = true) s := by
  simp only [isFramed, Bool.and_eq_true, List.all_eq_true, Option.any_eq_true]
  constructor
  · rintro ⟨⟨hfirst, hlast⟩, hall⟩
    exact ⟨hall, hfirst, hlast⟩
  · rintro ⟨hall, hfirst, hlast⟩
    exact ⟨⟨hfirst, hlast⟩, hall⟩

theorem Grammar.Framed.ne_nil {edge inner : Char → Prop} {s : String}
    (h : Grammar.Framed edge inner s) : s.toList ≠ [] := by
  intro hs
  obtain ⟨c, hc, _⟩ := h.first
  rw [hs] at hc
  cases hc

theorem isName_iff_framed {s : String} :
    isName s.toList = true ↔
      Grammar.Framed (fun c => c.isAlphanum = true)
        (fun c => c.isAlphanum = true ∨ c = '_' ∨ c = '.' ∨ c = '-') s := by
  rw [isName, isFramed_iff_framed]
  simp only [isAlphanumeric_eq, isNameChar_iff]

theorem isFramed_iff_piece {s : String} :
    isFramed isDomainEdge isDomainChar s.toList = true ↔ Grammar.Piece s := by
  rw [isFramed_iff_framed, Grammar.Piece]
  simp only [isDomainEdge_iff, isDomainChar_iff]

theorem isDomain_iff_pieces {s : String} :
    isDomain s.toList = true ↔
      ∃ pieces, pieces ≠ [] ∧ (∀ p ∈ pieces, Grammar.Piece p) ∧ s = ".".intercalate pieces := by
  rw [isDomain_iff]
  constructor
  · rintro ⟨pieces, hne, hp, hs⟩
    refine ⟨pieces.map String.ofList, by simpa using hne, ?_, ?_⟩
    · intro p hm
      obtain ⟨q, hq, rfl⟩ := List.mem_map.mp hm
      exact isFramed_iff_piece.mp (String.toList_ofList.symm ▸ hp q hq)
    · rw [← String.toList_inj, String.toList_intercalate, hs]
      simp [Function.comp_def]
  · rintro ⟨pieces, hne, hp, rfl⟩
    refine ⟨pieces.map String.toList, by simpa using hne, ?_, String.toList_intercalate⟩
    intro p hm
    obtain ⟨q, hq, rfl⟩ := List.mem_map.mp hm
    exact isFramed_iff_piece.mpr (hp q hq)

theorem name_iff {s : String} :
    Grammar.Name s ↔ s.utf8ByteSize ≤ 63 ∧ isName s.toList = true := by
  rw [isName_iff_framed]
  exact ⟨fun ⟨_, hm, hf⟩ => ⟨hm, hf⟩, fun ⟨hm, hf⟩ => ⟨one_le_utf8ByteSize hf.ne_nil, hm, hf⟩⟩

theorem partViolations_iff {s : String} : partViolations s.toList = [] ↔ Grammar.Name s := by
  rw [name_iff, partViolations, byteLength_toList, maxNameLength]
  split
  · rename_i he
    rw [List.isEmpty_iff.mp he]
    exact iff_of_false (List.cons_ne_nil _ _) fun h => absurd h.2 (by decide)
  · simp [List.append_eq_nil_iff]

theorem domainViolations_iff {s : String} : domainViolations s.toList = [] ↔ Grammar.Domain s := by
  have hd : domainViolations s.toList = [] ↔
      s.utf8ByteSize ≤ 253 ∧ isDomain s.toList = true := by
    rw [domainViolations, byteLength_toList, maxDomainLength]
    split
    · -- A text without a character is one piece, and that piece has no ends.
      rename_i he
      rw [List.isEmpty_iff.mp he]
      exact iff_of_false (List.cons_ne_nil _ _) fun h => absurd h.2 (by decide)
    · simp [List.append_eq_nil_iff]
  rw [hd, isDomain_iff_pieces]
  exact ⟨fun ⟨hm, hp⟩ => ⟨hm, hp⟩, fun ⟨hm, hp⟩ => ⟨hm, hp⟩⟩

theorem Grammar.Framed.not_mem {edge inner : Char → Prop} {s : String} {c : Char}
    (h : Grammar.Framed edge inner s) (hc : ¬ inner c) : c ∉ s.toList :=
  fun hm => hc (h.all c hm)

theorem Grammar.Name.slash_not_mem {s : String} (h : Grammar.Name s) : '/' ∉ s.toList :=
  h.framed.not_mem (by decide)

theorem Grammar.Domain.slash_not_mem {s : String} (h : Grammar.Domain s) : '/' ∉ s.toList := by
  obtain ⟨pieces, _, hp, rfl⟩ := h.pieces
  rw [String.toList_intercalate]
  intro hm
  rcases Text.mem_intercalate hm with hpoint | ⟨_, hq, hm⟩
  · exact absurd hpoint (by decide)
  · obtain ⟨p, hpm, rfl⟩ := List.mem_map.mp hq
    exact (hp p hpm).not_mem (by decide) hm

theorem nameViolations_of_domain {domain name : String} (hd : '/' ∉ domain.toList)
    (hn : '/' ∉ name.toList) :
    nameViolations (domain ++ "/" ++ name) =
      domainViolations domain.toList ++ partViolations name.toList := by
  have hl : (domain ++ "/" ++ name).toList = domain.toList ++ '/' :: name.toList := by simp
  rw [nameViolations, hl, Text.split_append_cons hd, Text.split_eq_singleton_iff.mpr ⟨rfl, hn⟩]

theorem nameViolations_iff {s : String} : nameViolations s = [] ↔ Grammar.QualifiedName s := by
  constructor
  · intro h
    have hs := Text.intercalate_split '/' s.toList
    rw [nameViolations] at h
    split at h
    · rename_i part hp
      obtain ⟨rfl, _⟩ := Text.split_eq_singleton_iff.mp hp
      exact .plain (partViolations_iff.mp h)
    · rename_i domain part hp
      obtain ⟨hd, hn⟩ := List.append_eq_nil_iff.mp h
      have he : s = String.ofList domain ++ "/" ++ String.ofList part := by
        rw [← String.toList_inj, ← hs, hp]
        simp
      rw [he]
      refine .qualified (domainViolations_iff.mp ?_) (partViolations_iff.mp ?_)
      · rwa [String.toList_ofList]
      · rwa [String.toList_ofList]
    · cases h
  · rintro (hn | ⟨hd, hn⟩)
    · rw [nameViolations_of_not_mem hn.slash_not_mem]
      exact partViolations_iff.mpr hn
    · rw [nameViolations_of_domain hd.slash_not_mem hn.slash_not_mem]
      exact List.append_eq_nil_iff.mpr ⟨domainViolations_iff.mpr hd, partViolations_iff.mpr hn⟩

theorem valueViolations_iff {s : String} :
    valueViolations s = [] ↔ s = "" ∨ '/' ∉ s.toList ∧ nameViolations s = [] := by
  have hplain : '/' ∉ s.toList ∧ nameViolations s = [] ↔ Grammar.Name s := by
    constructor
    · rintro ⟨hm, hn⟩
      exact partViolations_iff.mp (nameViolations_of_not_mem hm ▸ hn)
    · intro hn
      exact ⟨hn.slash_not_mem, nameViolations_iff.mpr (.plain hn)⟩
  rw [hplain, valueViolations, List.append_eq_nil_iff, byteLength_toList, maxNameLength]
  by_cases hs : s = ""
  · subst hs
    exact iff_of_true (by decide) (Or.inl rfl)
  · have hl : s.toList ≠ [] := fun h => hs (String.toList_eq_nil_iff.mp h)
    have hv : (s.toList.isEmpty || isName s.toList) = isName s.toList := by simp [hl]
    rw [hv, or_iff_right hs, name_iff]
    simp

/-- The checks find nothing wrong with exactly the texts of the grammar, and each pattern that they
quote, put between the ends of a text, accepts what they accept. -/
theorem violations_grammar :
    (∀ s, nameViolations s = [] ↔ Grammar.QualifiedName s) ∧
      (∀ s, valueViolations s = [] ↔ s = "" ∨ '/' ∉ s.toList ∧ nameViolations s = []) ∧
      Decides ("^" ++ namePattern ++ "$") isName ∧
      Decides ("^(" ++ namePattern ++ ")?$") (fun s => s.isEmpty || isName s) ∧
      Decides ("^" ++ domainPattern ++ "$") isDomain :=
  ⟨fun _ => nameViolations_iff, fun _ => valueViolations_iff, decides_name, decides_value,
    decides_domain⟩

end NodeSurvey.Label
