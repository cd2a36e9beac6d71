import NodeSurvey.Host.Basic

/-! Where a path leads. As long as its names are those of entries that are no links, and none of
them is a step in place or back, a walk arrives where the names say. -/

namespace NodeSurvey

def Entry.isLink : Entry → Bool
  | .link _ => true
  | _ => false

namespace Host

variable {h : Host} {links : Nat} {here names rest : List String} {name path : String} {e : Entry}

def isOrdinary (name : String) : Bool :=
  name ≠ "." && name ≠ ".." && name.utf8ByteSize ≤ maxNameLength

/-- Whether names lead on from a place through directories, with no link on the way or at the
end. -/
def isPlain (h : Host) (here : List String) : List String → Bool
  | [] => true
  | name :: rest =>
    h.entry? here = some .directory && isOrdinary name &&
      (h.entry? (here ++ [name])).any (!·.isLink) && isPlain h (here ++ [name]) rest

theorem walk_nil : h.walk links here [] = .ok here := by rw [walk]

section Step

variable (hd : h.entry? here = some .directory) (ho : isOrdinary name = true)
include hd ho

theorem walk_cons_of_none (he : h.entry? (here ++ [name]) = none) :
    h.walk links here (name :: rest) = .error .notFound := by
  simp only [isOrdinary, Bool.and_eq_true, decide_eq_true_eq] at ho
  obtain ⟨⟨hpoint, hback⟩, hlength⟩ := ho
  rw [walk]
  simp only [hd, hpoint, hback, Nat.not_lt.mpr hlength, if_false, he]

theorem walk_cons_of_some (he : h.entry? (here ++ [name]) = some e) (hl : e.isLink = false) :
    h.walk links here (name :: rest) = h.walk links (here ++ [name]) rest := by
  simp only [isOrdinary, Bool.and_eq_true, decide_eq_true_eq] at ho
  obtain ⟨⟨hpoint, hback⟩, hlength⟩ := ho
  rw [walk]
  cases e with
  | link target => cases hl
  | file content executable =>
    simp only [hd, hpoint, hback, Nat.not_lt.mpr hlength, if_false, he]
  | directory => simp only [hd, hpoint, hback, Nat.not_lt.mpr hlength, if_false, he]

end Step

theorem walk_append (hp : h.isPlain here names = true) (rest : List String) :
    h.walk links here (names ++ rest) = h.walk links (here ++ names) rest := by
  induction names generalizing here with
  | nil => rw [List.nil_append, List.append_nil]
  | cons name names ih =>
    simp only [isPlain, Bool.and_eq_true, decide_eq_true_eq, Option.any_eq_true,
      Bool.not_eq_true'] at hp
    obtain ⟨⟨⟨hd, ho⟩, e, he, hl⟩, hp⟩ := hp
    rw [List.cons_append, walk_cons_of_some hd ho he hl, ih hp, List.append_assoc]
    rfl

theorem locate_of_isPlain (hz : path.toList.contains '\x00' = false)
    (hp : h.isPlain [] (namesOf path) = true) : h.locate path = .ok (namesOf path) := by
  have hw : h.walk maxLinks [] (namesOf path ++ []) = _ := walk_append hp []
  rw [List.append_nil, List.nil_append, walk_nil] at hw
  rw [locate, hz]
  exact hw

theorem locate_of_missing (names rest : List String) (name : String)
    (hz : path.toList.contains '\x00' = false)
    (hnames : namesOf path = names ++ name :: rest) (hp : h.isPlain [] names = true)
    (hd : h.entry? names = some .directory) (ho : isOrdinary name = true)
    (he : h.entry? (names ++ [name]) = none) : h.locate path = .error .notFound := by
  rw [locate, hz, hnames]
  simp only [Bool.false_eq_true, if_false]
  rw [walk_append hp, List.nil_append, walk_cons_of_none hd ho he]

theorem find_of_isPlain (hz : path.toList.contains '\x00' = false)
    (hp : h.isPlain [] (namesOf path) = true) (he : h.entry? (namesOf path) = some e) :
    h.find path = .ok e := by
  rw [find, locate_of_isPlain hz hp]
  simp only [bind, Except.bind, he]

/-- The entry to which the names on a path lead. -/
def plainFind? (h : Host) (path : String) : Option Entry :=
  let names := namesOf path
  if path.toList.contains '\x00' || !h.isPlain [] names then none else h.entry? names

theorem plainFind?_eq_some_iff : h.plainFind? path = some e ↔
    path.toList.contains '\x00' = false ∧ h.isPlain [] (namesOf path) = true ∧
      h.entry? (namesOf path) = some e := by
  rw [plainFind?]
  cases path.toList.contains '\x00' <;> cases h.isPlain [] (namesOf path) <;> simp

theorem find_of_plainFind? (he : h.plainFind? path = some e) : h.find path = .ok e := by
  obtain ⟨hz, hp, he⟩ := plainFind?_eq_some_iff.mp he
  exact find_of_isPlain hz hp he

/-- The text of a file to which the names on its path lead. -/
def plainText? (h : Host) (path : String) : Option String :=
  if path.toList.contains '\x00' || !h.isPlain [] (namesOf path) then none
  else
    match h.entry? (namesOf path) with
    | some (.file (.text s) _) => some s
    | _ => none

theorem readText_of_plainText? {text : String} (ht : h.plainText? path = some text) :
    h.readText path = .ok text := by
  have hfound : h.plainText? path = match h.plainFind? path with
      | some (.file (.text s) _) => some s
      | _ => none := by
    rw [plainText?, plainFind?]
    split <;> rfl
  rw [hfound] at ht
  split at ht
  · rename_i he
    obtain rfl := Option.some.inj ht
    rw [readText, find_of_plainFind? he]
    rfl
  · cases ht

theorem list_of_isPlain (hz : path.toList.contains '\x00' = false)
    (hp : h.isPlain [] (namesOf path) = true) (hd : h.entry? (namesOf path) = some .directory) :
    h.list path = .ok ((h.entries.filterMap fun e =>
      if e.1.dropLast = namesOf path then e.1.getLast? else none).mergeSort (· ≤ ·)) := by
  rw [list, locate_of_isPlain hz hp]
  simp only [bind, Except.bind, hd]

theorem readText_of_missing (names rest : List String) (name : String)
    (hz : path.toList.contains '\x00' = false)
    (hnames : namesOf path = names ++ name :: rest) (hp : h.isPlain [] names = true)
    (hd : h.entry? names = some .directory) (ho : isOrdinary name = true)
    (he : h.entry? (names ++ [name]) = none) : h.readText path = .error .notFound := by
  rw [readText, find, locate_of_missing names rest name hz hnames hp hd ho he]
  rfl

theorem list_of_pairwise (hz : path.toList.contains '\x00' = false)
    (hp : h.isPlain [] (namesOf path) = true) (hd : h.entry? (namesOf path) = some .directory)
    (hn : (h.entries.filterMap fun e =>
      if e.1.dropLast = namesOf path then e.1.getLast? else none) = names)
    (hs : names.Pairwise (· ≤ ·)) : h.list path = .ok names := by
  rw [list_of_isPlain hz hp hd, hn, List.mergeSort_of_pairwise (by simpa using hs)]

/-- The names in a directory to which the names on its path lead, if they stand in order. -/
def plainNames? (h : Host) (path : String) : Option (List String) :=
  let names := h.entries.filterMap fun e =>
    if e.1.dropLast = namesOf path then e.1.getLast? else none
  if h.plainFind? path = some .directory ∧ names.Pairwise (· ≤ ·) then some names else none

theorem list_of_plainNames? (hn : h.plainNames? path = some names) :
    h.list path = .ok names := by
  rw [plainNames?] at hn
  split at hn
  · rename_i hplain
    obtain ⟨hz, hp, hd⟩ := plainFind?_eq_some_iff.mp hplain.1
    exact list_of_pairwise hz hp hd (Option.some.inj hn) (Option.some.inj hn ▸ hplain.2)
  · cases hn

theorem list_of_missing (names rest : List String) (name : String)
    (hz : path.toList.contains '\x00' = false)
    (hnames : namesOf path = names ++ name :: rest) (hp : h.isPlain [] names = true)
    (hd : h.entry? names = some .directory) (ho : isOrdinary name = true)
    (he : h.entry? (names ++ [name]) = none) : h.list path = .error .notFound := by
  rw [list, locate_of_missing names rest name hz hnames hp hd ho he]
  rfl

theorem exists_mem_of_find (hf : h.find path = .ok e) :
    e = .directory ∨ ∃ place, (place, e) ∈ h.entries := by
  cases hw : h.locate path with
  | error t =>
    rw [find, hw] at hf
    cases hf
  | ok place =>
    have he : h.entry? place = some e := by
      simp only [find, hw, bind, Except.bind] at hf
      split at hf
      · rename_i he
        exact he.trans (congrArg some (Except.ok.inj hf))
      · cases hf
    unfold entry? at he
    split at he
    · exact .inl (Option.some.inj he).symm
    · obtain ⟨before, after, hl, -⟩ := List.lookup_eq_some_iff.mp he
      exact .inr ⟨place, hl ▸ by simp⟩

end Host

end NodeSurvey
