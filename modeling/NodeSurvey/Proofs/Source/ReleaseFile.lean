import NodeSurvey.Proofs.Dict
import NodeSurvey.Proofs.Host.Walk
import NodeSurvey.Proofs.Source.Lines
import NodeSurvey.Source.System
import NodeSurvey.Text.Alphanumeric

/-! The assignments of a release file, as they may be written, and the features that come of them.
Quotes around a value are taken off and the last assignment to a key counts. Of a version the first
part has to hold something to be a feature; the second part is one even if it is empty. -/

namespace NodeSurvey

namespace Text

/-- Ranges of blank code points, both ends included. -/
def blankRanges : List (Nat × Nat) :=
  [(9, 13), (0x20, 0x20), (0x85, 0x85), (0xA0, 0xA0), (0x1680, 0x1680), (0x2000, 0x200A),
    (0x2028, 0x2029), (0x202F, 0x202F), (0x205F, 0x205F), (0x3000, 0x3000)]

theorem exists_range_of_isBlank {c : Char} (hc : isBlank c = true) :
    ∃ b ∈ blankRanges, b.1 ≤ c.toNat ∧ c.toNat ≤ b.2 := by
  simp only [isBlank, Bool.or_eq_true, Bool.and_eq_true, decide_eq_true_eq] at hc
  simp only [blankRanges, List.exists_mem_cons_iff, List.not_mem_nil, false_and, exists_false]
  omega

/-- The tables of letters and numbers leave out everything from `low` to `high`. -/
def isGap (low high : Nat) : Bool :=
  (alphabeticRanges ++ numericRanges).all fun r => Nat.blt r.2 low || Nat.blt high r.1

theorem isAlphanumeric_of_isGap {low high : Nat} (hg : isGap low high = true) {c : Char}
    (hlow : low ≤ c.toNat) (hhigh : c.toNat ≤ high) : isAlphanumeric c = false := by
  refine Bool.eq_false_iff.mpr fun hc => ?_
  rw [isAlphanumeric, isAlphabetic, inRanges, inRanges, ← List.any_append, List.any_eq_true] at hc
  obtain ⟨r, hr, hin⟩ := hc
  have hout := List.all_eq_true.mp hg r hr
  simp only [Bool.or_eq_true, Nat.blt_eq, Bool.and_eq_true, decide_eq_true_eq] at hout hin
  omega

theorem isBlank_of_isAlphanumeric {c : Char} (hc : isAlphanumeric c = true) :
    isBlank c = false := by
  have hgaps : (blankRanges.all fun b => isGap b.1 b.2) = true := by decide +kernel
  refine Bool.eq_false_iff.mpr fun hblank => ?_
  obtain ⟨b, hb, hlow, hhigh⟩ := exists_range_of_isBlank hblank
  rw [isAlphanumeric_of_isGap (List.all_eq_true.mp hgaps b hb) hlow hhigh] at hc
  exact Bool.false_ne_true hc

end Text

namespace Source.System

open Text (isBlank)
open Local (IsBlankText)

section Strip

variable {c : Char} {s : List Char}
variable (hf : ∀ d, s.head? = some d → d ≠ c) (hl : ∀ d, s.getLast? = some d → d ≠ c)
include hf hl

theorem dropWhile_eq_self : s.dropWhile (· = c) = s ∧ s.rdropWhile (· = c) = s := by
  refine ⟨List.dropWhile_eq_self_iff.mpr fun hs => ?_,
    List.rdropWhile_eq_self_iff.mpr fun hs => ?_⟩
  · simpa using hf _ (List.head?_eq_getElem?.trans (List.getElem?_eq_getElem hs))
  · simpa using hl _ (List.getLast?_eq_some_getLast hs)

theorem strip_eq_self : strip c s = s := by
  obtain ⟨hstart, hend⟩ := dropWhile_eq_self hf hl
  rw [strip, hstart]
  exact hend

theorem strip_around : strip c (c :: (s ++ [c])) = s := by
  obtain ⟨hstart, hend⟩ := dropWhile_eq_self hf hl
  have hopen : (c :: (s ++ [c])).dropWhile (· = c) = (s ++ [c]).dropWhile (· = c) :=
    List.dropWhile_cons_of_pos (by simp)
  rw [strip, hopen, List.dropWhile_append, hstart]
  split
  · rename_i hs
    simp [List.isEmpty_iff.mp hs]
  · exact (List.rdropWhile_concat_pos _ _ _ (by simp)).trans hend

end Strip

/-- A key is a word of letters, numbers and underscores. -/
structure IsKey (key : String) : Prop where
  ne_empty : key.toList ≠ []
  word : ∀ c ∈ key.toList, Text.isAlphanumeric c = true ∨ c = '_'

def isQuote (c : Char) : Bool := c = '"' || c = '\''

/-- A value has no quote at an end, so that those around it can be told from it. -/
structure IsValue (value : String) : Prop where
  first : ∀ c, value.toList.head? = some c → isQuote c = false
  last : ∀ c, value.toList.getLast? = some c → isQuote c = false
  noNewline : '\n' ∉ value.toList

/-- A line with the assignment that it makes, if it makes one. -/
inductive Line : String → Option (String × String) → Prop where
  | blank {s : String} (hs : IsBlankText s) : Line s none
  | comment {before text : String} (hb : IsBlankText before) (ht : '\n' ∉ text.toList) :
      Line (before ++ "#" ++ text) none
  | bare {before key value after : String} (hb : IsBlankText before) (hk : IsKey key)
      (hv : IsValue value) (hf : ∀ c, value.toList.head? = some c → isBlank c = false)
      (hl : ∀ c, value.toList.getLast? = some c → isBlank c = false) (ha : IsBlankText after) :
      Line (before ++ (key ++ "=" ++ value) ++ after) (some (key, value))
  | quoted {before key quote value after : String} (hb : IsBlankText before) (hk : IsKey key)
      (hq : quote = "\"" ∨ quote = "'") (hv : IsValue value) (ha : IsBlankText after) :
      Line (before ++ (key ++ "=" ++ quote ++ value ++ quote) ++ after) (some (key, value))

theorem assignment?_trim (line : List Char) : assignment? (Text.trim line) = assignment? line := by
  simp only [assignment?, Text.trim_trim]

theorem assignment?_nil : assignment? [] = none := rfl

theorem assignment?_comment (text : List Char) : assignment? ('#' :: text) = none := by
  rw [assignment?, Text.trim_cons (by decide)]
  rfl

section Key

variable {key : String} (hk : IsKey key)
include hk

theorem IsKey.of_mem {c : Char} (hc : c ∈ key.toList) :
    isBlank c = false ∧ c ≠ '=' ∧ c ≠ '#' ∧ c ≠ '\n' := by
  have hgaps : (['=', '#', '\n'].all fun d => Text.isGap d.toNat d.toNat) = true := by
    decide +kernel
  have hfree : ∀ d ∈ ['=', '#', '\n'], c ≠ d := by
    rintro d hd rfl
    have hgap := Text.isAlphanumeric_of_isGap (List.all_eq_true.mp hgaps c hd) le_rfl le_rfl
    rcases hk.word c hc with hw | rfl
    · exact Bool.false_ne_true (hgap.symm.trans hw)
    · exact absurd hd (by decide)
  refine ⟨?_, hfree _ (by simp), hfree _ (by simp), hfree _ (by simp)⟩
  rcases hk.word c hc with hw | rfl
  · exact Text.isBlank_of_isAlphanumeric hw
  · decide

theorem assignment?_of_key {rest : List Char}
    (hr : ∀ c, rest.getLast? = some c → isBlank c = false) :
    assignment? (key.toList ++ '=' :: rest) =
      some (key, String.ofList (strip '\'' (strip '"' (Text.trim rest)))) := by
  obtain ⟨c, s, hs⟩ := List.exists_cons_of_ne_nil hk.ne_empty
  have hc := hk.of_mem (hs ▸ List.mem_cons_self : c ∈ key.toList)
  have hkey : Text.trim key.toList = key.toList :=
    Text.trim_eq_self_of_ends (fun d hd => (hk.of_mem (List.mem_of_head? hd)).1)
      fun d hd => (hk.of_mem (List.mem_of_getLast? hd)).1
  have hline : Text.trim (key.toList ++ '=' :: rest) = key.toList ++ '=' :: rest := by
    refine Text.trim_eq_self_of_ends (fun d hd => ?_) fun d hd => ?_
    · obtain rfl : c = d := by simpa [hs] using hd
      exact hc.1
    · rw [List.getLast?_append_of_ne_nil _ (List.cons_ne_nil _ _), List.getLast?_cons] at hd
      cases hl : rest.getLast? with
      | none =>
        obtain rfl : '=' = d := by simpa [hl] using hd
        decide
      | some e =>
        obtain rfl : e = d := by simpa [hl] using hd
        exact hr e hl
  have hsplit : Text.splitOnce '=' (key.toList ++ '=' :: rest) = some (key.toList, rest) :=
    Text.splitOnce_append_cons (fun hm => (hk.of_mem hm).2.1 rfl) rest
  have hopen : ((key.toList ++ '=' :: rest).isEmpty ||
      (key.toList ++ '=' :: rest).head? = some '#') = false := by
    simp [hs, hc.2.2.1]
  simp only [assignment?, hline, hopen, hsplit, Option.map_some, hkey, String.ofList_toList,
    Bool.false_eq_true, if_false]

end Key

section Value

variable {key value : String} (hk : IsKey key) (hv : IsValue value)
include hv

theorem IsValue.strip_eq {c : Char} (hc : isQuote c = true) :
    strip c value.toList = value.toList :=
  strip_eq_self (fun d hd e => by simp [← e, hv.first d hd] at hc)
    fun d hd e => by simp [← e, hv.last d hd] at hc

theorem IsValue.strip_quoted {c : Char} (hc : isQuote c = true) :
    strip c (c :: (value.toList ++ [c])) = value.toList :=
  strip_around (fun d hd e => by simp [← e, hv.first d hd] at hc)
    fun d hd e => by simp [← e, hv.last d hd] at hc

include hk

theorem assignment?_bare (hf : ∀ c, value.toList.head? = some c → isBlank c = false)
    (hl : ∀ c, value.toList.getLast? = some c → isBlank c = false) :
    assignment? (key ++ "=" ++ value).toList = some (key, value) := by
  have htext : (key ++ "=" ++ value).toList = key.toList ++ '=' :: value.toList := by simp
  rw [htext, assignment?_of_key hk hl, Text.trim_eq_self_of_ends hf hl, hv.strip_eq (by decide),
    hv.strip_eq (by decide), String.ofList_toList]

/-- Quotes of one kind are taken off, and those of the other kind are not there. -/
theorem assignment?_around {quote : Char} (hq : isQuote quote = true) :
    assignment? (key.toList ++ '=' :: quote :: (value.toList ++ [quote])) = some (key, value) := by
  have hquote : quote = '"' ∨ quote = '\'' := by simpa [isQuote] using hq
  have hblank : isBlank quote = false := by rcases hquote with rfl | rfl <;> decide
  have hlast : ∀ d, (quote :: (value.toList ++ [quote])).getLast? = some d → d = quote :=
    fun d hd => by simpa [eq_comm, List.getLast?_cons] using hd
  have htrim : Text.trim (quote :: (value.toList ++ [quote])) = quote :: (value.toList ++ [quote]) :=
    Text.trim_eq_self_of_ends (fun d hd => Option.some.inj hd ▸ hblank)
      fun d hd => hlast d hd ▸ hblank
  rw [assignment?_of_key hk fun d hd => hlast d hd ▸ hblank, htrim]
  rcases hquote with rfl | rfl
  · rw [hv.strip_quoted (by decide), hv.strip_eq (by decide), String.ofList_toList]
  · have hother : strip '"' ('\'' :: (value.toList ++ ['\''])) = '\'' :: (value.toList ++ ['\'']) :=
      strip_eq_self (fun d hd => Option.some.inj hd ▸ by decide)
        fun d hd => hlast d hd ▸ by decide
    rw [hother, hv.strip_quoted (by decide), String.ofList_toList]

end Value

theorem assignments_around {before core after : String} (hb : IsBlankText before)
    (ha : IsBlankText after) (hc : '\n' ∉ core.toList) :
    (Text.lines (before ++ core ++ after).toList).filterMap assignment? =
      (assignment? core.toList).toList := by
  rw [String.toList_append, String.toList_append]
  exact Text.filterMap_lines_around assignment?_trim assignment?_nil hb ha hc

theorem assignments_of_line {s : String} {e : Option (String × String)} (h : Line s e) :
    (Text.lines s.toList).filterMap assignment? = e.toList := by
  cases h with
  | blank hs =>
    rw [← Text.filterMap_lines_trim assignment?_trim assignment?_nil, Text.trim_of_blanks hs]
    rfl
  | @comment before text hb ht =>
    have hnewline : '\n' ∉ ("#" ++ text).toList := by simpa using ht
    have htext : before ++ "#" ++ text = before ++ ("#" ++ text) ++ "" := by
      rw [String.append_empty, String.append_assoc]
    rw [htext, assignments_around hb (by simp [IsBlankText]) hnewline, String.toList_append]
    exact congrArg Option.toList (assignment?_comment text.toList)
  | @bare before key value after hb hk hv hf hl ha =>
    have hkey : '\n' ∉ key.toList := fun hm => (hk.of_mem hm).2.2.2 rfl
    have hnewline : '\n' ∉ (key ++ "=" ++ value).toList := by simp [hkey, hv.noNewline]
    rw [assignments_around hb ha hnewline, assignment?_bare hk hv hf hl]
  | @quoted before key quote value after hb hk hq hv ha =>
    have hkey : '\n' ∉ key.toList := fun hm => (hk.of_mem hm).2.2.2 rfl
    have hquote : assignment? (key ++ "=" ++ quote ++ value ++ quote).toList =
        some (key, value) ∧ '\n' ∉ (key ++ "=" ++ quote ++ value ++ quote).toList := by
      rcases hq with rfl | rfl
      · refine ⟨?_, by simp [hkey, hv.noNewline]⟩
        simpa using assignment?_around hk hv (by decide : isQuote '"' = true)
      · refine ⟨?_, by simp [hkey, hv.noNewline]⟩
        simpa using assignment?_around hk hv (by decide : isQuote '\'' = true)
    rw [assignments_around hb ha hquote.2, hquote.1]

theorem release_intercalate {lines : List String} {entries : List (Option (String × String))}
    (h : List.Forall₂ Line lines entries) :
    release ("\n".intercalate lines) = Dict.ofList entries.reduceOption :=
  congrArg Dict.ofList (Text.filterMap_lines_intercalate assignment?_trim assignment?_nil
    (h.imp fun _ _ => assignments_of_line))

theorem release_trimString (text : String) : release (Text.trimString text) = release text := by
  rw [release, Text.trimString, String.toList_ofList]
  exact congrArg Dict.ofList (Text.filterMap_lines_trim assignment?_trim assignment?_nil _)

/-- The parts of a version between its points. -/
structure IsParts (version : String) (parts : List String) : Prop where
  ne_nil : parts ≠ []
  noPoint : ∀ p ∈ parts, '.' ∉ p.toList
  joined : ".".intercalate parts = version

theorem isParts_iff {version : String} {parts : List String} :
    IsParts version parts ↔ parts.map String.toList = Text.split '.' version.toList := by
  constructor
  · rintro ⟨hne, hfree, rfl⟩
    have hjoined : (".".intercalate parts).toList = ['.'].intercalate (parts.map String.toList) := by
      rw [String.toList_intercalate]
      rfl
    rw [hjoined, Text.split_intercalate (by simpa using hne) (by simpa using hfree)]
  · intro hp
    refine ⟨?_, fun p hm => Text.not_mem_of_mem_split (hp ▸ List.mem_map_of_mem hm), ?_⟩
    · rintro rfl
      exact Text.splitBy_ne_nil _ _ hp.symm
    · rw [← String.toList_inj, String.toList_intercalate, hp]
      exact Text.intercalate_split '.' _

theorem exists_isParts (version : String) : ∃ first rest, IsParts version (first :: rest) := by
  cases hs : Text.split '.' version.toList with
  | nil => exact absurd hs (Text.splitBy_ne_nil _ _)
  | cons p ps =>
    refine ⟨String.ofList p, ps.map String.ofList, isParts_iff.mpr ?_⟩
    simp [hs, Function.comp_def]

theorem versionParts_eq {version first : String} {rest : List String}
    (hp : IsParts version (first :: rest)) : versionParts version =
      (if first = "" then [] else [("os_release.VERSION_ID.major", .text first)]) ++
        (rest.take 1).map fun p => ("os_release.VERSION_ID.minor", .text p) := by
  have hs := isParts_iff.mp hp
  rw [versionParts, ← hs]
  cases rest <;> simp

/-- The features that the assignments of a file give, each with its text. -/
inductive Published (assigned : List (String × String)) : String → String → Prop where
  | id {v : String} (hv : Dict.IsLast "ID" v assigned) : Published assigned "os_release.ID" v
  | version {v : String} (hv : Dict.IsLast "VERSION_ID" v assigned) :
      Published assigned "os_release.VERSION_ID" v
  | major {v part : String} {parts : List String} (hv : Dict.IsLast "VERSION_ID" v assigned)
      (hp : IsParts v (part :: parts)) (hn : part ≠ "") :
      Published assigned "os_release.VERSION_ID.major" part
  | minor {v first part : String} {parts : List String}
      (hv : Dict.IsLast "VERSION_ID" v assigned) (hp : IsParts v (first :: part :: parts)) :
      Published assigned "os_release.VERSION_ID.minor" part

/-- What a release file gives, the features of a version behind that of the name. -/
def entries (release : Dict String) : List (String × FeatureValue) :=
  ((release.get? "ID").toList.map fun v => ("os_release.ID", .text v)) ++
    (release.get? "VERSION_ID").toList.flatMap fun v =>
      ("os_release.VERSION_ID", .text v) :: versionParts v

theorem features_eq (release : Dict String) : features release = Dict.ofList (entries release) := by
  rw [features, entries]
  cases release.get? "ID" <;> cases release.get? "VERSION_ID" <;> simp

theorem nodup_entries (release : Dict String) : ((entries release).map Prod.fst).Nodup := by
  have hparts : ∀ v, ((versionParts v).map Prod.fst).Sublist
      ["os_release.VERSION_ID.major", "os_release.VERSION_ID.minor"] := by
    intro v
    obtain ⟨first, rest, hp⟩ := exists_isParts v
    rw [versionParts_eq hp]
    cases rest <;> by_cases hf : first = "" <;> simp [hf]
  have hversion : (((release.get? "VERSION_ID").toList.flatMap fun v =>
      ("os_release.VERSION_ID", FeatureValue.text v) :: versionParts v).map Prod.fst).Sublist
      ["os_release.VERSION_ID", "os_release.VERSION_ID.major", "os_release.VERSION_ID.minor"] := by
    cases release.get? "VERSION_ID" with
    | none => simp
    | some v => simpa using hparts v
  have hid : (((release.get? "ID").toList.map fun v =>
      ("os_release.ID", FeatureValue.text v)).map Prod.fst).Sublist ["os_release.ID"] := by
    cases release.get? "ID" <;> simp
  have hall : ["os_release.ID", "os_release.VERSION_ID", "os_release.VERSION_ID.major",
      "os_release.VERSION_ID.minor"].Nodup := by decide
  rw [entries, List.map_append]
  exact hall.sublist (hid.append hversion)

section Published

variable {assigned : List (String × String)} {name : String} {value : FeatureValue}

theorem published_of_mem_versionParts {v : String} (hv : Dict.IsLast "VERSION_ID" v assigned)
    (hm : (name, value) ∈ versionParts v) :
    ∃ text, value = .text text ∧ Published assigned name text := by
  obtain ⟨first, rest, hp⟩ := exists_isParts v
  rw [versionParts_eq hp, List.mem_append] at hm
  rcases hm with hm | hm
  · split at hm
    · cases hm
    · rename_i hne
      obtain ⟨rfl, rfl⟩ := Prod.mk.inj (List.mem_singleton.mp hm)
      exact ⟨first, rfl, .major hv hp hne⟩
  · cases rest with
    | nil => cases hm
    | cons second rest =>
      obtain ⟨rfl, rfl⟩ := Prod.mk.inj (List.mem_singleton.mp hm)
      exact ⟨second, rfl, .minor hv hp⟩

theorem mem_entries_iff : (name, value) ∈ entries (Dict.ofList assigned) ↔
    ∃ text, value = .text text ∧ Published assigned name text := by
  simp only [entries, List.mem_append, List.mem_map, List.mem_flatMap, Option.mem_toList,
    Dict.get?_ofList_iff_isLast, List.mem_cons]
  constructor
  · rintro (⟨v, hv, he⟩ | ⟨v, hv, he | he⟩)
    · obtain ⟨rfl, rfl⟩ := Prod.mk.inj he
      exact ⟨v, rfl, .id hv⟩
    · obtain ⟨rfl, rfl⟩ := Prod.mk.inj he
      exact ⟨v, rfl, .version hv⟩
    · exact published_of_mem_versionParts hv he
  · rintro ⟨text, rfl, hp⟩
    cases hp with
    | id hv => exact .inl ⟨text, hv, rfl⟩
    | version hv => exact .inr ⟨text, hv, .inl rfl⟩
    | @major v _ parts hv hp hn =>
      refine .inr ⟨v, hv, .inr ?_⟩
      simp [versionParts_eq hp, hn]
    | @minor v first _ parts hv hp =>
      refine .inr ⟨v, hv, .inr ?_⟩
      simp [versionParts_eq hp]

end Published

theorem value_discover {h : Host} {lines : List String}
    {assigned : List (Option (String × String))} (hl : List.Forall₂ Line lines assigned)
    (hr : h.readText "etc/os-release" = .ok ("\n".intercalate lines)) :
    (discover h).run.value = .ok (features (Dict.ofList assigned.reduceOption)) := by
  rw [← release_intercalate hl, ← release_trimString, discover, Host.readTrimmed, hr]
  rfl

/-- From a release file of assignments, comments and blank lines comes nothing but the last values
of the name and of the version, and the first two parts of the version: the first if there is
something in it, the second if it is there. -/
theorem discover_release (settings : SourceSettings) (h : Host) (lines : List String)
    (assigned : List (Option (String × String))) (hl : List.Forall₂ Line lines assigned)
    (hr : h.readText "etc/os-release" = .ok ("\n".intercalate lines)) :
    ∃ found, (system.discover settings h).run.value = .ok found ∧
      ∀ name value, found.get? name = some value ↔
        ∃ text, value = .text text ∧ Published assigned.reduceOption name text := by
  refine ⟨features (Dict.ofList assigned.reduceOption), value_discover hl hr, fun name value => ?_⟩
  rw [features_eq, Dict.get?_ofList_eq_some_iff (nodup_entries _), mem_entries_iff]

theorem isKey_of_all {key : String} (hne : key.toList ≠ [])
    (hw : (key.toList.all fun c => c = '_' || Text.isAlphanumeric c) = true) : IsKey key :=
  ⟨hne, fun c hc => Or.symm (by simpa using List.all_eq_true.mp hw c hc)⟩

theorem isValue_of_all {value : String}
    (hq : (value.toList.head?.all (!isQuote ·) && value.toList.getLast?.all (!isQuote ·)) = true)
    (hn : '\n' ∉ value.toList) : IsValue value := by
  rw [Bool.and_eq_true] at hq
  refine ⟨fun c hc => ?_, fun c hc => ?_, hn⟩
  · simpa [hc] using hq.1
  · simpa [hc] using hq.2

/-- A host with nothing but a release file. -/
def withRelease (text : String) : Host :=
  ⟨"/", [(["etc"], .directory), (["etc", "os-release"], .file (.text text) false)]⟩

/-- The last assignments count, in its quotes a value may hold those of the other kind, and behind a
point at the end there is a second part. -/
theorem discover_release_quoted :
    let lines := ["# ID=none", "ID=node", " VERSION_ID='7.9'\r", "", "ID='the \"new\" node'",
      "VERSION_ID=\"20.\""]
    let assigned := [none, some ("ID", "node"), some ("VERSION_ID", "7.9"), none,
      some ("ID", "the \"new\" node"), some ("VERSION_ID", "20.")]
    let h := withRelease ("\n".intercalate lines)
    List.Forall₂ Line lines assigned ∧ h.readText "etc/os-release" = .ok ("\n".intercalate lines) ∧
      ∃ found, (system.discover .none h).run.value = .ok found ∧
        found.get? "os_release.ID" = some (.text "the \"new\" node") ∧
        found.get? "os_release.VERSION_ID.minor" = some (.text "") := by
  intro lines assigned h
  have hid : IsKey "ID" := isKey_of_all (by decide) (by decide +kernel)
  have hversion : IsKey "VERSION_ID" := isKey_of_all (by decide) (by decide +kernel)
  have hcomment : Line "# ID=none" none := @Line.comment "" " ID=none" (by decide) (by decide)
  have hname : Line "ID=node" (some ("ID", "node")) :=
    @Line.bare "" "ID" "node" "" (by decide) hid (isValue_of_all (by decide) (by decide))
      (Local.first_of_all (by decide)) (Local.last_of_all (by decide)) (by decide)
  have hold : Line " VERSION_ID='7.9'\r" (some ("VERSION_ID", "7.9")) :=
    @Line.quoted " " "VERSION_ID" "'" "7.9" "\r" (by decide) hversion (.inr rfl)
      (isValue_of_all (by decide) (by decide)) (by decide)
  have hnew : Line "ID='the \"new\" node'" (some ("ID", "the \"new\" node")) :=
    @Line.quoted "" "ID" "'" "the \"new\" node" "" (by decide) hid (.inr rfl)
      (isValue_of_all (by decide) (by decide)) (by decide)
  have hlast : Line "VERSION_ID=\"20.\"" (some ("VERSION_ID", "20.")) :=
    @Line.quoted "" "VERSION_ID" "\"" "20." "" (by decide) hversion (.inl rfl)
      (isValue_of_all (by decide) (by decide)) (by decide)
  have hl : List.Forall₂ Line lines assigned := .cons hcomment <| .cons hname <| .cons hold <|
    .cons (.blank (by decide)) <| .cons hnew <| .cons hlast .nil
  have hr : h.readText "etc/os-release" = .ok ("\n".intercalate lines) :=
    Host.readText_of_plainText? (by decide +kernel)
  obtain ⟨found, ho, hf⟩ := discover_release .none h lines assigned hl hr
  have hlastId : Dict.IsLast "ID" "the \"new\" node" assigned.reduceOption :=
    ⟨[("ID", "node"), ("VERSION_ID", "7.9")], [("VERSION_ID", "20.")], rfl, by decide⟩
  have hlastVersion : Dict.IsLast "VERSION_ID" "20." assigned.reduceOption :=
    ⟨[("ID", "node"), ("VERSION_ID", "7.9"), ("ID", "the \"new\" node")], [], rfl, by decide⟩
  have hparts : IsParts "20." ["20", ""] := isParts_iff.mpr (by decide +kernel)
  exact ⟨hl, hr, found, ho, (hf _ _).mpr ⟨_, rfl, .id hlastId⟩,
    (hf _ _).mpr ⟨_, rfl, .minor hlastVersion hparts⟩⟩

/-- A second part that is empty is given all the same. -/
theorem discover_release_emptyMinor :
    ¬ ∀ (settings : SourceSettings) (h : Host) (lines : List String)
      (assigned : List (Option (String × String))), List.Forall₂ Line lines assigned →
      h.readText "etc/os-release" = .ok ("\n".intercalate lines) →
      ∀ found, (system.discover settings h).run.value = .ok found → ∀ value,
        found.get? "os_release.VERSION_ID.minor" = some value → value ≠ .text "" := by
  intro hall
  have hkey : IsKey "VERSION_ID" := isKey_of_all (by decide) (by decide +kernel)
  have hline : Line "VERSION_ID=20." (some ("VERSION_ID", "20.")) :=
    @Line.bare "" "VERSION_ID" "20." "" (by decide) hkey (isValue_of_all (by decide) (by decide))
      (Local.first_of_all (by decide)) (Local.last_of_all (by decide)) (by decide)
  have hl : List.Forall₂ Line ["VERSION_ID=20."] [some ("VERSION_ID", "20.")] := .cons hline .nil
  have hr : (withRelease "VERSION_ID=20.").readText "etc/os-release" =
      .ok ("\n".intercalate ["VERSION_ID=20."]) :=
    Host.readText_of_plainText? (by decide +kernel)
  exact hall .none _ _ _ hl hr _ (value_discover hl hr) (.text "") (by decide +kernel) rfl

end Source.System

end NodeSurvey
