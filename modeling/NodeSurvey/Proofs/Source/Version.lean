import NodeSurvey.Proofs.Source.ReleaseFile
import NodeSurvey.Source.Kernel

/-! The version in the name of a kernel release. It is made of the digits that the first parts of
the name start with, up to a part that starts with none, so its components are published in order
and none is left out. -/

namespace NodeSurvey.Source.Kernel

open NodeSurvey.Source.System (IsParts isParts_iff exists_isParts)

structure IsDigits (s : String) : Prop where
  ne_empty : s ≠ ""
  digits : ∀ c ∈ s.toList, c.isDigit = true

/-- What may stand behind the numbers of a release. -/
def IsSuffix (s : String) : Prop := ∀ c, s.toList.head? = some c → c = '-' ∨ c = '+'

/-- A release up to its first hyphen or plus sign. -/
structure IsStem (release stem : String) : Prop where
  free : ∀ c ∈ stem.toList, c ≠ '-' ∧ c ≠ '+'
  suffix : ∃ suffix, release = stem ++ suffix ∧ IsSuffix suffix

/-- The digits that parts start with, up to a part that starts with none. -/
inductive Leading : List String → List String → Prop where
  | nil : Leading [] []
  | stop {part : String} {rest : List String}
      (hp : ∀ c, part.toList.head? = some c → c.isDigit = false) : Leading (part :: rest) []
  | next {digits tail : String} {rest numbers : List String} (hd : IsDigits digits)
      (ht : ∀ c, tail.toList.head? = some c → c.isDigit = false) (h : Leading rest numbers) :
      Leading ((digits ++ tail) :: rest) (digits :: numbers)

/-- The numbers that the first three parts of a release start with. -/
def IsVersion (release : String) (numbers : List String) : Prop :=
  ∃ stem parts, IsStem release stem ∧ IsParts stem parts ∧ Leading (parts.take 3) numbers

theorem isStem_iff {release stem : String} : IsStem release stem ↔
    release.toList.takeWhile (fun c => c ≠ '-' && c ≠ '+') = stem.toList := by
  rw [Text.takeWhile_eq_iff]
  constructor
  · rintro ⟨hfree, suffix, rfl, hs⟩
    refine ⟨fun c hc => by simpa using hfree c hc, suffix.toList, String.toList_append, ?_⟩
    intro c hc
    rcases hs c hc with rfl | rfl <;> rfl
  · rintro ⟨hfree, b, hb, hs⟩
    refine ⟨fun c hc => by simpa using hfree c hc, String.ofList b, ?_, fun c hc => ?_⟩
    · rw [← String.toList_inj, hb, String.toList_append, String.toList_ofList]
    · rw [String.toList_ofList] at hc
      have hc := hs c hc
      rw [Bool.and_eq_false_iff] at hc
      simpa using hc

namespace Leading

variable {parts numbers : List String}

theorem toList_eq (h : Leading parts numbers) : numbers.map String.toList =
    (parts.map fun p => p.toList.takeWhile Char.isDigit).takeWhile (!·.isEmpty) := by
  induction h with
  | nil => rfl
  | @stop part rest hp =>
    have hnone : part.toList.takeWhile Char.isDigit = [] :=
      Text.takeWhile_eq_iff.mpr ⟨by simp, part.toList, rfl, hp⟩
    rw [List.map_cons, hnone]
    rfl
  | @next digits tail rest numbers hd ht _ ih =>
    have htake : (digits ++ tail).toList.takeWhile Char.isDigit = digits.toList :=
      Text.takeWhile_eq_iff.mpr ⟨hd.digits, tail.toList, String.toList_append, ht⟩
    have hne : digits.toList ≠ [] := fun he => hd.ne_empty (String.toList_inj.mp he)
    rw [List.map_cons, List.map_cons, htake, List.takeWhile_cons_of_pos (by simpa using hne), ih]

theorem exists_numbers (parts : List String) : ∃ numbers, Leading parts numbers := by
  induction parts with
  | nil => exact ⟨[], .nil⟩
  | cons part rest ih =>
    obtain ⟨numbers, ih⟩ := ih
    obtain ⟨a, ha⟩ : ∃ a, part.toList.takeWhile Char.isDigit = a := ⟨_, rfl⟩
    obtain ⟨hd, b, hb, ht⟩ := Text.takeWhile_eq_iff.mp ha
    by_cases hne : a = []
    · refine ⟨[], .stop ?_⟩
      rwa [hb, hne, List.nil_append]
    · have hpart : part = String.ofList a ++ String.ofList b := by
        rw [← String.toList_inj, hb, String.toList_append, String.toList_ofList,
          String.toList_ofList]
      rw [hpart]
      refine ⟨_, .next ⟨fun he => hne ?_, by simpa using hd⟩ (by simpa using ht) ih⟩
      simpa using congrArg String.toList he

theorem length_le (h : Leading parts numbers) : numbers.length ≤ parts.length := by
  induction h with
  | nil => exact le_rfl
  | stop _ => exact Nat.zero_le _
  | next _ _ _ ih => exact Nat.succ_le_succ ih

theorem isDigits (h : Leading parts numbers) : ∀ n ∈ numbers, IsDigits n := by
  induction h with
  | nil => simp
  | stop _ => simp
  | next hd _ _ ih => exact List.forall_mem_cons.mpr ⟨hd, ih⟩

end Leading

theorem map_toList_inj {l m : List String} :
    l.map String.toList = m.map String.toList ↔ l = m :=
  List.map_inj_right fun _ _ => String.toList_inj.mp

section Version

variable {release : String} {numbers : List String}

theorem IsVersion.toList_eq (h : IsVersion release numbers) :
    numbers.map String.toList = version release.toList := by
  obtain ⟨stem, parts, hstem, hparts, hl⟩ := h
  rw [hl.toList_eq, version, isStem_iff.mp hstem, ← isParts_iff.mp hparts, ← List.map_take,
    List.map_map]
  rfl

theorem exists_isVersion (release : String) : ∃ numbers, IsVersion release numbers := by
  have hstem : IsStem release
      (String.ofList (release.toList.takeWhile fun c => c ≠ '-' && c ≠ '+')) :=
    isStem_iff.mpr String.toList_ofList.symm
  obtain ⟨first, rest, hparts⟩ := exists_isParts (String.ofList
    (release.toList.takeWhile fun c => c ≠ '-' && c ≠ '+'))
  obtain ⟨numbers, hl⟩ := Leading.exists_numbers ((first :: rest).take 3)
  exact ⟨numbers, _, _, hstem, hparts, hl⟩

theorem isVersion_iff :
    IsVersion release numbers ↔ numbers.map String.toList = version release.toList := by
  refine ⟨IsVersion.toList_eq, fun h => ?_⟩
  obtain ⟨numbers', hv⟩ := exists_isVersion release
  exact map_toList_inj.mp (hv.toList_eq.trans h.symm) ▸ hv

theorem IsVersion.length_le (h : IsVersion release numbers) : numbers.length ≤ 3 := by
  obtain ⟨_, parts, -, -, hl⟩ := h
  exact hl.length_le.trans (List.length_take_le 3 parts)

theorem IsVersion.isDigits (h : IsVersion release numbers) : ∀ n ∈ numbers, IsDigits n := by
  obtain ⟨_, _, -, -, hl⟩ := h
  exact hl.isDigits

theorem IsDigits.free {s : String} (hs : IsDigits s) {d : Char} (hd : d.isDigit = false) :
    d ∉ s.toList := fun hm => by simp [hs.digits d hm] at hd

theorem isVersion_numbers {a b c suffix : String} (ha : IsDigits a) (hb : IsDigits b)
    (hc : IsDigits c) (hs : IsSuffix suffix) :
    IsVersion (a ++ "." ++ b ++ "." ++ c ++ suffix) [a, b, c] := by
  have hfree : ∀ d : Char, d ≠ '.' → d.isDigit = false →
      d ∉ (a ++ "." ++ b ++ "." ++ c).toList := fun d hpoint hd => by
    simp [ha.free hd, hb.free hd, hc.free hd, hpoint]
  refine ⟨a ++ "." ++ b ++ "." ++ c, [a, b, c], ⟨fun d hd => ⟨?_, ?_⟩, suffix, rfl, hs⟩,
    ⟨by simp, ?_, by simp [String.intercalate_cons_cons, String.append_assoc]⟩, ?_⟩
  · rintro rfl
    exact hfree '-' (by decide) (by decide) hd
  · rintro rfl
    exact hfree '+' (by decide) (by decide) hd
  · simp [ha.free, hb.free, hc.free]
  · have hnext : ∀ {n rest numbers}, IsDigits n → Leading rest numbers →
        Leading (n :: rest) (n :: numbers) := fun {n} _ _ hn h => by
      simpa using @Leading.next n "" _ _ hn (by simp) h
    exact hnext ha (hnext hb (hnext hc .nil))

end Version

/-! What is published of a version. -/

/-- The features beside those of the version: build options, and whether access control is
enforced. -/
def otherFeatures (s : KernelSettings) (h : Host) (release : String) :
    List (String × FeatureValue) :=
  (match h.readTrimmed (optionsPath s release) with
    | .ok text => (s.configOpts.filter (enabledOptions text).contains).map fun o =>
        ("config." ++ o, .present)
    | .error _ => []) ++
  if (h.readTrimmed "sys/fs/selinux/enforce").toOption = some "1" then
    [("selinux.enabled", .present)]
  else []

theorem value_discover (s : KernelSettings) {h : Host} {release : String}
    (hr : h.readTrimmed "proc/sys/kernel/osrelease" = .ok release) :
    (discover s h).run.value =
      .ok (Dict.ofList (versionFeatures release ++ otherFeatures s h release)) := by
  have hreport : ∀ n, (Discovery.report n).run.value = .ok () := fun _ => rfl
  simp only [discover, hr, Discovery.reading, pure_bind, otherFeatures]
  cases h.readTrimmed (optionsPath s release) <;>
    cases h.readTrimmed "sys/fs/selinux/enforce" <;>
      simp [Except.toOption, hreport, Except.map]

theorem head?_of_mem_otherFeatures {s : KernelSettings} {h : Host} {release : String}
    {e : String × FeatureValue} (he : e ∈ otherFeatures s h release) :
    e.1.toList.head? ≠ some 'v' := by
  rw [otherFeatures, List.mem_append] at he
  rcases he with he | he
  · split at he
    · obtain ⟨o, -, rfl⟩ := List.mem_map.mp he
      simp
    · cases he
  · split at he
    · rw [List.mem_singleton.mp he]
      decide
    · cases he

theorem exists_of_discover {s : KernelSettings} {h : Host} {found : Features}
    (hd : (discover s h).run.value = .ok found) :
    ∃ text, h.readText "proc/sys/kernel/osrelease" = .ok text ∧
      found = Dict.ofList (versionFeatures (Text.trimString text) ++
        otherFeatures s h (Text.trimString text)) := by
  cases hr : h.readText "proc/sys/kernel/osrelease" with
  | error e =>
    rw [discover, Discovery.value_bind, Host.readTrimmed, hr] at hd
    cases hd
  | ok text =>
    have hread : h.readTrimmed "proc/sys/kernel/osrelease" = .ok (Text.trimString text) := by
      rw [Host.readTrimmed, hr]
      rfl
    rw [value_discover s hread] at hd
    exact ⟨text, rfl, (Except.ok.inj hd).symm⟩

theorem get?_components {release : String} {numbers : List String}
    (hv : IsVersion release numbers) {others : List (String × FeatureValue)}
    (ho : ∀ e ∈ others, e.1.toList.head? ≠ some 'v') :
    let found := Dict.ofList (versionFeatures release ++ others)
    found.get? "version.major" = numbers[0]?.map .text ∧
      found.get? "version.minor" = numbers[1]?.map .text ∧
      found.get? "version.revision" = numbers[2]?.map .text := by
  intro found
  have hfree : ∀ k : String, k.toList.head? = some 'v' → k ∉ others.map Prod.fst := by
    intro k hk hm
    obtain ⟨e, he, rfl⟩ := List.mem_map.mp hm
    exact ho e he hk
  have hfeatures : versionFeatures release = ("version.full", .text release) ::
      List.zipWith (fun part number => ("version." ++ part, .text number))
        ["major", "minor", "revision"] numbers := by
    rw [versionFeatures, ← hv.toList_eq, List.zipWith_map_right]
    simp only [String.ofList_toList]
  rw [Dict.get?_ofList_append (hfree _ (by decide)), Dict.get?_ofList_append (hfree _ (by decide)),
    Dict.get?_ofList_append (hfree _ (by decide)), hfeatures]
  simp only [Dict.get?_ofList]
  rcases numbers with _ | ⟨a, _ | ⟨b, _ | ⟨c, rest⟩⟩⟩ <;> simp [Dict.find]

/-- The version of a release is made of at most three runs of digits, the ones that its first parts
start with up to a part that starts with none, and so of all three numbers of a release that has
them. What is published are these runs in their order, so none without the one before it. -/
theorem discover_version :
    (∀ release, ∃ numbers, numbers.map String.toList = version release.toList ∧
      (∀ numbers', IsVersion release numbers' ↔ numbers' = numbers) ∧
      numbers.length ≤ 3 ∧ ∀ n ∈ numbers, IsDigits n) ∧
    (∀ a b c suffix, IsDigits a → IsDigits b → IsDigits c → IsSuffix suffix →
      version (a ++ "." ++ b ++ "." ++ c ++ suffix).toList = [a.toList, b.toList, c.toList]) ∧
    ∀ settings h found, (kernel.discover settings h).run.value = .ok found →
      (∃ text numbers, h.readText "proc/sys/kernel/osrelease" = .ok text ∧
        IsVersion (Text.trimString text) numbers ∧
        found.get? "version.major" = numbers[0]?.map .text ∧
        found.get? "version.minor" = numbers[1]?.map .text ∧
        found.get? "version.revision" = numbers[2]?.map .text) ∧
      (found.get? "version.minor" ≠ none → found.get? "version.major" ≠ none) ∧
      (found.get? "version.revision" ≠ none → found.get? "version.minor" ≠ none) := by
  refine ⟨fun release => ?_, fun a b c suffix ha hb hc hs => ?_, fun settings h found hd => ?_⟩
  · obtain ⟨numbers, hv⟩ := exists_isVersion release
    refine ⟨numbers, hv.toList_eq, fun numbers' => ?_, hv.length_le, hv.isDigits⟩
    rw [isVersion_iff, ← hv.toList_eq, map_toList_inj]
  · exact (isVersion_numbers ha hb hc hs).toList_eq.symm
  · obtain ⟨s, hs⟩ : ∃ s, kernel.discover settings h = discover s h := by
      cases settings with
      | kernel s => exact ⟨s, rfl⟩
      | _ => exact ⟨.defaults, rfl⟩
    rw [hs] at hd
    obtain ⟨text, hr, hfound⟩ := exists_of_discover hd
    obtain ⟨numbers, hv⟩ := exists_isVersion (Text.trimString text)
    obtain ⟨hmajor, hminor, hrevision⟩ :=
      get?_components hv fun e he => head?_of_mem_otherFeatures (s := s) (h := h) he
    rw [← hfound] at hmajor hminor hrevision
    refine ⟨⟨text, numbers, hr, hv, hmajor, hminor, hrevision⟩, ?_, ?_⟩
    · rw [hmajor, hminor]
      simp only [Ne, Option.map_eq_none_iff, List.getElem?_eq_none_iff]
      omega
    · rw [hminor, hrevision]
      simp only [Ne, Option.map_eq_none_iff, List.getElem?_eq_none_iff]
      omega

/-- A host with nothing but the name of its kernel release. -/
def withRelease (text : String) : Host :=
  ⟨"/", [(["proc"], .directory), (["proc", "sys"], .directory),
    (["proc", "sys", "kernel"], .directory),
    (["proc", "sys", "kernel", "osrelease"], .file (.text text) false)]⟩

/-- A part that starts with no digit ends the version, whatever numbers stand behind it. -/
theorem discover_version_gap :
    let h := withRelease " 5.10_rc3.el8.2-1\n"
    (IsDigits "5" ∧ IsDigits "10" ∧ IsDigits "007" ∧ IsSuffix "+-x.1" ∧
      version ("5" ++ "." ++ "10" ++ "." ++ "007" ++ "+-x.1").toList =
        ["5".toList, "10".toList, "007".toList]) ∧
      IsVersion "5.10_rc3.el8.2-1" ["5", "10"] ∧
      ∃ found, (kernel.discover (.kernel .defaults) h).run.value = .ok found ∧
        found.get? "version.major" = some (.text "5") ∧
        found.get? "version.minor" = some (.text "10") ∧ found.get? "version.revision" = none := by
  intro h
  obtain ⟨hall, hnumbers, hpublished⟩ := discover_version
  have hfive : IsDigits "5" := ⟨by decide, List.all_eq_true.mp (by decide)⟩
  have hten : IsDigits "10" := ⟨by decide, List.all_eq_true.mp (by decide)⟩
  have hseven : IsDigits "007" := ⟨by decide, List.all_eq_true.mp (by decide)⟩
  have hsuffix : IsSuffix "+-x.1" := fun c hc => .inr (by simpa [eq_comm] using hc)
  obtain ⟨numbers, -, hiff, -, -⟩ := hall "5.10_rc3.el8.2-1"
  have hversion : IsVersion "5.10_rc3.el8.2-1" ["5", "10"] :=
    isVersion_iff.mpr (by decide +kernel)
  have hr : h.readText "proc/sys/kernel/osrelease" = .ok " 5.10_rc3.el8.2-1\n" :=
    Host.readText_of_plainText? (by decide +kernel)
  have hread : h.readTrimmed "proc/sys/kernel/osrelease" = .ok "5.10_rc3.el8.2-1" := by
    rw [Host.readTrimmed, hr]
    exact congrArg Except.ok (by decide +kernel)
  obtain ⟨found, hd⟩ : ∃ found, (kernel.discover (.kernel .defaults) h).run.value = .ok found :=
    ⟨_, value_discover .defaults hread⟩
  obtain ⟨⟨text, numbers', hr', hv, hmajor, hminor, hrevision⟩, -, -⟩ :=
    hpublished (.kernel .defaults) h found hd
  obtain rfl : " 5.10_rc3.el8.2-1\n" = text := Except.ok.inj (hr.symm.trans hr')
  have htrim : Text.trimString " 5.10_rc3.el8.2-1\n" = "5.10_rc3.el8.2-1" := by decide +kernel
  obtain rfl : numbers' = ["5", "10"] :=
    ((hiff _).mp (htrim ▸ hv)).trans ((hiff _).mp hversion).symm
  have hthree := hnumbers "5" "10" "007" "+-x.1" hfive hten hseven hsuffix
  exact ⟨⟨hfive, hten, hseven, hsuffix, hthree⟩, hversion, found, hd, hmajor, hminor, hrevision⟩

end NodeSurvey.Source.Kernel
