import Mathlib.Data.List.Induction
import Mathlib.Data.Nat.Digits.Defs
import NodeSurvey.Proofs.Dict
import NodeSurvey.Proofs.Host.Walk
import NodeSurvey.Proofs.Text.Split
import NodeSurvey.Source.Cpu

/-! The features of the first processor that a host describes. Its description ends at the first
empty line, of several lines for one thing the last counts, and what is published is the flags that
the settings let through and whether there are more threads than cores. -/

namespace NodeSurvey

namespace Text

/-- The number that decimal digits stand for. -/
def number (digits : List Char) : Nat :=
  Nat.ofDigits 10 (digits.reverse.map fun c => c.toNat - '0'.toNat)

/-- A whole number as it may be written: digits, perhaps behind a plus sign, for a number that fits
into 32 bits. -/
def IsCount (s : String) (n : Nat) : Prop :=
  ∃ digits, (s.toList = digits ∨ s.toList = '+' :: digits) ∧ digits ≠ [] ∧
    (∀ c ∈ digits, c.isDigit = true) ∧ n = number digits ∧ n < 2 ^ 32

theorem foldl_digits (digits : List Char) :
    digits.foldl (fun n c => 10 * n + (c.toNat - 48)) 0 = number digits := by
  induction digits using List.reverseRecOn with
  | nil => rfl
  | append_singleton digits c ih =>
    rw [List.foldl_append, ih, number, number, List.reverse_concat, List.map_cons,
      Nat.ofDigits_cons]
    exact Nat.add_comm _ _

theorem count?_plus (digits : List Char) : count? ('+' :: digits) =
    if digits.isEmpty || !digits.all Char.isDigit then none
    else if number digits < 2 ^ 32 then some (number digits) else none := by
  rw [← foldl_digits]
  rfl

theorem count?_of_ne_plus {s : List Char} (hs : s.head? ≠ some '+') :
    count? s = count? ('+' :: s) := by
  cases s with
  | nil => rfl
  | cons c s =>
    have hc : c ≠ '+' := fun e => hs (congrArg some e)
    simp [count?, hc]

theorem count?_plus_eq_some_iff {digits : List Char} {n : Nat} :
    count? ('+' :: digits) = some n ↔ digits ≠ [] ∧ (∀ c ∈ digits, c.isDigit = true) ∧
      n = number digits ∧ n < 2 ^ 32 := by
  have hdigits : ¬ (digits.isEmpty || !digits.all Char.isDigit) = true ↔
      digits ≠ [] ∧ ∀ c ∈ digits, c.isDigit = true := by simp
  rw [count?_plus, Option.ite_none_left_eq_some, Option.ite_none_right_eq_some, hdigits, and_assoc]
  refine and_congr_right fun _ => and_congr_right fun _ => ⟨?_, ?_⟩
  · rintro ⟨hn, he⟩
    obtain rfl := Option.some.inj he
    exact ⟨rfl, hn⟩
  · rintro ⟨rfl, hn⟩
    exact ⟨hn, rfl⟩

theorem count?_eq_some_iff {s : String} {n : Nat} : count? s.toList = some n ↔ IsCount s n := by
  constructor
  · intro h
    by_cases hs : s.toList.head? = some '+'
    · obtain ⟨digits, hd⟩ := List.head?_eq_some_iff.mp hs
      rw [hd] at h
      exact ⟨digits, .inr hd, count?_plus_eq_some_iff.mp h⟩
    · rw [count?_of_ne_plus hs] at h
      exact ⟨_, .inl rfl, count?_plus_eq_some_iff.mp h⟩
  · rintro ⟨digits, hs | hs, hn⟩
    · have hhead : s.toList.head? ≠ some '+' := fun hp => by
        have hplus := hn.2.1 '+' (hs ▸ List.mem_of_head? hp)
        exact absurd hplus (by decide)
      rw [count?_of_ne_plus hhead, hs]
      exact count?_plus_eq_some_iff.mpr hn
    · rw [hs]
      exact count?_plus_eq_some_iff.mpr hn

end Text

namespace Source.Cpu

/-- The beginning of a text up to two newlines, the first that stand together, or all of it if there
are none. -/
inductive IsBlock : String → String → Prop where
  | whole {text : String} (h : ¬ "\n\n".toList <:+: text.toList) : IsBlock text text
  | cut {block rest : String} (h : ¬ "\n\n".toList <:+: (block ++ "\n").toList) :
      IsBlock (block ++ "\n\n" ++ rest) block

/-- A line `key : value`. Its first colon counts, and blanks around key and value do not. -/
def States (line : List Char) (key value : String) : Prop :=
  ∃ before after, line = before ++ ':' :: after ∧ ':' ∉ before ∧
    Text.trim before = key.toList ∧ Text.trim after = value.toList

/-- The value that the last line with one of the keys gives. -/
def IsLastValue (keys : List String) (block value : String) : Prop :=
  ∃ before line after key, Text.lines block.toList = before ++ line :: after ∧ key ∈ keys ∧
    States line key value ∧ ∀ other ∈ after, ∀ k v, States other k v → k ∉ keys

/-- A flag of a block that the settings let through. -/
structure Reports (s : CpuSettings) (block flag : String) : Prop where
  stated : ∃ value, IsLastValue ["flags", "Features"] block value ∧
    ∃ word ∈ Text.words value.toList, flag = String.ofList (Text.upper word)
  allowed : if s.cpuid.attributeWhitelist = [] then flag ∉ s.cpuid.attributeBlacklist
    else flag ∈ s.cpuid.attributeWhitelist

/-- A block that counts more threads than cores. -/
def Multithreads (block : String) : Prop :=
  ∃ siblings cores n m, IsLastValue ["siblings"] block siblings ∧
    IsLastValue ["cpu cores"] block cores ∧ Text.IsCount siblings n ∧ Text.IsCount cores m ∧ m < n

/-! The first block. -/

theorem newlines_prefix_iff {c : Char} {b t : List Char} :
    ['\n', '\n'] <+: c :: (b ++ '\n' :: t) ↔ c = '\n' ∧ b.head?.getD '\n' = '\n' := by
  cases b <;> simp [eq_comm]

theorem firstBlock_cons {c : Char} {s : List Char} (h : ¬ ['\n', '\n'] <+: c :: s) :
    firstBlock (c :: s) = c :: firstBlock s := by
  rw [firstBlock]
  rintro r rfl rfl
  exact h ⟨r, rfl⟩

theorem firstBlock_of_unbroken {s : List Char} (h : ¬ ['\n', '\n'] <:+: s) :
    firstBlock s = s := by
  induction s with
  | nil => rfl
  | cons c s ih =>
    obtain ⟨hp, hs⟩ := not_or.mp (mt List.infix_cons_iff.mpr h)
    rw [firstBlock_cons hp, ih hs]

theorem firstBlock_append {b : List Char} (h : ¬ ['\n', '\n'] <:+: b ++ ['\n'])
    (rest : List Char) : firstBlock (b ++ '\n' :: '\n' :: rest) = b := by
  induction b with
  | nil => rfl
  | cons c b ih =>
    obtain ⟨hp, hs⟩ := not_or.mp (mt List.infix_cons_iff.mpr h)
    have hp' : ¬ ['\n', '\n'] <+: c :: (b ++ '\n' :: '\n' :: rest) :=
      mt newlines_prefix_iff.mp (mt newlines_prefix_iff.mpr hp)
    rw [List.cons_append, firstBlock_cons hp', ih hs]

theorem firstBlock_cases (s : List Char) :
    (¬ ['\n', '\n'] <:+: s ∧ firstBlock s = s) ∨
      ∃ rest, s = firstBlock s ++ '\n' :: '\n' :: rest ∧
        ¬ ['\n', '\n'] <:+: firstBlock s ++ ['\n'] := by
  induction s with
  | nil => exact .inl ⟨by decide, rfl⟩
  | cons c s ih =>
    by_cases hp : ['\n', '\n'] <+: c :: s
    · obtain ⟨rest, hrest⟩ := hp
      rw [← hrest]
      exact .inr ⟨rest, rfl, (by decide : ¬ ['\n', '\n'] <:+: ['\n'])⟩
    · rw [firstBlock_cons hp]
      rcases ih with ⟨hs, hb⟩ | ⟨rest, hs, hb⟩
      · rw [hb, List.infix_cons_iff]
        exact .inl ⟨not_or.mpr ⟨hp, hs⟩, rfl⟩
      · refine .inr ⟨rest, by rw [List.cons_append, ← hs], ?_⟩
        rw [hs, newlines_prefix_iff] at hp
        rw [List.cons_append, List.infix_cons_iff, newlines_prefix_iff]
        exact not_or.mpr ⟨hp, hb⟩

theorem isBlock_iff {text block : String} :
    IsBlock text block ↔ String.ofList (firstBlock text.toList) = block := by
  have hcut : ∀ b rest : String,
      (b ++ "\n\n" ++ rest).toList = b.toList ++ '\n' :: '\n' :: rest.toList := by simp
  constructor
  · intro h
    cases h with
    | whole h => rw [firstBlock_of_unbroken h, String.ofList_toList]
    | @cut block rest h =>
      rw [String.toList_append] at h
      rw [hcut, firstBlock_append h, String.ofList_toList]
  · intro h
    have hb : block.toList = firstBlock text.toList := by rw [← h, String.toList_ofList]
    rcases firstBlock_cases text.toList with ⟨hfree, hall⟩ | ⟨rest, hs, hfree⟩
    · obtain rfl : block = text := String.toList_inj.mp (hb.trans hall)
      exact .whole hfree
    · rw [← hb] at hs hfree
      obtain rfl : text = block ++ "\n\n" ++ String.ofList rest := by
        rw [← String.toList_inj, hs, hcut, String.toList_ofList]
      exact .cut (by rwa [String.toList_append])

/-! The values of a block. -/

/-- The key and the value on a line. -/
def field? (line : List Char) : Option (String × String) :=
  (Text.splitOnce ':' line).map fun e =>
    (String.ofList (Text.trim e.1), String.ofList (Text.trim e.2))

theorem states_iff {line : List Char} {key value : String} :
    States line key value ↔ field? line = some (key, value) := by
  simp only [field?, Option.map_eq_some_iff, Prod.exists, Text.splitOnce_eq_some_iff, Prod.mk.injEq,
    ← String.toList_inj, String.toList_ofList, States, and_assoc]

/-- The value on a line that has one of the keys. -/
def value? (keys : List String) (line : List Char) : Option String :=
  (field? line).bind fun e => if e.1 ∈ keys then some e.2 else none

def lastValue? (keys : List String) (lines : List (List Char)) : Option String :=
  lines.reverse.findSome? (value? keys)

section Value

variable {keys : List String} {line : List Char} {value : String}

theorem value?_eq_some_iff :
    value? keys line = some value ↔ ∃ key ∈ keys, States line key value := by
  simp only [value?, Option.bind_eq_some_iff, Option.ite_none_right_eq_some, states_iff,
    Prod.exists, Option.some.injEq]
  constructor
  · rintro ⟨key, v, hf, hk, rfl⟩
    exact ⟨key, hk, hf⟩
  · rintro ⟨key, hk, hf⟩
    exact ⟨key, value, hf, hk, rfl⟩

theorem value?_eq_none_iff : value? keys line = none ↔ ∀ k v, States line k v → k ∉ keys := by
  rw [Option.eq_none_iff_forall_ne_some]
  simp only [Ne, value?_eq_some_iff, not_exists, not_and]
  exact ⟨fun h k v hs hk => h v k hk hs, fun h v k hk hs => h k v hs hk⟩

theorem lastValue?_eq_some_iff {block : String} :
    lastValue? keys (Text.lines block.toList) = some value ↔ IsLastValue keys block value := by
  rw [lastValue?, List.findSome?_eq_some_iff]
  constructor
  · rintro ⟨after, line, before, hl, hv, ha⟩
    obtain ⟨key, hk, hs⟩ := value?_eq_some_iff.mp hv
    refine ⟨before.reverse, line, after.reverse, key, ?_, hk, hs, fun other ho => ?_⟩
    · rw [← List.reverse_reverse (Text.lines _), hl]
      simp
    · exact value?_eq_none_iff.mp (ha other (List.mem_reverse.mp ho))
  · rintro ⟨before, line, after, key, hl, hk, hs, ha⟩
    refine ⟨after.reverse, line, before.reverse, by simp [hl],
      value?_eq_some_iff.mpr ⟨key, hk, hs⟩, fun other ho => ?_⟩
    exact value?_eq_none_iff.mpr (ha other (List.mem_reverse.mp ho))

end Value

/-- A line replaces what it has a value for and nothing else. -/
theorem addLine_eq (info : Info) (line : List Char) : info.addLine line =
    { flags := (value? ["flags", "Features"] line).elim info.flags String.toList
      siblings := (value? ["siblings"] line).elim info.siblings fun v => Text.count? v.toList
      cores := (value? ["cpu cores"] line).elim info.cores fun v => Text.count? v.toList } := by
  rw [Info.addLine]
  cases hs : Text.splitOnce ':' line with
  | none => simp [value?, field?, hs]
  | some e =>
    obtain ⟨before, after⟩ := e
    simp only [value?, field?, hs, Option.map_some, Option.bind_some]
    generalize String.ofList (Text.trim before) = key
    by_cases hflags : key ∈ ["flags", "Features"]
    · rcases List.mem_pair.mp hflags with rfl | rfl <;> simp
    · obtain ⟨hold, hnew⟩ := not_or.mp (mt List.mem_pair.mpr hflags)
      by_cases hsiblings : key = "siblings"
      · simp [hsiblings]
      · by_cases hcores : key = "cpu cores" <;> simp [hold, hnew, hsiblings, hcores]

theorem foldl_addLine (lines : List (List Char)) : lines.foldl Info.addLine .unknown =
    { flags := ((lastValue? ["flags", "Features"] lines).getD "").toList
      siblings := (lastValue? ["siblings"] lines).bind fun v => Text.count? v.toList
      cores := (lastValue? ["cpu cores"] lines).bind fun v => Text.count? v.toList } := by
  induction lines using List.reverseRecOn with
  | nil => rfl
  | append_singleton lines line ih =>
    have hlast : ∀ keys, lastValue? keys (lines ++ [line]) =
        (value? keys line).or (lastValue? keys lines) := by
      intro keys
      rw [lastValue?, List.reverse_concat, List.findSome?_cons]
      cases value? keys line <;> rfl
    rw [List.foldl_append, ih, List.foldl_cons, List.foldl_nil, addLine_eq]
    simp only [hlast]
    cases value? ["flags", "Features"] line <;> cases value? ["siblings"] line <;>
      cases value? ["cpu cores"] line <;> rfl

/-! What is published of a block. -/

theorem info_eq {text block : String} (hb : IsBlock text block) : Info.ofText text.toList =
    { flags := ((lastValue? ["flags", "Features"] (Text.lines block.toList)).getD "").toList
      siblings := (lastValue? ["siblings"] (Text.lines block.toList)).bind fun v =>
        Text.count? v.toList
      cores := (lastValue? ["cpu cores"] (Text.lines block.toList)).bind fun v =>
        Text.count? v.toList } := by
  obtain rfl := isBlock_iff.mp hb
  rw [Info.ofText, foldl_addLine, String.toList_ofList]

theorem mem_flagNames_iff {text block : String} (hb : IsBlock text block) {flag : String} :
    flag ∈ (Info.ofText text.toList).flagNames ↔
      ∃ value, IsLastValue ["flags", "Features"] block value ∧
        ∃ word ∈ Text.words value.toList, flag = String.ofList (Text.upper word) := by
  simp only [info_eq hb, Info.flagNames, List.mem_map, ← lastValue?_eq_some_iff, eq_comm]
  cases lastValue? ["flags", "Features"] (Text.lines block.toList) with
  | none => simp [Text.words, Text.splitBy]
  | some v => simp

theorem multithreaded_eq_true_iff {info : Info} : info.multithreaded = true ↔
    ∃ n m, info.siblings = some n ∧ info.cores = some m ∧ m < n := by
  obtain ⟨flags, siblings, cores⟩ := info
  cases siblings <;> cases cores <;> simp [Info.multithreaded]

theorem multithreaded_iff {text block : String} (hb : IsBlock text block) :
    (Info.ofText text.toList).multithreaded = true ↔ Multithreads block := by
  simp only [multithreaded_eq_true_iff, info_eq hb, Option.bind_eq_some_iff,
    lastValue?_eq_some_iff, Text.count?_eq_some_iff]
  constructor
  · rintro ⟨n, m, ⟨siblings, hs, hn⟩, ⟨cores, hc, hm⟩, hlt⟩
    exact ⟨siblings, cores, n, m, hs, hc, hn, hm, hlt⟩
  · rintro ⟨siblings, cores, n, m, hs, hc, hn, hm, hlt⟩
    exact ⟨n, m, ⟨siblings, hs, hn⟩, ⟨cores, hc, hm⟩, hlt⟩

theorem isReported_iff {s : CpuSettings} {flag : String} : isReported s flag = true ↔
    if s.cpuid.attributeWhitelist = [] then flag ∉ s.cpuid.attributeBlacklist
    else flag ∈ s.cpuid.attributeWhitelist := by
  rw [isReported]
  by_cases hw : s.cpuid.attributeWhitelist = [] <;> simp [hw]

/-- The names of all that is published. -/
def names (s : CpuSettings) (info : Info) : List String :=
  (info.flagNames.filter (isReported s)).map ("cpuid." ++ ·) ++
    if info.multithreaded then ["hardware_multithreading"] else []

theorem get?_features {s : CpuSettings} {info : Info} {name : String} {value : FeatureValue} :
    (features s info).get? name = some value ↔ value = .bool true ∧ name ∈ names s info := by
  have hnames : features s info = Dict.ofList ((names s info).map fun n => (n, .bool true)) := by
    rw [features, names, List.map_append, List.map_map]
    cases info.multithreaded <;> rfl
  rw [hnames, Dict.get?_ofList_const]

theorem mem_names_iff {s : CpuSettings} {info : Info} {name : String} : name ∈ names s info ↔
    (∃ flag, name = "cpuid." ++ flag ∧ flag ∈ info.flagNames ∧ isReported s flag = true) ∨
      name = "hardware_multithreading" ∧ info.multithreaded = true := by
  rw [names, List.mem_append, List.mem_map]
  refine or_congr ?_ ?_
  · simp only [List.mem_filter]
    exact exists_congr fun flag => by rw [and_comm, eq_comm]
  · cases info.multithreaded <;> simp

theorem flag_ne_multithreading (flag : String) : "cpuid." ++ flag ≠ "hardware_multithreading" := by
  intro h
  have hhead := congrArg (fun s => s.toList.head?) h
  simp at hhead

theorem get?_features_flag {s : CpuSettings} {text block : String} (hb : IsBlock text block)
    {flag : String} {value : FeatureValue} :
    (features s (Info.ofText text.toList)).get? ("cpuid." ++ flag) = some value ↔
      value = .bool true ∧ Reports s block flag := by
  rw [get?_features, mem_names_iff]
  refine and_congr_right fun _ => ?_
  constructor
  · rintro (⟨flag', he, hm, hr⟩ | ⟨he, -⟩)
    · obtain rfl : flag = flag' := by
        simpa [← String.toList_inj] using congrArg String.toList he
      exact ⟨(mem_flagNames_iff hb).mp hm, isReported_iff.mp hr⟩
    · exact absurd he (flag_ne_multithreading flag)
  · rintro ⟨hs, ha⟩
    exact .inl ⟨flag, rfl, (mem_flagNames_iff hb).mpr hs, isReported_iff.mpr ha⟩

theorem get?_features_multithreading {s : CpuSettings} {text block : String}
    (hb : IsBlock text block) {value : FeatureValue} :
    (features s (Info.ofText text.toList)).get? "hardware_multithreading" = some value ↔
      value = .bool true ∧ Multithreads block := by
  rw [get?_features, mem_names_iff, ← multithreaded_iff hb]
  refine and_congr_right fun _ => ?_
  constructor
  · rintro (⟨flag, he, -⟩ | ⟨-, hm⟩)
    · exact absurd he.symm (flag_ne_multithreading flag)
    · exact hm
  · exact fun hm => .inr ⟨rfl, hm⟩

theorem value_discover (s : CpuSettings) {h : Host} {text : String}
    (hr : h.readText "proc/cpuinfo" = .ok text) :
    (cpu.discover (.cpu s) h).run.value =
      .ok (features s (Info.ofText (Text.trimString text).toList)) := by
  have hread : h.readTrimmed "proc/cpuinfo" = .ok (Text.trimString text) := by
    rw [Host.readTrimmed, hr]
    rfl
  have hcpu : cpu.discover (.cpu s) h = discover s h := rfl
  rw [hcpu, discover, hread]
  rfl

/-- What is published of processors is what the first block of their description gives: the flags
of its last line of flags that the settings let through, that there are more threads than cores if
its last numbers of both say so, and nothing else. What stands behind the block does not count. -/
theorem discover_processor (s : CpuSettings) (h : Host) (text : String)
    (hr : h.readText "proc/cpuinfo" = .ok text) :
    ∃ block found, (∀ b, IsBlock (Text.trimString text) b ↔ b = block) ∧
      (cpu.discover (.cpu s) h).run.value = .ok found ∧
      (∀ flag value, found.get? ("cpuid." ++ flag) = some value ↔
        value = .bool true ∧ Reports s block flag) ∧
      (∀ value, found.get? "hardware_multithreading" = some value ↔
        value = .bool true ∧ Multithreads block) ∧
      (∀ name value, found.get? name = some value →
        name = "hardware_multithreading" ∨ ∃ flag, name = "cpuid." ++ flag) ∧
      ∀ h' text', h'.readText "proc/cpuinfo" = .ok text' → IsBlock (Text.trimString text') block →
        (cpu.discover (.cpu s) h').run.value = .ok found := by
  obtain ⟨block, hb⟩ : ∃ block, IsBlock (Text.trimString text) block := ⟨_, isBlock_iff.mpr rfl⟩
  refine ⟨block, _, fun b => ?_, value_discover s hr, fun _ _ => get?_features_flag hb,
    fun _ => get?_features_multithreading hb, fun name value hn => ?_, fun h' text' hr' hb' => ?_⟩
  · rw [isBlock_iff, isBlock_iff.mp hb, eq_comm]
  · rcases mem_names_iff.mp (get?_features.mp hn).2 with ⟨flag, he, -⟩ | ⟨he, -⟩
    · exact .inr ⟨flag, he⟩
    · exact .inl he
  · rw [value_discover s hr', info_eq hb', info_eq hb]

/-- A host with nothing but a description of its processors. -/
def withProcessors (text : String) : Host :=
  ⟨"/", [(["proc"], .directory), (["proc", "cpuinfo"], .file (.text text) false)]⟩

/-- A flag goes by its last line and in capitals, a number may have a sign, and a second block is
not looked at. -/
theorem discover_processor_twoBlocks :
    let block := "siblings : +8\r\ncpu cores: 04\nflags: fpu\nFeatures: avx sse2"
    let h := withProcessors ("\n" ++ block ++ "\n\nflags: fpu\n")
    h.readText "proc/cpuinfo" = .ok ("\n" ++ block ++ "\n\nflags: fpu\n") ∧
      ∃ found, (cpu.discover (.cpu .defaults) h).run.value = .ok found ∧
        found.get? "cpuid.AVX" = some (.bool true) ∧ found.get? "cpuid.SSE2" = none ∧
        found.get? "hardware_multithreading" = some (.bool true) ∧
        (cpu.discover (.cpu .defaults) (withProcessors block)).run.value = .ok found := by
  intro block h
  have hr : h.readText "proc/cpuinfo" = .ok ("\n" ++ block ++ "\n\nflags: fpu\n") :=
    Host.readText_of_plainText? (by decide +kernel)
  have hr' : (withProcessors block).readText "proc/cpuinfo" = .ok block :=
    Host.readText_of_plainText? (by decide +kernel)
  obtain ⟨b, found, hb, hd, hflag, hthreads, -, htwo⟩ := discover_processor .defaults h _ hr
  obtain rfl : block = b := (hb block).mp (isBlock_iff.mpr (by decide +kernel))
  have hflags : IsLastValue ["flags", "Features"] block "avx sse2" :=
    lastValue?_eq_some_iff.mp (by decide +kernel)
  have hsiblings : IsLastValue ["siblings"] block "+8" :=
    lastValue?_eq_some_iff.mp (by decide +kernel)
  have hcores : IsLastValue ["cpu cores"] block "04" :=
    lastValue?_eq_some_iff.mp (by decide +kernel)
  have hreports : Reports .defaults block "AVX" :=
    ⟨⟨_, hflags, "avx".toList, by decide +kernel, by decide +kernel⟩, by decide +kernel⟩
  have hsilent : ¬ Reports .defaults block "SSE2" := fun hs => absurd hs.allowed (by decide +kernel)
  have hmore : Multithreads block :=
    ⟨_, _, 8, 4, hsiblings, hcores, Text.count?_eq_some_iff.mp (by decide +kernel),
      Text.count?_eq_some_iff.mp (by decide +kernel), by decide⟩
  refine ⟨hr, found, hd, (hflag "AVX" _).mpr ⟨rfl, hreports⟩, ?_, (hthreads _).mpr ⟨rfl, hmore⟩,
    htwo _ _ hr' (isBlock_iff.mpr (by decide +kernel))⟩
  exact Option.eq_none_iff_forall_ne_some.mpr fun v hv => hsilent ((hflag "SSE2" v).mp hv).2

end Source.Cpu

end NodeSurvey
