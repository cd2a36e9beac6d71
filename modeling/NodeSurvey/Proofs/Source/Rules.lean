import Mathlib.Data.List.Forall2
import NodeSurvey.Proofs.Source.Devices
import NodeSurvey.Source.Custom

/-! What the rules of the operator mean. What an entry comes to is fixed by the host: it does not
matter which entries were looked at before it, nor what was gathered for them. So a rule gives its
feature if one of its entries applies, in whatever order entries and rules stand. -/

namespace NodeSurvey.Source.Custom

/-- All that is gathered is what the host says. -/
structure Gathered.Sound (g : Gathered) (h : Host) : Prop where
  devices : ∀ devices, g.devices = some devices → Pci.scan h = .ok devices
  modules : ∀ modules, g.modules = some modules → loadedModules h = .ok modules

/-- The question has this answer whatever is gathered, and leaves what is gathered sound. -/
def Answers (h : Host) {α : Type} (m : Gathering α) (x : Except Trouble α) : Prop :=
  ∀ g : Gathered, g.Sound h → (m.run.run g).1 = x ∧ (m.run.run g).2.Sound h

variable {h : Host} {g : Gathered}

theorem Gathered.sound_empty (h : Host) : Gathered.empty.Sound h := ⟨nofun, nofun⟩

section Answers

variable {α β : Type} {m : Gathering α} {x : Except Trouble α}

theorem Answers.pure (a : α) : Answers h (pure a) (.ok a) := fun _ hg => ⟨rfl, hg⟩

theorem Answers.bind {f : α → Gathering β} {y : α → Except Trouble β} (hm : Answers h m x)
    (hf : ∀ a, Answers h (f a) (y a)) : Answers h (m >>= f) (x >>= y) := by
  intro g hg
  obtain ⟨hx, hs⟩ := hm g hg
  rw [ExceptT.run_bind, StateT.run_bind]
  rcases hr : m.run.run g with ⟨t | a, g'⟩
  · rw [hr] at hx hs
    obtain rfl := hx
    exact ⟨rfl, hs⟩
  · rw [hr] at hx hs
    obtain rfl := hx
    exact hf a g' hs

/-- What is kept is the answer that would be found, and what is found may be kept. -/
theorem Answers.lookOnce {kept : Gathered → Option α} {keep : Gathered → α → Gathered}
    (hkept : ∀ g : Gathered, g.Sound h → ∀ a, kept g = some a → x = .ok a)
    (hkeep : ∀ g : Gathered, g.Sound h → ∀ a, x = .ok a → (keep g a).Sound h) :
    Answers h (lookOnce kept keep x) x := by
  intro g hg
  have hget : (ExceptT.run (get : Gathering Gathered)).run g = Pure.pure (.ok g, g) := rfl
  rw [Custom.lookOnce, ExceptT.run_bind, StateT.run_bind, hget, pure_bind]
  dsimp only
  cases hk : kept g with
  | some a => exact ⟨(hkept g hg a hk).symm, hg⟩
  | none =>
    cases hx : x with
    | error t => exact ⟨rfl, hg⟩
    | ok a => exact ⟨rfl, hkeep g hg a hx⟩

end Answers

def pciVerdict (h : Host) : Option PciIdRule → Except Trouble Bool
  | none => .ok true
  | some r => (Pci.scan h).map fun devices => devices.any (matchesDevice r)

def modulesVerdict (h : Host) : Option (List String) → Except Trouble Bool
  | none => .ok true
  | some names => (loadedModules h).map fun loaded => names.all loaded.contains

/-- What an entry comes to on a host, by itself. -/
def verdict (h : Host) (e : MatchRule) : Except Trouble Bool := do
  if !(← pciVerdict h e.pciId) then return false
  if !(← modulesVerdict h e.loadedKMod) then return false
  return e.pciId.isSome || e.loadedKMod.isSome

theorem answers_devices (h : Host) : Answers h (devices h) (Pci.scan h) :=
  .lookOnce (fun _ hg => hg.devices) fun _ hg _ hx =>
    ⟨fun _ hd => Option.some.inj hd ▸ hx, hg.modules⟩

theorem answers_modules (h : Host) : Answers h (modules h) (loadedModules h) :=
  .lookOnce (fun _ hg => hg.modules) fun _ hg _ hx =>
    ⟨hg.devices, fun _ hd => Option.some.inj hd ▸ hx⟩

theorem answers_matchesPci (r : Option PciIdRule) :
    Answers h (matchesPci h r) (pciVerdict h r) := by
  cases r with
  | none => exact .pure true
  | some r => exact (answers_devices h).bind fun devices => .pure (devices.any (matchesDevice r))

theorem answers_matchesModules (names : Option (List String)) :
    Answers h (matchesModules h names) (modulesVerdict h names) := by
  cases names with
  | none => exact .pure true
  | some names => exact (answers_modules h).bind fun loaded => .pure (names.all loaded.contains)

theorem answers_matchesEntry (e : MatchRule) : Answers h (matchesEntry h e) (verdict h e) := by
  refine (answers_matchesPci e.pciId).bind fun asked => ?_
  cases asked with
  | false => exact .pure false
  | true =>
    refine (answers_matchesModules e.loadedKMod).bind fun loaded => ?_
    cases loaded with
    | false => exact .pure false
    | true => exact .pure _

theorem verdict_eq_true_iff {e : MatchRule} :
    verdict h e = .ok true ↔ (e.pciId.isSome ∨ e.loadedKMod.isSome) ∧
      pciVerdict h e.pciId = .ok true ∧ modulesVerdict h e.loadedKMod = .ok true := by
  rw [verdict]
  cases pciVerdict h e.pciId with
  | error t => simp [bind, Except.bind]
  | ok asked =>
    cases asked with
    | false => simp [bind, Except.bind, pure, Except.pure]
    | true =>
      cases modulesVerdict h e.loadedKMod with
      | error t => simp [bind, Except.bind]
      | ok loaded => cases loaded <;> simp [bind, Except.bind, pure, Except.pure]

theorem modulesVerdict_ne_panicked {names : Option (List String)} {message : Option String} :
    modulesVerdict h names ≠ .error (.panicked message) := by
  cases names with
  | none => nofun
  | some names =>
    rw [modulesVerdict, loadedModules]
    cases h.readTrimmed "proc/modules" <;> simp [Except.map]

theorem pciVerdict_eq_error_iff {r : Option PciIdRule} {t : Trouble} :
    pciVerdict h r = .error t ↔ r.isSome ∧ Pci.scan h = .error t := by
  cases r with
  | none => simp [pciVerdict]
  | some r =>
    rw [pciVerdict]
    cases Pci.scan h <;> simp [Except.map]

theorem verdict_panicked_iff {e : MatchRule} {message : Option String} :
    verdict h e = .error (.panicked message) ↔
      e.pciId.isSome ∧ Pci.scan h = .error (.panicked message) := by
  rw [← pciVerdict_eq_error_iff, verdict]
  cases pciVerdict h e.pciId with
  | error t => simp [bind, Except.bind]
  | ok asked =>
    cases asked with
    | false => simp [bind, Except.bind, pure, Except.pure]
    | true =>
      cases hm : modulesVerdict h e.loadedKMod with
      | error t =>
        have hne : t ≠ .panicked message := fun ht => modulesVerdict_ne_panicked (ht ▸ hm)
        simp [bind, Except.bind, hne]
      | ok loaded => cases loaded <;> simp [bind, Except.bind, pure, Except.pure]

/-- What the entries of a rule come to. The first that matches decides, if none before it breaks
down. -/
def settled (h : Host) : List MatchRule → Except Trouble Bool
  | [] => .ok false
  | e :: r =>
    match verdict h e with
    | .ok true => .ok true
    | .error (.panicked message) => .error (.panicked message)
    | _ => settled h r

theorem value_matchesAny (hg : g.Sound h) (rule : String) (entries : List MatchRule) :
    ∃ g' : Gathered, g'.Sound h ∧
      (matchesAny h rule g entries).run.value = (settled h entries).map (·, g') := by
  -- Every entry is looked at with what was gathered for those before it.
  induction entries generalizing g with
  | nil => exact ⟨g, hg, rfl⟩
  | cons e entries ih =>
    obtain ⟨hv, hs⟩ := answers_matchesEntry e g hg
    rw [matchesAny, settled]
    rcases hr : (matchesEntry h e).run.run g with ⟨v, g'⟩
    rw [hr] at hv hs
    rw [← hv]
    obtain ⟨g'', hs'', hrest⟩ := ih hs
    rcases v with (f | message) | _ | _
    · exact ⟨g'', hs'', hrest⟩
    · exact ⟨g', hs, rfl⟩
    · exact ⟨g'', hs'', hrest⟩
    · exact ⟨g', hs, rfl⟩

theorem exists_value_discoverRules (hg : g.Sound h) {rules : List CustomRule}
    (hs : ∀ rule ∈ rules, (settled h rule.matchOn).isOk = true) :
    ∃ names : List String,
      (discoverRules h g rules).run.value = .ok (names.map fun name => (name, .present)) ∧
      ∀ name, name ∈ names ↔
        ∃ rule ∈ rules, rule.name = name ∧ settled h rule.matchOn = .ok true := by
  induction rules generalizing g with
  | nil => exact ⟨[], rfl, by simp⟩
  | cons rule rules ih =>
    obtain ⟨hrule, hrules⟩ := List.forall_mem_cons.mp hs
    obtain ⟨g', hg', hv⟩ := value_matchesAny hg rule.name rule.matchOn
    obtain ⟨names, hn, hmem⟩ := ih hg' hrules
    cases hb : settled h rule.matchOn with
    | error t => rw [hb] at hrule; cases hrule
    | ok matched =>
      have hstep : (discoverRules h g (rule :: rules)).run.value =
          .ok (if matched then (rule.name, .present) :: names.map fun name => (name, .present)
            else names.map fun name => (name, .present)) := by
        rw [discoverRules, Discovery.value_bind, hv, hb]
        change (discoverRules h g' rules >>= _).run.value = _
        rw [Discovery.value_bind, hn]
        rfl
      cases matched with
      | false => exact ⟨names, hstep, fun name => by simp [hmem, hb]⟩
      | true => exact ⟨rule.name :: names, hstep, fun name => by simp [hmem, hb, eq_comm]⟩

theorem value_discover (s : CustomSettings) :
    (discover s h).run.value = (discoverRules h .empty s.rules).run.value.map Dict.ofList := by
  rw [discover, Discovery.value_bind]
  cases (discoverRules h .empty s.rules).run.value <;> rfl

theorem exists_settled (hq : ∀ message, Pci.scan h ≠ .error (.panicked message))
    (entries : List MatchRule) :
    ∃ matched, settled h entries = .ok matched ∧
      (matched = true ↔ ∃ e ∈ entries, verdict h e = .ok true) := by
  induction entries with
  | nil => exact ⟨false, rfl, by simp⟩
  | cons e entries ih =>
    obtain ⟨matched, hs, hm⟩ := ih
    rw [settled]
    cases hv : verdict h e with
    | error t =>
      cases t with
      | failed f => exact ⟨matched, hs, by simp [hv, hm]⟩
      | panicked message => exact absurd (verdict_panicked_iff.mp hv).2 (hq message)
    | ok own =>
      cases own with
      | false => exact ⟨matched, hs, by simp [hv, hm]⟩
      | true => exact ⟨true, rfl, by simp [hv]⟩

/-! What the operator writes down: an entry applies if all that it asks for is on the host. -/

/-- The value is among the allowed ones, if there are any. -/
def Permits (allowed : List String) (value : Option (List Char)) : Prop :=
  allowed ≠ [] → ∃ v ∈ allowed, value = some v.toList

structure Satisfies (h : Host) (r : PciIdRule) (device : String) : Prop where
  classes : Permits r.classes (DeviceBus.pci.value? h device "class")
  vendors : Permits r.vendors (DeviceBus.pci.value? h device "vendor")
  devices : Permits r.devices (DeviceBus.pci.value? h device "device")

structure Applies (h : Host) (e : MatchRule) : Prop where
  asks : e.pciId ≠ none ∨ e.loadedKMod ≠ none
  device : ∀ r, e.pciId = some r → ∃ names, h.list DeviceBus.pci.directory = .ok names ∧
    ∃ device ∈ names, DeviceBus.pci.value? h device "class" ≠ none ∧ Satisfies h r device
  modules : ∀ names, e.loadedKMod = some names → ∃ text, h.readText "proc/modules" = .ok text ∧
    ∀ name ∈ names, ∃ line ∈ Text.lines text.toList, (Text.words line).head? = some name.toList

/-- What an entry asks for cannot be looked at. -/
def Unreadable (h : Host) (e : MatchRule) : Prop :=
  e.pciId ≠ none ∧ (h.list DeviceBus.pci.directory).isOk = false ∨
    e.loadedKMod ≠ none ∧ (h.readText "proc/modules").isOk = false

theorem Unreadable.not_applies {e : MatchRule} (hu : Unreadable h e) : ¬ Applies h e := by
  intro ha
  rcases hu with ⟨hne, hl⟩ | ⟨hne, ht⟩
  · obtain ⟨r, hr⟩ := Option.ne_none_iff_exists'.mp hne
    obtain ⟨names, hn, -⟩ := ha.device r hr
    rw [hn] at hl
    cases hl
  · obtain ⟨names, hn⟩ := Option.ne_none_iff_exists'.mp hne
    obtain ⟨text, htext, -⟩ := ha.modules names hn
    rw [htext] at ht
    cases ht

/-- What is gathered once some entries were looked at, one after the other. -/
def gatheredBy (h : Host) (earlier : List MatchRule) : Gathered :=
  earlier.foldl (fun g e => ((matchesEntry h e).run.run g).2) .empty

theorem sound_gatheredBy (h : Host) (earlier : List MatchRule) :
    (gatheredBy h earlier).Sound h := by
  have hrun : ∀ g : Gathered, g.Sound h →
      (earlier.foldl (fun g e => ((matchesEntry h e).run.run g).2) g).Sound h := by
    induction earlier with
    | nil => exact fun _ hg => hg
    | cons e earlier ih => exact fun g hg => ih _ (answers_matchesEntry e g hg).2
  exact hrun .empty (Gathered.sound_empty h)

def Fires (h : Host) (rules : List CustomRule) (name : String) : Prop :=
  ∃ rule ∈ rules, rule.name = name ∧ ∃ e ∈ rule.matchOn, Applies h e

def Publishes (h : Host) (rules : List CustomRule) (features : Features) : Prop :=
  ∀ name v, features.get? name = some v ↔ v = .bool true ∧ Fires h rules name

/-- The same rules in another order, each with its entries in another order. -/
def Reordered (rules rules' : List CustomRule) : Prop :=
  ∃ inner, List.Forall₂ (fun a b => a.name = b.name ∧ a.matchOn.Perm b.matchOn) rules inner ∧
    inner.Perm rules'

theorem fires_iff_of_forall₂ {rules inner : List CustomRule} {name : String}
    (hi : List.Forall₂ (fun a b => a.name = b.name ∧ a.matchOn.Perm b.matchOn) rules inner) :
    Fires h rules name ↔ Fires h inner name := by
  induction hi with
  | nil => exact Iff.rfl
  | @cons a b rules inner hab hi ih =>
    have hentries : (∃ e ∈ a.matchOn, Applies h e) ↔ ∃ e ∈ b.matchOn, Applies h e :=
      exists_congr fun e => and_congr_left fun _ => hab.2.mem_iff
    simp only [Fires, List.mem_cons, or_and_right, exists_or, exists_eq_left] at ih ⊢
    rw [ih, hab.1, hentries]

theorem Reordered.fires_iff {rules rules' : List CustomRule} {name : String}
    (hr : Reordered rules rules') : Fires h rules name ↔ Fires h rules' name := by
  obtain ⟨inner, hi, hp⟩ := hr
  exact (fires_iff_of_forall₂ hi).trans
    (exists_congr fun rule => and_congr_left fun _ => hp.mem_iff)

theorem admits_iff {allowed : List String} {value : Option (List Char)} :
    admits allowed value = true ↔ Permits allowed value := by
  cases value with
  | none => simp [admits, Permits]
  | some text =>
    have htext : ∀ v : String, v = String.ofList text ↔ text = v.toList := by
      intro v
      constructor
      · rintro rfl
        exact String.toList_ofList.symm
      · rintro rfl
        exact String.ofList_toList.symm
    simp only [admits, Permits, Option.any_some, Bool.or_eq_true, List.isEmpty_iff,
      List.contains_iff_mem, Option.some.injEq, or_iff_not_imp_left]
    exact imp_congr_right fun _ =>
      ⟨fun hv => ⟨_, hv, (htext _).mp rfl⟩, fun ⟨v, hv, ht⟩ => (htext v).mpr ht ▸ hv⟩

def firstWord? (line : List Char) : Option String := ((Text.words line).head?).map String.ofList

theorem firstWord?_trim (line : List Char) : firstWord? (Text.trim line) = firstWord? line := by
  rw [firstWord?, Text.words_trim, firstWord?]

theorem firstWord?_nil : firstWord? [] = none := rfl

theorem firstWord?_eq_some_iff {line : List Char} {name : String} :
    firstWord? line = some name ↔ (Text.words line).head? = some name.toList := by
  rw [firstWord?, Option.map_eq_some_iff]
  constructor
  · rintro ⟨word, hw, rfl⟩
    rw [hw, String.toList_ofList]
  · exact fun hw => ⟨name.toList, hw, String.ofList_toList⟩

theorem mem_loadedModules_iff {loaded : List String} {text : String}
    (ht : h.readText "proc/modules" = .ok text) (hl : loadedModules h = .ok loaded)
    (name : String) : name ∈ loaded ↔
      ∃ line ∈ Text.lines text.toList, (Text.words line).head? = some name.toList := by
  have hloaded : loaded = (Text.lines text.toList).filterMap firstWord? := by
    rw [loadedModules, Host.readTrimmed, ht] at hl
    obtain rfl := Except.ok.inj hl
    rw [Text.trimString, String.toList_ofList, Text.filterMap_lines firstWord?_trim firstWord?_nil,
      ← Text.filterMap_split_trim firstWord?_trim firstWord?_nil]
    exact Text.filterMap_lines firstWord?_trim firstWord?_nil _
  simp only [hloaded, List.mem_filterMap, firstWord?_eq_some_iff]

theorem modulesVerdict_eq_true_iff {names : Option (List String)} :
    modulesVerdict h names = .ok true ↔
      ∀ names', names = some names' → ∃ text, h.readText "proc/modules" = .ok text ∧
        ∀ name ∈ names', ∃ line ∈ Text.lines text.toList,
          (Text.words line).head? = some name.toList := by
  cases names with
  | none => exact ⟨fun _ => nofun, fun _ => rfl⟩
  | some names =>
    cases ht : h.readText "proc/modules" with
    | error e =>
      have hl : loadedModules h = .error (.failed (.within .loadedModules (.io e))) := by
        rw [loadedModules, Host.readTrimmed, ht]
        rfl
      simp [modulesVerdict, hl, Except.map]
    | ok text =>
      obtain ⟨loaded, hl⟩ : ∃ loaded, loadedModules h = .ok loaded := by
        rw [loadedModules, Host.readTrimmed, ht]
        exact ⟨_, rfl⟩
      simp [modulesVerdict, hl, Except.map, mem_loadedModules_iff ht hl]

section Ascii

variable (ha : h.HasAsciiClasses)
include ha

theorem scan_ne_panicked (message : Option String) : Pci.scan h ≠ .error (.panicked message) := by
  cases hl : h.list Pci.directory with
  | error e => simp [Pci.scan_of_list_error hl]
  | ok names =>
    have hb : ∀ device ∈ names, ¬ Pci.Breaks h device := fun device hd =>
      Pci.not_breaks_of_ascii (ha names hl device hd)
    simp [Pci.scan_of_not_breaks hl hb]

theorem matchesDevice_iff {r : PciIdRule} {names : List String} {device : String}
    (hl : h.list DeviceBus.pci.directory = .ok names) (hd : device ∈ names) :
    matchesDevice r ⟨Pci.attribute? h device⟩ = true ↔ Satisfies h r device := by
  have hv := Pci.value?_eq (ha names hl device hd)
  simp only [matchesDevice, Bool.and_eq_true, admits_iff, ← hv]
  exact ⟨fun ⟨⟨hc, hvendor⟩, hd⟩ => ⟨hc, hvendor, hd⟩,
    fun hs => ⟨⟨hs.classes, hs.vendors⟩, hs.devices⟩⟩

theorem pciVerdict_eq_true_iff {rule : Option PciIdRule} :
    pciVerdict h rule = .ok true ↔
      ∀ r, rule = some r → ∃ names, h.list DeviceBus.pci.directory = .ok names ∧
        ∃ device ∈ names, DeviceBus.pci.value? h device "class" ≠ none ∧ Satisfies h r device := by
  cases rule with
  | none => exact ⟨fun _ => nofun, fun _ => rfl⟩
  | some r =>
    cases hl : h.list DeviceBus.pci.directory with
    | error e => simp [pciVerdict, Pci.scan_of_list_error hl, Except.map]
    | ok names =>
      have hb : ∀ device ∈ names, ¬ Pci.Breaks h device := fun device hd =>
        Pci.not_breaks_of_ascii (ha names hl device hd)
      have hscan : pciVerdict h (some r) = .ok (names.any fun device =>
          (Pci.attribute? h device .class').isSome &&
            matchesDevice r ⟨Pci.attribute? h device⟩) := by
        rw [pciVerdict, Pci.scan_of_not_breaks hl hb]
        simp [Except.map, List.any_filter, List.any_map, Function.comp_def]
      have hdevice : ∀ device ∈ names, ((Pci.attribute? h device .class').isSome = true ∧
          matchesDevice r ⟨Pci.attribute? h device⟩ = true ↔
            DeviceBus.pci.value? h device "class" ≠ none ∧ Satisfies h r device) := by
        intro device hd
        rw [matchesDevice_iff ha hl hd, ← Pci.value?_eq (ha names hl device hd),
          Option.isSome_iff_ne_none]
        rfl
      rw [hscan, Except.ok.injEq, List.any_eq_true]
      simp only [Bool.and_eq_true, Option.some.injEq, forall_eq', Except.ok.injEq, exists_eq_left']
      exact exists_congr fun device => and_congr_right fun hd => hdevice device hd

theorem verdict_eq_true_iff_applies {e : MatchRule} : verdict h e = .ok true ↔ Applies h e := by
  rw [verdict_eq_true_iff, pciVerdict_eq_true_iff ha, modulesVerdict_eq_true_iff,
    Option.isSome_iff_ne_none, Option.isSome_iff_ne_none]
  exact ⟨fun ⟨hasks, hd, hm⟩ => ⟨hasks, hd, hm⟩, fun hp => ⟨hp.asks, hp.device, hp.modules⟩⟩

theorem settled_eq_ok (entries : List MatchRule) :
    ∃ matched, settled h entries = .ok matched ∧
      (matched = true ↔ ∃ e ∈ entries, Applies h e) := by
  obtain ⟨matched, hs, hm⟩ := exists_settled (scan_ne_panicked ha) entries
  refine ⟨matched, hs, hm.trans ?_⟩
  exact exists_congr fun e => and_congr_right fun _ => verdict_eq_true_iff_applies ha

theorem exists_publishes (rules : List CustomRule) :
    ∃ features, (discover ⟨rules⟩ h).run.value = .ok features ∧ Publishes h rules features := by
  have hok : ∀ rule ∈ rules, (settled h rule.matchOn).isOk = true := by
    intro rule _
    obtain ⟨matched, hs, -⟩ := settled_eq_ok ha rule.matchOn
    rw [hs]
    rfl
  obtain ⟨names, hn, hmem⟩ := exists_value_discoverRules (Gathered.sound_empty h) hok
  refine ⟨.ofList (names.map fun name => (name, .present)), ?_, fun name v => ?_⟩
  · rw [value_discover, hn]
    rfl
  · rw [Dict.get?_ofList_const, hmem]
    refine and_congr_right fun _ => exists_congr fun rule => and_congr_right fun _ =>
      and_congr_right fun _ => ?_
    obtain ⟨matched, hs, hm⟩ := settled_eq_ok ha rule.matchOn
    rw [hs, Except.ok.injEq, hm]

theorem discover_congr {rules rules' : List CustomRule}
    (hf : ∀ name, Fires h rules name ↔ Fires h rules' name) :
    (discover ⟨rules⟩ h).run.value = (discover ⟨rules'⟩ h).run.value := by
  obtain ⟨features, ho, hp⟩ := exists_publishes ha rules
  obtain ⟨features', ho', hp'⟩ := exists_publishes ha rules'
  rw [ho, ho']
  refine congrArg Except.ok (Dict.ext fun name => Option.ext fun v => ?_)
  rw [hp, hp', hf]

end Ascii

/-- The features are those of the rules with an entry that applies, whatever stands before an entry,
in whatever order, and whatever of the host cannot be read. -/
theorem discover_rules (h : Host) (ha : h.HasAsciiClasses) :
    (∀ s : CustomSettings, ∃ features,
      (custom.discover (.custom s) h).run.value = .ok features ∧ Publishes h s.rules features) ∧
    (∀ (earlier : List MatchRule) (e : MatchRule),
      ((matchesEntry h e).run.run (gatheredBy h earlier)).1 =
        ((matchesEntry h e).run.run .empty).1 ∧
      (((matchesEntry h e).run.run (gatheredBy h earlier)).1 = .ok true ↔ Applies h e)) ∧
    (∀ rules rules' : List CustomRule, Reordered rules rules' →
      (custom.discover (.custom ⟨rules⟩) h).run.value =
        (custom.discover (.custom ⟨rules'⟩) h).run.value) ∧
    (∀ (before after : List CustomRule) (rule : CustomRule) (earlier later : List MatchRule)
      (e : MatchRule), rule.matchOn = earlier ++ e :: later → Unreadable h e →
        (custom.discover (.custom ⟨before ++ rule :: after⟩) h).run.value =
          (custom.discover
            (.custom ⟨before ++ ⟨rule.name, earlier ++ later⟩ :: after⟩) h).run.value) := by
  refine ⟨fun s => exists_publishes ha s.rules, fun earlier e => ?_, fun rules rules' hr => ?_, ?_⟩
  · have hgathered := (answers_matchesEntry e _ (sound_gatheredBy h earlier)).1
    have hempty := (answers_matchesEntry e _ (Gathered.sound_empty h)).1
    rw [hgathered, hempty]
    exact ⟨rfl, verdict_eq_true_iff_applies ha⟩
  · exact discover_congr ha fun name => hr.fires_iff
  · intro before after rule earlier later e he hu
    refine discover_congr ha fun name => ?_
    have hentries : (∃ e' ∈ rule.matchOn, Applies h e') ↔
        ∃ e' ∈ earlier ++ later, Applies h e' := by
      simp [he, or_and_right, exists_or, hu.not_applies]
    simp only [Fires, List.mem_append, List.mem_cons, or_and_right, exists_or, exists_eq_left,
      hentries]

/-- The modules cannot be read, and the display is there. -/
theorem discover_rules_slots :
    let modules : MatchRule := ⟨none, some ["nvidia"]⟩
    let display : MatchRule := ⟨some ⟨["0300"], ["1002", "10de"], []⟩, none⟩
    let rules : List CustomRule := [⟨"gpu", [modules, display]⟩, ⟨"driver", [modules]⟩]
    let outcome (rules : List CustomRule) :=
      (custom.discover (.custom ⟨rules⟩) .withSlots).run.value
    Host.withSlots.HasAsciiClasses ∧ Unreadable .withSlots modules ∧ Applies .withSlots display ∧
      (∃ features, outcome rules = .ok features ∧ features.get? "gpu" = some (.bool true) ∧
        features.get? "driver" = none) ∧
      ((matchesEntry .withSlots display).run.run (gatheredBy .withSlots [modules, display])).1 =
        .ok true ∧
      outcome rules = outcome [⟨"driver", [modules]⟩, ⟨"gpu", [display, modules]⟩] ∧
      outcome rules = outcome [⟨"gpu", [display]⟩, ⟨"driver", [modules]⟩] := by
  intro modules display rules outcome
  have ha : Host.withSlots.HasAsciiClasses := Host.hasAsciiClasses_of_entries (by decide +kernel)
  obtain ⟨hfeatures, hcache, horder, hskip⟩ := discover_rules .withSlots ha
  obtain ⟨hl, -, hclass, hvendor, -⟩ := pci_slots
  have hu : Unreadable .withSlots modules := by
    refine .inr ⟨nofun, ?_⟩
    rw [Host.readText_of_missing [] ["modules"] "proc" (by decide +kernel) (by decide +kernel)
      (by decide +kernel) (by decide +kernel) (by decide +kernel) (by decide +kernel)]
    rfl
  have happlies : Applies .withSlots display := by
    refine ⟨.inl nofun, fun r hr => ?_, nofun⟩
    obtain rfl := Option.some.inj hr
    refine ⟨_, hl, "0000:00:02.0", List.mem_cons_self, by simp [hclass], ?_⟩
    exact ⟨fun _ => ⟨_, List.mem_cons_self, hclass⟩, fun _ => ⟨"10de", by simp, hvendor⟩,
      fun hne => absurd rfl hne⟩
  obtain ⟨features, ho, hp⟩ := hfeatures ⟨rules⟩
  have hgpu : features.get? "gpu" = some (.bool true) :=
    (hp _ _).mpr ⟨rfl, _, List.mem_cons_self, rfl, display, by simp, happlies⟩
  have hdriver : features.get? "driver" = none := by
    refine Option.eq_none_iff_forall_ne_some.mpr fun v hv => ?_
    obtain ⟨-, rule, hr, hname, e, he, happlies⟩ := (hp _ _).mp hv
    rcases List.mem_pair.mp hr with rfl | rfl
    · exact absurd hname (by decide)
    · exact hu.not_applies (List.mem_singleton.mp he ▸ happlies)
  have hreordered : Reordered rules [⟨"driver", [modules]⟩, ⟨"gpu", [display, modules]⟩] :=
    ⟨[⟨"gpu", [display, modules]⟩, ⟨"driver", [modules]⟩],
      .cons ⟨rfl, .swap ..⟩ (.cons ⟨rfl, .refl _⟩ .nil), .swap ..⟩
  exact ⟨ha, hu, happlies, ⟨features, ho, hgpu, hdriver⟩, (hcache _ _).2.mpr happlies,
    horder _ _ hreordered, hskip [] _ ⟨"gpu", [modules, display]⟩ [] [display] modules rfl hu⟩

end NodeSurvey.Source.Custom
