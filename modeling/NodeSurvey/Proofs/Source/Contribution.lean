import Mathlib.Data.List.Forall2
import Mathlib.Data.List.ReduceOption
import NodeSurvey.Proofs.Dict
import NodeSurvey.Proofs.Host.Walk
import NodeSurvey.Source.Local

/-! What hooks and feature files contribute, one after the other in order of their names. One that
gives no text costs nothing but itself, and the last line with a name counts, so that a feature file
wins over all hooks. How hooks end and what reading a file comes to is left open. -/

namespace NodeSurvey

/-- The text that a file holds, if its bytes are one. -/
def Content.text? : Content → Option String
  | .text s => some s
  | .bytes b => Text.Utf8.decode? b

namespace Host

variable {h : Host} {path name : String} {names : List String}

theorem isExecutable_iff :
    h.isExecutable path = true ↔ ∃ content, h.find path = .ok (.file content true) := by
  rw [isExecutable]
  rcases h.find path with e | ⟨content, executable⟩ | _ | target <;> simp

theorem isFile_iff :
    h.isFile path = true ↔ ∃ content executable, h.find path = .ok (.file content executable) := by
  rw [isFile]
  rcases h.find path with e | ⟨content, executable⟩ | _ | target <;> simp

theorem readText_of_find {content : Content} {executable : Bool}
    (hf : h.find path = .ok (.file content executable)) :
    h.readText path = content.text?.elim (.error .notText) .ok := by
  rw [readText, hf]
  cases content with
  | text s => rfl
  | bytes b =>
    simp only [bind, Except.bind, Content.text?]
    cases Text.Utf8.decode? b <;> rfl

theorem list_eq_ok_iff : h.list path = .ok names ↔ ∃ place, h.locate path = .ok place ∧
    h.entry? place = some .directory ∧ names = (h.entries.filterMap fun e =>
      if e.1.dropLast = place then e.1.getLast? else none).mergeSort (· ≤ ·) := by
  rw [list]
  cases h.locate path with
  | error e => simp [bind, Except.bind]
  | ok place =>
    simp only [bind, Except.bind, Except.ok.injEq, exists_eq_left']
    rcases h.entry? place with _ | ⟨content, executable⟩ | _ | target <;> simp [eq_comm]

theorem pairwise_list (hl : h.list path = .ok names) : names.Pairwise (· ≤ ·) := by
  obtain ⟨place, -, -, rfl⟩ := list_eq_ok_iff.mp hl
  simpa using List.pairwise_mergeSort
    (fun a b c (hab : decide (a ≤ b) = true) (hbc : decide (b ≤ c) = true) =>
      decide_eq_true (String.le_trans (of_decide_eq_true hab) (of_decide_eq_true hbc)))
    (fun a b => by simpa using String.le_total a b) _

theorem mem_list (hl : h.list path = .ok names) : name ∈ names ↔ ∃ place e,
    h.locate path = .ok place ∧ (place ++ [name], e) ∈ h.entries := by
  obtain ⟨place, hp, -, rfl⟩ := list_eq_ok_iff.mp hl
  rw [List.mem_mergeSort, List.mem_filterMap]
  constructor
  · rintro ⟨⟨names, e⟩, he, hn⟩
    split at hn
    · rename_i hd
      obtain ⟨init, rfl⟩ := List.getLast?_eq_some_iff.mp hn
      obtain rfl : init = place := by simpa using hd
      exact ⟨init, e, hp, he⟩
    · cases hn
  · rintro ⟨place', e, hp', he⟩
    obtain rfl := Except.ok.inj (hp.symm.trans hp')
    exact ⟨_, he, by simp⟩

/-- A host with these entries among its hooks and among its feature files. -/
def withItems (hooks files : List (String × Entry)) : Host :=
  let above := ["etc", "kubernetes", "node-feature-discovery"]
  let places := above.inits.tail ++ [above ++ ["source.d"], above ++ ["features.d"]]
  ⟨"/", (places.map fun place => (place, .directory)) ++
    (hooks.map fun e => (above ++ ["source.d", e.1], e.2)) ++
    files.map fun e => (above ++ ["features.d", e.1], e.2)⟩

end Host

namespace Source.Local

variable {h : Host} {run : Runner} {read : String → Except IoError String}
variable {directory name : String} {names texts : List String} {text : Option String}

/-- The names in a directory. One that is missing has none. -/
inductive Listing (h : Host) (directory : String) : List String → Prop where
  | present {names : List String} (hl : h.list directory = .ok names) : Listing h directory names
  | missing (hl : h.list directory = .error .notFound) : Listing h directory []

/-- What a file among the hooks contributes: the text it prints, or nothing. -/
inductive Prints (h : Host) (run : Runner) (name : String) : Option String → Prop where
  | text {content : Content} {text : String}
      (hf : h.find (hookDirectory ++ "/" ++ name) = .ok (.file content true))
      (hr : run (hookDirectory ++ "/" ++ name) = .ok ⟨text, .exited 0⟩) :
      Prints h run name (some text)
  | noHook (hf : ∀ content, h.find (hookDirectory ++ "/" ++ name) ≠ .ok (.file content true)) :
      Prints h run name none
  | notRun {e : IoError} (hr : run (hookDirectory ++ "/" ++ name) = .error e) :
      Prints h run name none
  | failed {text : String} {status : ExitStatus}
      (hr : run (hookDirectory ++ "/" ++ name) = .ok ⟨text, status⟩)
      (hs : status ≠ .exited 0) : Prints h run name none

/-- What an entry among the feature files contributes: the text it holds, or nothing. -/
inductive Holds (h : Host) (read : String → Except IoError String) (name : String) :
    Option String → Prop where
  | text {content : Content} {executable : Bool} {text : String}
      (hf : h.find (featureDirectory ++ "/" ++ name) = .ok (.file content executable))
      (hr : read (featureDirectory ++ "/" ++ name) = .ok text) : Holds h read name (some text)
  | noFile (hf : ∀ content executable,
      h.find (featureDirectory ++ "/" ++ name) ≠ .ok (.file content executable)) :
      Holds h read name none
  | unreadable {e : IoError} (hr : read (featureDirectory ++ "/" ++ name) = .error e) :
      Holds h read name none

/-- What the hooks print and the feature files hold, in the order in which it counts. -/
inductive Contributes (h : Host) (run : Runner) (read : String → Except IoError String) :
    List (Option String) → Prop where
  | intro {hooks files : List String} {printed held : List (Option String)}
      (hh : Listing h hookDirectory hooks) (hf : Listing h featureDirectory files)
      (hp : List.Forall₂ (Prints h run) hooks printed)
      (hs : List.Forall₂ (Holds h read) files held) : Contributes h run read (printed ++ held)

theorem succeeded_iff {status : ExitStatus} : status.succeeded = true ↔ status = .exited 0 := by
  cases status <;> simp [ExitStatus.succeeded]

theorem value_hookText? (hp : Prints h run name text) : (hookText? h run name).value = text := by
  rw [hookText?]
  cases hp with
  | text hf hr =>
    simp [Host.isExecutable_iff.mpr ⟨_, hf⟩, runHook, hr, ExitStatus.succeeded]
  | noHook hf =>
    have hno : h.isExecutable (hookDirectory ++ "/" ++ name) = false :=
      Bool.eq_false_iff.mpr fun he => (Host.isExecutable_iff.mp he).elim hf
    simp [hno]
  | notRun hr =>
    simp only [runHook, hr]
    split <;> rfl
  | failed hr hs =>
    simp only [runHook, hr, mt succeeded_iff.mp hs]
    split <;> rfl

theorem value_fileText? (hh : Holds h read name text) : (fileText? h read name).value = text := by
  rw [fileText?]
  cases hh with
  | text hf hr => simp [Host.isFile_iff.mpr ⟨_, _, hf⟩, hr]
  | noFile hf =>
    have hno : h.isFile (featureDirectory ++ "/" ++ name) = false :=
      Bool.eq_false_iff.mpr fun he =>
        let ⟨content, executable, hf'⟩ := Host.isFile_iff.mp he
        hf content executable hf'
    simp [hno]
  | unreadable hr =>
    simp only [hr]
    split <;> rfl

theorem exists_prints (h : Host) (run : Runner) (name : String) :
    ∃ text, Prints h run name text := by
  by_cases he : ∃ content, h.find (hookDirectory ++ "/" ++ name) = .ok (.file content true)
  · obtain ⟨content, hf⟩ := he
    cases hr : run (hookDirectory ++ "/" ++ name) with
    | error e => exact ⟨none, .notRun hr⟩
    | ok outcome =>
      obtain ⟨text, status⟩ := outcome
      by_cases hs : status = .exited 0
      · exact ⟨some text, .text hf (hs ▸ hr)⟩
      · exact ⟨none, .failed hr hs⟩
  · exact ⟨none, .noHook (not_exists.mp he)⟩

theorem exists_holds (h : Host) (read : String → Except IoError String) (name : String) :
    ∃ text, Holds h read name text := by
  by_cases he : ∃ content executable,
      h.find (featureDirectory ++ "/" ++ name) = .ok (.file content executable)
  · obtain ⟨content, executable, hf⟩ := he
    cases hr : read (featureDirectory ++ "/" ++ name) with
    | error e => exact ⟨none, .unreadable hr⟩
    | ok text => exact ⟨some text, .text hf hr⟩
  · exact ⟨none, .noFile fun content executable hf => he ⟨content, executable, hf⟩⟩

theorem value_addItem {text? : String → Logged (Option String)} {known : Features}
    (ht : (text? name).value = text) :
    (addItem text? known name).value = text.elim known (addFeatures known) := by
  rw [addItem, Logged.value_bind, ht]
  cases text <;> rfl

theorem value_foldlM_addItem {text? : String → Logged (Option String)} {known : Features}
    {texts : List (Option String)}
    (ht : List.Forall₂ (fun name text => (text? name).value = text) names texts) :
    (names.foldlM (addItem text?) known).value = texts.reduceOption.foldl addFeatures known := by
  induction ht generalizing known with
  | nil => rfl
  | @cons name text names texts ht _ ih =>
    rw [List.foldlM_cons, Logged.value_bind, value_addItem ht, ih]
    cases text <;> rfl

theorem foldl_addFeatures (texts : List String) :
    texts.foldl addFeatures .empty = Dict.ofList (texts.flatMap features) :=
  List.foldl_flatMap.symm

theorem value_listOptional_bind {α : Type} (hl : Listing h directory names)
    (f : List String → Discovery α) :
    (listOptional h directory >>= f).run.value = (f names).run.value := by
  rw [Discovery.value_bind, listOptional]
  cases hl with
  | present hl =>
    rw [hl]
    rfl
  | missing hl =>
    rw [hl]
    rfl

/-- A directory that is there but cannot be listed. -/
def Unlisted (h : Host) (directory : String) : Prop :=
  ∃ e, h.list directory = .error e ∧ e ≠ .notFound

theorem exists_listing_or_unlisted (h : Host) (directory : String) :
    (∃ names, Listing h directory names) ∨ Unlisted h directory := by
  cases hl : h.list directory with
  | ok names => exact .inl ⟨names, .present hl⟩
  | error e =>
    by_cases he : e = .notFound
    · exact .inl ⟨[], .missing (he ▸ hl)⟩
    · exact .inr ⟨e, hl, he⟩

theorem not_unlisted (hl : Listing h directory names) : ¬ Unlisted h directory := by
  rintro ⟨e, he, hne⟩
  cases hl with
  | present hl => rw [hl] at he; cases he
  | missing hl => exact hne (Except.error.inj (he.symm.trans hl))

theorem exists_error_of_unlisted {α : Type} (hu : Unlisted h directory)
    (f : List String → Discovery α) :
    ∃ t, (listOptional h directory >>= f).run.value = .error t := by
  obtain ⟨e, he, hne⟩ := hu
  rw [Discovery.value_bind, listOptional, he]
  cases e with
  | notFound => exact absurd rfl hne
  | _ => exact ⟨_, rfl⟩

theorem value_lift_bind {α β : Type} (m : Logged α) (f : α → Discovery β) :
    (ExceptT.lift m >>= f).run.value = (f m.value).run.value := by
  rw [Discovery.value_bind, ExceptT.run_lift, Logged.value_map]
  rfl

theorem value_discoverBy {texts : List (Option String)} (hc : Contributes h run read texts) :
    (discoverBy run read h).run.value = .ok (Dict.ofList (texts.reduceOption.flatMap features)) := by
  obtain ⟨hh, hf, hp, hs⟩ := hc
  rw [discoverBy, value_listOptional_bind hh, value_lift_bind, value_listOptional_bind hf,
    ExceptT.run_lift, Logged.value_map, value_foldlM_addItem (hp.imp fun _ _ => value_hookText?),
    value_foldlM_addItem (hs.imp fun _ _ => value_fileText?), List.reduceOption_append,
    ← foldl_addFeatures, List.foldl_append]

theorem exists_forall₂ {R : String → Option String → Prop} (hR : ∀ name, ∃ text, R name text)
    (names : List String) : ∃ texts, List.Forall₂ R names texts := by
  choose f hf using hR
  exact ⟨names.map f, List.forall₂_map_right_iff.mpr (List.forall₂_same.mpr fun name _ => hf name)⟩

theorem contributes_or_unlisted (h : Host) (run : Runner) (read : String → Except IoError String) :
    (∃ texts, Contributes h run read texts) ∨
      Unlisted h hookDirectory ∨ Unlisted h featureDirectory := by
  rcases exists_listing_or_unlisted h hookDirectory with ⟨hooks, hh⟩ | hu
  · rcases exists_listing_or_unlisted h featureDirectory with ⟨files, hf⟩ | hu
    · obtain ⟨printed, hp⟩ := exists_forall₂ (exists_prints h run) hooks
      obtain ⟨held, hs⟩ := exists_forall₂ (exists_holds h read) files
      exact .inl ⟨_, .intro hh hf hp hs⟩
    · exact .inr (.inr hu)
  · exact .inr (.inl hu)

theorem exists_error_iff : (∃ t, (discoverBy run read h).run.value = .error t) ↔
    Unlisted h hookDirectory ∨ Unlisted h featureDirectory := by
  constructor
  · rintro ⟨t, ht⟩
    refine (contributes_or_unlisted h run read).resolve_left fun ⟨texts, hc⟩ => ?_
    rw [value_discoverBy hc] at ht
    cases ht
  · intro hu
    rcases exists_listing_or_unlisted h hookDirectory with ⟨hooks, hh⟩ | hhooks
    · rw [discoverBy, value_listOptional_bind hh, value_lift_bind]
      exact exists_error_of_unlisted (hu.resolve_left (not_unlisted hh)) _
    · exact exists_error_of_unlisted hhooks _

theorem holds_readText_iff {text : String} : Holds h h.readText name (some text) ↔
    ∃ content executable, h.find (featureDirectory ++ "/" ++ name) =
      .ok (.file content executable) ∧ content.text? = some text := by
  constructor
  · intro hh
    cases hh with
    | @text content executable _ hf hr =>
      refine ⟨content, executable, hf, ?_⟩
      rw [Host.readText_of_find hf] at hr
      cases ht : content.text? with
      | none => rw [ht] at hr; cases hr
      | some s => rw [ht] at hr; exact congrArg some (Except.ok.inj hr)
  · rintro ⟨content, executable, hf, ht⟩
    refine .text hf ?_
    rw [Host.readText_of_find hf, ht]
    rfl

/-- Discovery fails just where one of the two directories is there and cannot be listed. Everywhere
else its features are those of the lines that the hooks print and the files hold, in this order and
the last line with a name winning. Nothing else of the host counts: two hosts whose hooks and files
contribute the same texts have the same features. -/
theorem discoverBy_contributed (run : Runner) (read : String → Except IoError String) (h : Host) :
    ((∃ t, (discoverBy run read h).run.value = .error t) ↔
      ∃ directory ∈ [hookDirectory, featureDirectory], ∃ e,
        h.list directory = .error e ∧ e ≠ .notFound) ∧
    (∀ found, (discoverBy run read h).run.value = .ok found →
      ∃ texts, Contributes h run read texts ∧ ∀ name value, found.get? name = some value ↔
        Dict.IsLast name value (texts.reduceOption.flatMap features)) ∧
    (∀ run' read' h' texts texts', Contributes h run read texts →
      Contributes h' run' read' texts' → texts.reduceOption = texts'.reduceOption →
        (discoverBy run read h).run.value = (discoverBy run' read' h').run.value) ∧
    (∀ directory names, Listing h directory names → names.Pairwise (· ≤ ·) ∧
      ∀ name, name ∈ names ↔ ∃ place e, h.list directory = .ok names ∧
        h.locate directory = .ok place ∧ (place ++ [name], e) ∈ h.entries) ∧
    ∀ name text, Holds h h.readText name (some text) ↔ ∃ content executable,
      h.find (featureDirectory ++ "/" ++ name) = .ok (.file content executable) ∧
        content.text? = some text := by
  refine ⟨?_, fun found ho => ?_, fun run' read' h' texts texts' hc hc' he => ?_,
    fun directory names hl => ?_, fun name text => holds_readText_iff⟩
  · rw [exists_error_iff]
    simp [Unlisted]
  · obtain ⟨texts, hc⟩ := (contributes_or_unlisted h run read).resolve_right fun hu => by
      obtain ⟨t, ht⟩ := exists_error_iff.mpr hu
      rw [ho] at ht
      cases ht
    obtain rfl := Except.ok.inj (ho.symm.trans (value_discoverBy hc))
    exact ⟨texts, hc, fun name value => Dict.get?_ofList_iff_isLast⟩
  · rw [value_discoverBy hc, value_discoverBy hc', he]
  · cases hl with
    | present hl =>
      exact ⟨Host.pairwise_list hl, fun name => by simp [Host.mem_list hl, hl]⟩
    | missing hl => simp [hl]

/-- Of four files among the hooks one prints its lines, one fails behind a line, one cannot be run and
one is not executable; of three entries among the feature files one is no text and one no file. The
host without the five has the same features. -/
theorem discoverBy_contributed_mixed :
    let run : Runner := fun path =>
      if path = hookDirectory ++ "/" ++ "a" then .ok ⟨"rack=east\ngpu\n", .exited 0⟩
      else if path = hookDirectory ++ "/" ++ "b" then .ok ⟨"disk=lost\n", .exited 3⟩
      else .error .notExecutable
    let hook : Entry := .file (.text "") true
    let site : Entry := .file (.text "rack=west\n") false
    let h := Host.withItems
      [("a", hook), ("b", hook), ("c", hook), ("d", .file (.text "disk=new\n") false)]
      [("bad", .file (.bytes [0x61, 0xFF]) false), ("site", site), ("sub", .directory)]
    let spare := Host.withItems [("a", hook)] [("site", site)]
    Contributes h run h.readText ([some "rack=east\ngpu\n", none, none, none] ++
      [none, some "rack=west\n", none]) ∧
    Contributes spare run spare.readText ([some "rack=east\ngpu\n"] ++ [some "rack=west\n"]) ∧
    (discoverBy run h.readText h).run.value = (discoverBy run spare.readText spare).run.value ∧
    ∃ found, (discoverBy run spare.readText spare).run.value = .ok found ∧
      found.toList = [("gpu", .bool true), ("rack", .text "west")] := by
  intro run hook site h spare
  have hhooks : Listing h hookDirectory ["a", "b", "c", "d"] :=
    .present (Host.list_of_plainNames? (by decide +kernel))
  have hfiles : Listing h featureDirectory ["bad", "site", "sub"] :=
    .present (Host.list_of_plainNames? (by decide +kernel))
  have hspareHooks : Listing spare hookDirectory ["a"] :=
    .present (Host.list_of_plainNames? (by decide +kernel))
  have hspareFiles : Listing spare featureDirectory ["site"] :=
    .present (Host.list_of_plainNames? (by decide +kernel))
  have ha : h.find (hookDirectory ++ "/" ++ "a") = .ok hook :=
    Host.find_of_plainFind? (by decide +kernel)
  have hd : h.find (hookDirectory ++ "/" ++ "d") = .ok (.file (.text "disk=new\n") false) :=
    Host.find_of_plainFind? (by decide +kernel)
  have hbad : h.find (featureDirectory ++ "/" ++ "bad") = .ok (.file (.bytes [0x61, 0xFF]) false) :=
    Host.find_of_plainFind? (by decide +kernel)
  have hsite : h.find (featureDirectory ++ "/" ++ "site") = .ok site :=
    Host.find_of_plainFind? (by decide +kernel)
  have hsub : h.find (featureDirectory ++ "/" ++ "sub") = .ok .directory :=
    Host.find_of_plainFind? (by decide +kernel)
  have hspareA : spare.find (hookDirectory ++ "/" ++ "a") = .ok hook :=
    Host.find_of_plainFind? (by decide +kernel)
  have hspareSite : spare.find (featureDirectory ++ "/" ++ "site") = .ok site :=
    Host.find_of_plainFind? (by decide +kernel)
  have hrunA : run (hookDirectory ++ "/" ++ "a") = .ok ⟨"rack=east\ngpu\n", .exited 0⟩ := by
    decide +kernel
  have hrunB : run (hookDirectory ++ "/" ++ "b") = .ok ⟨"disk=lost\n", .exited 3⟩ := by
    decide +kernel
  have hrunC : run (hookDirectory ++ "/" ++ "c") = .error .notExecutable := by decide +kernel
  have hprinted : List.Forall₂ (Prints h run) ["a", "b", "c", "d"] _ :=
    .cons (.text ha hrunA) <| .cons (.failed hrunB (by decide)) <|
      .cons (.notRun hrunC) <| .cons (.noHook (by simp [hd])) .nil
  have hheld : List.Forall₂ (Holds h h.readText) ["bad", "site", "sub"] _ :=
    .cons (.unreadable (Host.readText_of_find hbad)) <|
      .cons (holds_readText_iff.mpr ⟨_, _, hsite, rfl⟩) <| .cons (.noFile (by simp [hsub])) .nil
  have hall : Contributes h run h.readText _ := .intro hhooks hfiles hprinted hheld
  have hkept : Contributes spare run spare.readText _ := .intro hspareHooks hspareFiles
    (.cons (.text hspareA hrunA) .nil)
    (.cons (holds_readText_iff.mpr ⟨_, _, hspareSite, rfl⟩) .nil)
  refine ⟨hall, hkept, (discoverBy_contributed run h.readText h).2.2.1 run spare.readText spare _ _
    hall hkept rfl, _, value_discoverBy hkept, by decide +kernel⟩

end Source.Local

end NodeSurvey
