import NodeSurvey.Proofs.Settings.Steady

/-! What a patch does to the labels of the fake source. Keys are merged as they stand, with their
tags, but read without them, and of several keys that read the same the last counts. So a mapping
that gives a label under both kinds of key can do one thing to a label that is there and another to
one that is not. -/

namespace NodeSurvey.Settings

open Yaml

def isTagged : Value → Bool
  | .tagged _ _ => true
  | _ => false

/-- What an entry gives for a label, if its key passes a test. -/
def labelOf (k : String) (test : Value → Bool) (e : Value × Value) : Option String :=
  if e.1.text? = some k ∧ test e.1 = true then e.2.text? else none

/-- What the last of some entries gives that gives anything for a label. -/
def lastLabel (k : String) (test : Value → Bool) (m : List (Value × Value)) : Option String :=
  (m.filterMap (labelOf k test)).getLast?

/-- A mapping gives a label under a tagged key, and behind that something else without a tag. -/
def Contested (k : String) (m : List (Value × Value)) : Prop :=
  lastLabel k isTagged m ≠ none ∧ lastLabel k (fun _ => true) m ≠ lastLabel k isTagged m

/-! Reading labels. -/

theorem string_eq_ok_iff {v : Value} {s : String} : Decode.string v = .ok s ↔ v.text? = some s := by
  rw [Decode.string, Value.text?]
  cases v.untagged <;> simp [Decode.mismatch]

theorem string_isOk (v : Value) : (Decode.string v).isOk = v.text?.isSome := by
  rw [Decode.string, Value.text?]
  cases v.untagged <;> rfl

/-- Keys and values that are all texts. -/
def Texts (m : List (Value × Value)) : Prop :=
  ∀ e ∈ m, e.1.text?.isSome = true ∧ e.2.text?.isSome = true

variable {k : String} {m : List (Value × Value)} {d d' : Dict String}

theorem isOk_dictEntries_iff : (Decode.dictEntries Decode.string d m).isOk = true ↔ Texts m := by
  induction m generalizing d with
  | nil => simp [Decode.dictEntries, Texts, Except.isOk, Except.toBool]
  | cons e m ih =>
    rw [Texts, List.forall_mem_cons, ← string_isOk, ← string_isOk, Decode.dictEntries]
    cases Decode.string e.1 with
    | error x => simp [bind, Except.bind, Except.isOk, Except.toBool]
    | ok name =>
      cases Decode.string e.2 with
      | error x => simp [bind, Except.bind, Except.isOk, Except.toBool]
      | ok s => exact ih.trans (by simp [Texts, Except.isOk, Except.toBool])

theorem lastLabel_append (test : Value → Bool) (l m : List (Value × Value)) :
    lastLabel k test (l ++ m) = (lastLabel k test m).or (lastLabel k test l) := by
  rw [lastLabel, List.filterMap_append, List.getLast?_append]
  rfl

theorem lastLabel_cons (test : Value → Bool) (e : Value × Value) (m : List (Value × Value)) :
    lastLabel k test (e :: m) = (lastLabel k test m).or (labelOf k test e) := by
  rw [← List.singleton_append, lastLabel_append]
  refine congrArg _ ?_
  cases h : labelOf k test e <;> simp [lastLabel, h]

theorem lastLabel_eq_none_iff {test : Value → Bool} :
    lastLabel k test m = none ↔ ∀ e ∈ m, labelOf k test e = none := by
  rw [lastLabel, List.getLast?_eq_none_iff, List.filterMap_eq_nil_iff]

theorem lastLabel_congr {test test' : Value → Bool}
    (h : ∀ e ∈ m, labelOf k test e = labelOf k test' e) :
    lastLabel k test m = lastLabel k test' m := by
  rw [lastLabel, List.filterMap_congr h, lastLabel]

theorem get?_dictEntries (h : Decode.dictEntries Decode.string d m = .ok d') :
    d'.get? k = (lastLabel k (fun _ => true) m).or (d.get? k) := by
  induction m generalizing d with
  | nil =>
    cases h
    rfl
  | cons e m ih =>
    rw [Decode.dictEntries] at h
    cases hk : Decode.string e.1 with
    | error x =>
      rw [hk] at h
      cases h
    | ok name =>
      cases hv : Decode.string e.2 with
      | error x =>
        rw [hk, hv] at h
        cases h
      | ok s =>
        rw [hk, hv] at h
        rw [ih h, Dict.get?_insert, lastLabel_cons, Option.or_assoc, labelOf,
          string_eq_ok_iff.mp hk, string_eq_ok_iff.mp hv]
        by_cases hname : k = name <;> simp [hname, eq_comm]

/-! What a mapping gives for a label without a tag, and what it gives at all. -/

theorem eq_string_of_text? {v : Value} (h : v.text? = some k) (ht : isTagged v = false) :
    v = .string k := by
  cases v with
  | string s => exact congrArg Value.string (Option.some.inj h)
  | tagged => cases ht
  | _ => cases h

theorem same_string_iff {v : Value} {s : String} : v.same (.string s) = true ↔ v = .string s := by
  cases v <;> simp [Value.same]

theorem eq_string_of_same {v : Value} (h : (Value.string k).same v = true) : v = .string k := by
  cases v with
  | string s => simpa [Value.same, eq_comm] using h
  | _ => cases h

theorem lastLabel_untagged (hm : Value.Distinct m) :
    lastLabel k (fun key => !isTagged key) m = (Value.under (.string k) m).text? := by
  induction m with
  | nil => rfl
  | cons e m ih =>
    obtain ⟨he, hne, hm⟩ := Value.Distinct.cons_iff.mp hm
    rw [lastLabel_cons, ih hm, Value.under_cons]
    cases hs : e.1.same (.string k) with
    | true =>
      have hk := same_string_iff.mp hs
      have hrest : Value.under (.string k) m = .null := Value.under_eq_null fun d hd => by
        rw [← hk, Value.same_comm (hm.proper d hd) he]
        exact hne d hd
      rw [hrest, labelOf, hk, if_pos ⟨rfl, rfl⟩, if_pos rfl]
      rfl
    | false =>
      have hno : labelOf k (fun key => !isTagged key) e = none := by
        refine if_neg fun h => ?_
        rw [eq_string_of_text? h.1 (by simpa using h.2), same_string_iff.mpr rfl] at hs
        cases hs
      rw [hno, Option.or_none, if_neg Bool.false_ne_true]

theorem lastLabel_of_no_tag (hm : Value.Distinct m) (h : lastLabel k isTagged m = none) :
    lastLabel k (fun _ => true) m = (Value.under (.string k) m).text? := by
  rw [← lastLabel_untagged hm]
  refine lastLabel_congr fun e he => ?_
  have hno := lastLabel_eq_none_iff.mp h e he
  cases ht : isTagged e.1 <;> simp_all [labelOf]

/-! Labels merged with a mapping. -/

theorem lookup_string (k : String) (w : List (String × Value)) :
    Value.lookup (.string k) (w.map fun e => (.string e.1, e.2)) = Dict.find k w := by
  induction w with
  | nil => rfl
  | cons e w ih => simp [Value.lookup, Value.same, Dict.find, ih, eq_comm]

theorem lookup_tagged {v : Value} (hv : isTagged v = true) (w : List (String × Value)) :
    Value.lookup v (w.map fun e => (.string e.1, e.2)) = none := by
  refine Value.lookup_eq_none_iff.mpr (List.forall_mem_map.mpr fun e _ => ?_)
  cases v with
  | tagged => rfl
  | _ => cases hv

/-- The labels that are there, each merged with what a mapping holds under its plain key. -/
def laidLabels (d : Dict String) (m : List (Value × Value)) : List (Value × Value) :=
  (writtenLabels d).map fun e => (.string e.1, e.2.merge (Value.under (.string e.1) m))

/-- What a mapping adds to them: keys that are not among them as they stand. -/
def addedLabels (d : Dict String) (m : List (Value × Value)) : List (Value × Value) :=
  Value.newEntries ((writtenLabels d).map fun e => (.string e.1, e.2)) m

theorem dict_merge (hm : Value.Distinct m) :
    Decode.dict Decode.string ((encodeLabels d).merge (.mapping m)) =
      Decode.dictEntries Decode.string .empty (laidLabels d m ++ addedLabels d m) := by
  have hw : ((writtenLabels d).map Prod.fst).Nodup := by
    rw [writtenLabels, List.map_map]
    exact d.nodup_keys
  rw [encodeLabels, merge_encodeFields_mapping hw hm]
  rfl

theorem lastLabel_filter {test test' : Value → Bool} {p : Value × Value → Bool}
    (h : ∀ e ∈ m, (if p e then labelOf k test e else none) = labelOf k test' e) :
    lastLabel k test (m.filter p) = lastLabel k test' m := by
  rw [lastLabel, List.filterMap_filter, List.filterMap_congr h, lastLabel]

theorem lastLabel_fields {w : List (String × Value)} (hw : (w.map Prod.fst).Nodup) :
    lastLabel k (fun _ => true) (w.map fun e => (.string e.1, e.2)) =
      (Dict.find k w).bind Value.text? := by
  have huntagged : lastLabel k (fun _ => true) (w.map fun e => (.string e.1, e.2)) =
      lastLabel k (fun key => !isTagged key) (w.map fun e => (.string e.1, e.2)) :=
    lastLabel_congr (List.forall_mem_map.mpr fun e _ => rfl)
  rw [huntagged, lastLabel_untagged (.of_nodup hw), Value.under, lookup_string]
  cases Dict.find k w <;> rfl

theorem lastLabel_laid :
    lastLabel k (fun _ => true) (laidLabels d m) =
      (d.get? k).bind fun s => ((Value.string s).merge (Value.under (.string k) m)).text? := by
  let laid := d.toList.map fun e =>
    (e.1, (Value.string e.2).merge (Value.under (.string e.1) m))
  have hlaid : laidLabels d m = laid.map fun e => (.string e.1, e.2) := by
    simp [laid, laidLabels, writtenLabels]
  have hnodup : (laid.map Prod.fst).Nodup := by
    rw [List.map_map]
    exact d.nodup_keys
  have hfind : Dict.find k laid =
      (d.get? k).map fun s => (Value.string s).merge (Value.under (.string k) m) :=
    Dict.find_map_entry (fun name s => (Value.string s).merge (Value.under (.string name) m)) k _
  rw [hlaid, lastLabel_fields hnodup, hfind, Option.bind_map]
  rfl

theorem lastLabel_added :
    lastLabel k (fun _ => true) (addedLabels d m) =
      if (d.get? k).isSome then lastLabel k isTagged m else lastLabel k (fun _ => true) m := by
  have hplain : Value.lookup (.string k) ((writtenLabels d).map fun e => (.string e.1, e.2)) =
      (d.get? k).map .string := by
    rw [lookup_string, find_writtenLabels]
  -- Keys are compared as they stand: a tagged one is never found, a plain one only if the label is
  -- there.
  rw [← apply_ite (fun test => lastLabel k test m)]
  refine lastLabel_filter fun e _ => ?_
  by_cases hk : e.1.text? = some k
  · cases hv : e.2.isNull with
    | true =>
      have hnone : e.2.text? = none := by
        rw [Value.isNull_iff.mp hv]
        rfl
      simp [labelOf, hnone]
    | false =>
      cases ht : isTagged e.1 with
      | true => cases d.get? k <;> simp [labelOf, hk, ht, lookup_tagged ht]
      | false =>
        obtain ⟨key, v⟩ := e
        obtain rfl := eq_string_of_text? hk ht
        cases hd : d.get? k <;> simp_all [labelOf]
  · simp [labelOf, hk]

theorem merge_string_under {s name : String} (hn : (Value.under (.string name) m).isNull = false) :
    (Value.string s).merge (Value.under (.string name) m) = Value.under (.string name) m :=
  Value.merge_of_not_mapping nofun hn

theorem mem_merged (hm : Value.Distinct m) {e : Value × Value} (he : e ∈ m)
    (hn : e.2.isNull = false) : e ∈ laidLabels d m ++ addedLabels d m := by
  cases hl : Value.lookup e.1 ((writtenLabels d).map fun e => (.string e.1, e.2)) with
  | none => exact List.mem_append_right _ (Value.mem_newEntries.mpr ⟨he, hn, hl⟩)
  | some w =>
    obtain ⟨k', hmem, hs⟩ := Value.exists_of_lookup hl
    obtain ⟨e', hw, hke⟩ := List.mem_map.mp hmem
    obtain ⟨⟨name, s⟩, -, rfl⟩ := List.mem_map.mp hw
    obtain ⟨rfl, rfl⟩ := Prod.mk.inj hke
    have hkey : e.1 = .string name := eq_string_of_same hs
    have hunder : Value.under (.string name) m = e.2 := by
      rw [Value.under, hm.lookup_eq_some_iff.mpr ⟨_, he, hkey ▸ same_string_iff.mpr rfl⟩]
      rfl
    refine List.mem_append_left _ (List.mem_map.mpr ⟨_, hw, ?_⟩)
    rw [merge_string_under (hunder ▸ hn), hunder, ← hkey]

theorem eq_or_of_mem_laid {e : Value × Value} (he : e ∈ laidLabels d m) :
    ∃ name, e.1 = .string name ∧
      ((∃ s, e.2 = .string s) ∨ e.2.isNull = false ∧ ∃ k', (k', e.2) ∈ m) := by
  obtain ⟨e', hw, rfl⟩ := List.mem_map.mp he
  obtain ⟨⟨name, s⟩, -, rfl⟩ := List.mem_map.mp hw
  refine ⟨name, rfl, ?_⟩
  cases hn : (Value.under (.string name) m).isNull with
  | true => exact .inl ⟨s, by rw [Value.isNull_iff.mp hn, Value.merge_null]⟩
  | false =>
    rw [merge_string_under hn]
    refine .inr ⟨hn, (Value.under_eq_null_or _ m).resolve_left fun hnull => ?_⟩
    rw [hnull] at hn
    cases hn

/-- A mapping can be laid over labels if, wherever it holds more than a null, key and value are
texts. -/
theorem texts_merged_iff (hm : Value.Distinct m) :
    Texts (laidLabels d m ++ addedLabels d m) ↔
      ∀ e ∈ m, e.2.isNull = false → e.1.text?.isSome = true ∧ e.2.text?.isSome = true := by
  refine ⟨fun h e he hn => h e (mem_merged hm he hn), fun h e he => ?_⟩
  rcases List.mem_append.mp he with he | he
  · obtain ⟨name, hk, ⟨s, hs⟩ | ⟨hn, k', hmem⟩⟩ := eq_or_of_mem_laid he
    · rw [hk, hs]
      exact ⟨rfl, rfl⟩
    · rw [hk]
      exact ⟨rfl, (h _ hmem hn).2⟩
  · obtain ⟨hmem, hn, -⟩ := Value.mem_newEntries.mp he
    exact h e hmem hn

/-- A label is kept or set, whatever it is, or at least set to a text if it is there. -/
def keepOrSetPresent : Set (Option String → Option String) :=
  {h | h ∈ keepOrSet (Option String) ∨ ∃ t, ∀ s, h (some s) = some t}

theorem ways_keepOrSetPresent : Ways keepOrSetPresent where
  id := .inl ways_keepOrSet.id
  const b := .inl (ways_keepOrSet.const b)
  comp := by
    rintro g (hg | ⟨t, hg⟩) h (hh | ⟨t', hh⟩)
    · exact .inl (ways_keepOrSet.comp g hg h hh)
    · rcases hg with rfl | ⟨b, rfl⟩
      · exact .inr ⟨t', hh⟩
      · exact .inl (.inr ⟨b, rfl⟩)
    · rcases hh with rfl | ⟨b, rfl⟩
      · exact .inr ⟨t, hg⟩
      · exact .inl (.inr ⟨g b, rfl⟩)
    · exact .inr ⟨t, fun s => by rw [Function.comp_apply, hh, hg]⟩

theorem keepOrSetPresent_again {h : Option String → Option String} (hh : h ∈ keepOrSetPresent)
    (s : String) : h (h (some s)) = h (some s) := by
  rcases hh with hh | ⟨t, hh⟩
  · exact keepOrSet_again hh _
  · rw [hh, hh]

/-- What a mapping makes of a label. -/
def relabel (k : String) (m : List (Value × Value)) : Option String → Option String
  | some s =>
    (lastLabel k isTagged m).or ((Value.string s).merge (Value.under (.string k) m)).text?
  | none => lastLabel k (fun _ => true) m

theorem relabel_of_no_tag (hm : Value.Distinct m) (h : lastLabel k isTagged m = none) :
    relabel k m ∈ keepOrSet (Option String) := by
  have hall := lastLabel_of_no_tag hm h
  cases hn : (Value.under (.string k) m).isNull with
  | true =>
    rw [Value.isNull_iff] at hn
    refine .inl (funext fun x => ?_)
    cases x with
    | none => rw [relabel, hall, hn]; rfl
    | some s => rw [relabel, h, hn, Value.merge_null, Option.none_or]; rfl
  | false =>
    refine .inr ⟨(Value.under (.string k) m).text?, funext fun x => ?_⟩
    cases x with
    | none => rw [relabel, hall]
    | some s => rw [relabel, h, merge_string_under hn, Option.none_or]

theorem relabel_of_not_contested (hm : Value.Distinct m) (h : ¬ Contested k m) :
    relabel k m ∈ keepOrSet (Option String) := by
  cases ht : lastLabel k isTagged m with
  | none => exact relabel_of_no_tag hm ht
  | some t =>
    have hall : lastLabel k (fun _ => true) m = some t := by
      simpa [Contested, ht] using h
    refine .inr ⟨some t, funext fun x => ?_⟩
    cases x with
    | none => rw [relabel, hall]
    | some s => rw [relabel, ht, Option.some_or]

theorem relabel_present (hm : Value.Distinct m) : relabel k m ∈ keepOrSetPresent := by
  cases ht : lastLabel k isTagged m with
  | none => exact .inl (relabel_of_no_tag hm ht)
  | some t => exact .inr ⟨t, fun s => by rw [relabel, ht, Option.some_or]⟩

/-! Labels under a patch, and the settings of the fake source. -/

theorem get?_dict_merge (hm : Value.Distinct m)
    (h : Decode.dict Decode.string ((encodeLabels d).merge (.mapping m)) = .ok d') :
    d'.get? k = relabel k m (d.get? k) := by
  rw [dict_merge hm] at h
  rw [get?_dictEntries h, lastLabel_append, lastLabel_laid, lastLabel_added, Dict.get?_empty,
    Option.or_none]
  cases d.get? k with
  | none => simp [relabel]
  | some s => simp [relabel]

def layLabels (w : Value) (d : Dict String) : Except DecodeError (Dict String) :=
  Decode.dict Decode.string ((encodeLabels d).merge w)

theorem layLabels_null (d : Dict String) : layLabels .null d = .ok d := by
  rw [layLabels, Value.merge_null, dict_encodeLabels]

theorem layLabels_of_not_mapping {w : Value} (hn : w ≠ .null) (hm : ∀ m, w ≠ .mapping m) :
    layLabels w = fun _ => Decode.dict Decode.string w := by
  funext d
  rw [layLabels, Value.merge_eq_right hn hm]

theorem blind_layLabels {w : Value} (hw : w.Proper) : Blind (layLabels w) := by
  cases w with
  | null => exact .of_ok layLabels_null
  | mapping m =>
    intro d d'
    have hm := hw.distinct
    rw [Bool.eq_iff_iff, layLabels, layLabels, dict_merge hm, dict_merge hm, isOk_dictEntries_iff,
      isOk_dictEntries_iff, texts_merged_iff hm, texts_merged_iff hm]
  | _ =>
    rw [layLabels_of_not_mapping (by nofun) (by nofun)]
    exact fun _ _ => rfl

variable {ways : Set (Option String → Option String)} {v : Value}

theorem moves_layLabels (hw : Ways ways) (hv : v.Proper)
    (h : ∀ m, v = .mapping m → relabel k m ∈ ways) : Moves (·.get? k) ways (layLabels v) := by
  cases v with
  | null => exact .of_ok hw _ layLabels_null
  | mapping m => exact ⟨relabel k m, h m rfl, fun d d' hd => get?_dict_merge hv.distinct hd⟩
  | _ =>
    rw [layLabels_of_not_mapping (by nofun) (by nofun)]
    exact .of_const hw _ _

theorem blind_fake (hv : v.Proper) : Blind (overlay · v : FakeSettings → Except DecodeError _) :=
  Layout.fake.blind (List.forall_mem_singleton.mpr fun _ hw => blind_layLabels hw) hv

theorem moves_label (hw : Ways ways) (hv : v.Proper)
    (h : ∀ m, v.at? [.string "labels"] = some (.mapping m) → relabel k m ∈ ways) :
    Moves (fun c : FakeSettings => c.labels.get? k) ways (overlay · v) := by
  refine Layout.fake.moves List.mem_cons_self (·.get? k) hw hv fun m hvm => ?_
  subst hvm
  refine moves_layLabels hw (hv.under _) fun n hn => h n ?_
  have hunder : Value.under (.string "labels") m = .mapping n := hn
  rw [Value.under] at hunder
  cases hl : Value.lookup (.string "labels") m with
  | none =>
    rw [hl] at hunder
    cases hunder
  | some w =>
    rw [hl] at hunder
    rw [Value.at?, hl]
    exact congrArg some hunder

/-- The labels in a patch are contested for a label. -/
def Contests (k : String) (v : Value) : Prop :=
  ∃ m, v.at? [.string "labels"] = some (.mapping m) ∧ Contested k m

/-- Whether no label in a patch has a tag on its key. -/
def labelsUntagged (v : Value) : Bool :=
  match v.at? [.string "labels"] with
  | some (.mapping m) => m.all fun e => !isTagged e.1
  | _ => true

theorem not_contests_of_untagged (h : labelsUntagged v = true) : ¬ Contests k v := by
  rintro ⟨m, hm, htag, -⟩
  refine htag (lastLabel_eq_none_iff.mpr fun e he => ?_)
  rw [labelsUntagged, hm, List.all_eq_true] at h
  simp [labelOf, by simpa using h e he]

/-- Patches that are laid over labels a second time change no label that was there before, and no
other one that is not contested. -/
theorem label_layAll_again {values : List Value} (hv : ∀ v ∈ values, v.Proper) (c : FakeSettings)
    (h : (c.labels.get? k).isSome = true ∨ ∀ v ∈ values, ¬ Contests k v) :
    (Config.layAll overlay (Config.layAll overlay c values) values).labels.get? k =
      (Config.layAll overlay c values).labels.get? k := by
  have hblind : ∀ v ∈ values, Blind (overlay · v : FakeSettings → Except DecodeError _) :=
    fun v hm => blind_fake (hv v hm)
  rcases h with h | h
  · obtain ⟨s, hs⟩ := Option.isSome_iff_exists.mp h
    obtain ⟨g, hg, hl⟩ := moves_layAll ways_keepOrSetPresent hblind fun v hm =>
      moves_label (k := k) ways_keepOrSetPresent (hv v hm) fun m hlabels =>
        relabel_present ((hv v hm).at? hlabels).distinct
    rw [hl, hl, hs]
    exact keepOrSetPresent_again hg s
  · refine view_layAll_again (fun c : FakeSettings => c.labels.get? k) hblind
      (fun v hm => moves_label ways_keepOrSet (hv v hm) fun m hlabels => ?_) c
    exact relabel_of_not_contested ((hv v hm).at? hlabels).distinct
      fun hc => h v hm ⟨m, hlabels, hc⟩

end NodeSurvey.Settings
