import NodeSurvey.Proofs.Yaml.Keys

/-! Merging a patch into a value. The keys of a merged mapping are those of the base and behind them
the new ones of the patch, and at every path of keys the patch decides wherever it holds anything
but a mapping or a null. -/

namespace NodeSurvey.Yaml.Value

/-- What a mapping gives for a key; a key that is missing is given null. -/
def under (k : Value) (entries : List (Value × Value)) : Value := (lookup k entries).getD .null

/-- Entries of a patch that a mapping with the given entries does not have, nulls apart. -/
def newEntries (base patch : List (Value × Value)) : List (Value × Value) :=
  patch.filter fun e => !e.2.isNull && (lookup e.1 base).isNone

theorem mem_newEntries {base patch : List (Value × Value)} {e : Value × Value} :
    e ∈ newEntries base patch ↔ e ∈ patch ∧ e.2.isNull = false ∧ lookup e.1 base = none := by
  simp [newEntries]

theorem Distinct.newEntries {patch : List (Value × Value)} (hp : Distinct patch)
    (base : List (Value × Value)) : Distinct (newEntries base patch) :=
  hp.sublist List.filter_sublist

/-- What is new depends on the keys that are there and not on what they hold. -/
theorem newEntries_congr {base base' : List (Value × Value)}
    (h : base.map Prod.fst = base'.map Prod.fst) (patch : List (Value × Value)) :
    newEntries base patch = newEntries base' patch := by
  have hkeys (k : Value) (l : List (Value × Value)) :
      (lookup k l).isNone = true ↔ ∀ k' ∈ l.map Prod.fst, same k' k = false := by
    rw [Option.isNone_iff_eq_none, lookup_eq_none_iff, List.forall_mem_map]
  refine List.filter_congr fun e _ => congrArg _ (Bool.eq_iff_iff.mpr ?_)
  rw [hkeys, hkeys, h]

@[simp] theorem merge_null (base : Value) : base.merge .null = base := by rw [merge]

theorem isNull_iff {v : Value} : v.isNull = true ↔ v = .null := by
  cases v <;> simp [isNull]

/-! One entry of the patch. -/

variable {base patch : List (Value × Value)} {k v : Value} {f : Value → Value}

theorem update_of_lookup_eq_none (h : lookup k base = none) :
    update f k v base = base ++ if v.isNull then [] else [(k, v)] := by
  induction base with
  | nil => rfl
  | cons e base ih =>
    obtain ⟨he, hbase⟩ := List.forall_mem_cons.mp (lookup_eq_none_iff.mp h)
    rw [update, he, if_neg Bool.false_ne_true, ih (lookup_eq_none_iff.mpr hbase), List.cons_append]

theorem update_of_isSome (hb : Distinct base) (h : (lookup k base).isSome = true) :
    update f k v base = base.map fun e => (e.1, if same e.1 k then f e.2 else e.2) := by
  induction base with
  | nil => cases h
  | cons e base ih =>
    obtain ⟨he, hne, hbase⟩ := Distinct.cons_iff.mp hb
    cases hs : same e.1 k with
    | true =>
      have hrest : ∀ d ∈ base, same d.1 k = false := by
        intro d hd
        rw [same_congr he hs d.1 (hbase.proper d hd), same_comm (hbase.proper d hd) he]
        exact hne d hd
      have hid : base.map (fun e => (e.1, if same e.1 k then f e.2 else e.2)) = base := by
        refine (List.map_congr_left fun d hd => ?_).trans (List.map_id _)
        rw [hrest d hd]
        rfl
      simp [update, hs, hid]
    | false =>
      rw [lookup, hs] at h
      simp [update, hs, ih hbase h]

theorem Distinct.update (hb : Distinct base) (hk : k.Proper) : Distinct (update f k v base) := by
  cases h : lookup k base with
  | some w =>
    rw [update_of_isSome hb (by rw [h]; rfl)]
    refine ⟨List.pairwise_map.mpr hb.pairwise, fun e he => ?_⟩
    obtain ⟨d, hd, rfl⟩ := List.mem_map.mp he
    exact hb.proper d hd
  | none =>
    have hne := lookup_eq_none_iff.mp h
    rw [update_of_lookup_eq_none h]
    split
    · rwa [List.append_nil]
    · refine ⟨List.pairwise_append.mpr ⟨hb.pairwise, List.pairwise_singleton _ _, ?_⟩, ?_⟩
      · simpa using hne
      · rintro e he
        rcases List.mem_append.mp he with he | he
        · exact hb.proper e he
        · obtain rfl := List.mem_singleton.mp he
          exact hk

theorem lookup_update_of_ne (hb : Distinct base) (hk : k.Proper) {k' : Value}
    (h : same k k' = false) : lookup k' (update f k v base) = lookup k' base := by
  cases hl : lookup k base with
  | some w =>
    rw [update_of_isSome hb (by rw [hl]; rfl), lookup_map (g := id), Option.map_id_fun, id]
    intro e he hs
    have hek : same e.1 k = false := by
      rw [Bool.eq_false_iff]
      intro hek
      rw [same_trans hk (same_symm (hb.proper e he) hek) hs] at h
      cases h
    rw [hek]
    rfl
  | none =>
    rw [update_of_lookup_eq_none hl, lookup_append]
    split <;> simp [lookup, h]

theorem under_cons (k' : Value) (e : Value × Value) :
    under k' (e :: patch) = if same e.1 k' then e.2 else under k' patch := by
  rw [under, lookup]
  split <;> rfl

theorem under_eq_null (h : ∀ e ∈ patch, same e.1 k = false) : under k patch = .null := by
  rw [under, lookup_eq_none_iff.mpr h]
  rfl

theorem under_eq_null_of_cons (hp : Distinct ((k, v) :: patch)) : under k patch = .null := by
  obtain ⟨hk, hne, hpatch⟩ := Distinct.cons_iff.mp hp
  refine under_eq_null fun d hd => ?_
  rw [same_comm (hpatch.proper d hd) hk]
  exact hne d hd

theorem map_update_of_isSome (hb : Distinct base) (hp : Distinct ((k, v) :: patch))
    (h : (lookup k base).isSome = true) :
    (update (fun old => merge old v) k v base).map
        (fun e => (e.1, e.2.merge (under e.1 patch))) =
      base.map fun e => (e.1, e.2.merge (under e.1 ((k, v) :: patch))) := by
  obtain ⟨hk, -, hpatch⟩ := Distinct.cons_iff.mp hp
  rw [update_of_isSome hb h, List.map_map]
  refine List.map_congr_left fun e he => ?_
  simp only [Function.comp_apply, under_cons, same_comm hk (hb.proper e he)]
  split
  · rename_i hs
    have hrest : under e.1 patch = .null := by
      rw [under, ← hpatch.lookup_congr (hb.proper e he) hs]
      exact under_eq_null_of_cons hp
    rw [hrest, merge_null]
  · rfl

theorem map_update_of_eq_none (hb : Distinct base) (hp : Distinct ((k, v) :: patch))
    (h : lookup k base = none) :
    (update (fun old => merge old v) k v base).map
        (fun e => (e.1, e.2.merge (under e.1 patch))) =
      base.map (fun e => (e.1, e.2.merge (under e.1 ((k, v) :: patch)))) ++
        if v.isNull then [] else [(k, v)] := by
  obtain ⟨hk, -, -⟩ := Distinct.cons_iff.mp hp
  rw [update_of_lookup_eq_none h, List.map_append]
  refine congrArg₂ (· ++ ·) (List.map_congr_left fun e he => ?_) ?_
  · rw [under_cons, same_comm hk (hb.proper e he), lookup_eq_none_iff.mp h e he,
      if_neg Bool.false_ne_true]
  · split
    · rfl
    · simp [under_eq_null_of_cons hp]

/-- A merged mapping: every entry of the base with what the patch gives for its key merged into it,
and behind them what is new in the patch. -/
theorem mergeEntries_eq (hb : Distinct base) (hp : Distinct patch) :
    mergeEntries base patch =
      base.map (fun e => (e.1, e.2.merge (under e.1 patch))) ++ newEntries base patch := by
  -- The base takes up one entry after the other; for the rest of the patch, with its other keys,
  -- the same entries stay new.
  induction patch generalizing base with
  | nil => simp [mergeEntries, newEntries, under, lookup]
  | cons e patch ih =>
    obtain ⟨k, v⟩ := e
    obtain ⟨hk, hne, hpatch⟩ := Distinct.cons_iff.mp hp
    have hnew : newEntries (update (fun old => merge old v) k v base) patch =
        newEntries base patch := by
      refine List.filter_congr fun d hd => ?_
      rw [lookup_update_of_ne hb hk (hne d hd)]
    rw [mergeEntries, ih (hb.update hk) hpatch, hnew]
    cases hl : lookup k base with
    | some w =>
      rw [map_update_of_isSome hb hp (by rw [hl]; rfl)]
      simp [newEntries, hl]
    | none =>
      rw [map_update_of_eq_none hb hp hl, List.append_assoc]
      cases hv : v.isNull <;> simp [newEntries, hv, hl]

theorem keys_mergeEntries (hb : Distinct base) (hp : Distinct patch) :
    (mergeEntries base patch).map Prod.fst =
      base.map Prod.fst ++ (newEntries base patch).map Prod.fst := by
  rw [mergeEntries_eq hb hp, List.map_append, List.map_map]
  rfl

theorem distinct_mergeEntries (hb : Distinct base) (hp : Distinct patch) :
    Distinct (mergeEntries base patch) := by
  have hnew := hp.newEntries base
  rw [mergeEntries_eq hb hp]
  constructor
  · refine List.pairwise_append.mpr ⟨List.pairwise_map.mpr hb.pairwise, hnew.pairwise, ?_⟩
    intro d hd e he
    obtain ⟨d', hd', rfl⟩ := List.mem_map.mp hd
    exact lookup_eq_none_iff.mp (mem_newEntries.mp he).2.2 d' hd'
  · intro e he
    rcases List.mem_append.mp he with he | he
    · obtain ⟨d, hd, rfl⟩ := List.mem_map.mp he
      exact hb.proper d hd
    · exact hnew.proper e he

theorem lookup_newEntries (hb : Distinct base) (hp : Distinct patch) (h : lookup k base = none) :
    lookup k (newEntries base patch) = (lookup k patch).filter fun v => !v.isNull := by
  ext v
  rw [(hp.newEntries base).lookup_eq_some_iff, Option.filter_eq_some_iff, hp.lookup_eq_some_iff]
  simp only [mem_newEntries, Bool.not_eq_true']
  constructor
  · rintro ⟨k', ⟨hm, hv, -⟩, hs⟩
    exact ⟨⟨k', hm, hs⟩, hv⟩
  · rintro ⟨⟨k', hm, hs⟩, hv⟩
    exact ⟨k', ⟨hm, hv, (hb.lookup_congr (hp.proper _ hm) hs).symm.trans h⟩, hs⟩

/-- A key of a merged mapping holds what the patch gives for it, merged into what the base holds
there if it holds anything. -/
theorem lookup_mergeEntries (hb : Distinct base) (hp : Distinct patch) (k : Value) :
    lookup k (mergeEntries base patch) =
      ((lookup k base).map (·.merge (under k patch))).or
        ((lookup k patch).filter fun v => !v.isNull) := by
  rw [mergeEntries_eq hb hp, lookup_append, lookup_map (g := (·.merge (under k patch)))]
  · cases h : lookup k base with
    | some v => simp
    | none => simp [lookup_newEntries hb hp h]
  · intro e he hs
    rw [under, under, hp.lookup_congr (hb.proper e he) hs]

theorem merge_eq_right {base patch : Value} (hn : patch ≠ .null) (hm : ∀ p, patch ≠ .mapping p) :
    base.merge patch = patch := by
  cases patch with
  | null => exact absurd rfl hn
  | mapping p => exact absurd rfl (hm p)
  | _ => simp only [Value.merge]

theorem merge_of_not_mapping {base v : Value} (hb : ∀ entries, base ≠ .mapping entries)
    (hv : v.isNull = false) : base.merge v = v := by
  cases v with
  | null => cases hv
  | mapping p =>
    cases base with
    | mapping entries => exact absurd rfl (hb entries)
    | _ => simp only [Value.merge]
  | _ => exact merge_eq_right nofun nofun

/-- What is merged of values without repeated keys has none either. -/
theorem Proper.merge {base patch : Value} (hb : base.Proper) (hp : patch.Proper) :
    (base.merge patch).Proper := by
  induction hp generalizing base with
  | null => rwa [merge_null]
  | @mapping p hd hk hv _ ih =>
    have hpatch : Distinct p := ⟨hd, hk⟩
    cases hb with
    | @mapping b hdb hkb hvb =>
      have hbase : Distinct b := ⟨hdb, hkb⟩
      have hmerged := distinct_mergeEntries hbase hpatch
      rw [Value.merge]
      refine .mapping hmerged.pairwise hmerged.proper fun e he => ?_
      rw [mergeEntries_eq hbase hpatch] at he
      rcases List.mem_append.mp he with he | he
      · obtain ⟨d, hdm, rfl⟩ := List.mem_map.mp he
        cases hl : lookup d.1 p with
        | none =>
          rw [under, hl, Option.getD_none, merge_null]
          exact hvb d hdm
        | some v =>
          obtain ⟨k', hm, -⟩ := exists_of_lookup hl
          rw [under, hl, Option.getD_some]
          exact ih _ hm (hvb d hdm)
      · exact hv e (List.mem_of_mem_filter he)
    | _ =>
      rw [merge_of_not_mapping (by nofun) rfl]
      exact .mapping hd hk hv
  | _ =>
    rw [merge_eq_right (by nofun) (by nofun)]
    constructor <;> assumption

/-! Paths of keys. -/

/-- What is held at a path of keys, each a key of a mapping that is held at the keys before it. -/
def at? : List Value → Value → Option Value
  | [], v => some v
  | k :: path, .mapping entries => (lookup k entries).bind (at? path)
  | _ :: _, _ => none

/-- The entries of the mapping at a path; there are none if it holds anything else. -/
def entriesAt (path : List Value) (v : Value) : List (Value × Value) :=
  match v.at? path with
  | some (.mapping entries) => entries
  | _ => []

/-- A patch that has nothing to say at a path: on the way along it comes a null or a missing key. -/
inductive Silent : List Value → Value → Prop where
  | null (path : List Value) : Silent path .null
  | missing {k : Value} {path : List Value} {entries : List (Value × Value)}
    (h : lookup k entries = none) : Silent (k :: path) (.mapping entries)
  | further {k v : Value} {path : List Value} {entries : List (Value × Value)}
    (h : lookup k entries = some v) (hs : Silent path v) : Silent (k :: path) (.mapping entries)

variable {path : List Value}

theorem at?_cons_eq_some_iff {v w : Value} :
    v.at? (k :: path) = some w ↔
      ∃ entries x, v = .mapping entries ∧ lookup k entries = some x ∧ x.at? path = some w := by
  cases v <;> simp [at?, Option.bind_eq_some_iff]

theorem entriesAt_null (path : List Value) : entriesAt path .null = [] := by
  cases path <;> rfl

theorem entriesAt_cons (k : Value) (path : List Value) (entries : List (Value × Value)) :
    entriesAt (k :: path) (.mapping entries) = entriesAt path (under k entries) := by
  rw [under, entriesAt, at?]
  cases lookup k entries with
  | some v => rfl
  | none => exact (entriesAt_null path).symm

theorem under_eq_null_or (k : Value) (entries : List (Value × Value)) :
    under k entries = .null ∨ ∃ k', (k', under k entries) ∈ entries := by
  rw [under]
  cases hl : lookup k entries with
  | none => exact .inl rfl
  | some v =>
    obtain ⟨k', hm, -⟩ := exists_of_lookup hl
    exact .inr ⟨k', hm⟩

theorem Proper.under {entries : List (Value × Value)} (h : Proper (.mapping entries)) (k : Value) :
    (under k entries).Proper := by
  rcases under_eq_null_or k entries with hn | ⟨k', hm⟩
  · rw [hn]
    exact .null
  · exact h.value _ hm

theorem lookup_mergeEntries_of_base {x : Value} (hb : Distinct base) (hp : Distinct patch)
    (h : lookup k base = some x) :
    lookup k (mergeEntries base patch) = some (x.merge (under k patch)) := by
  rw [lookup_mergeEntries hb hp, h]
  rfl

theorem lookup_mergeEntries_of_patch (hb : Distinct base) (hp : Distinct patch)
    (h : lookup k patch = some v) (hv : v.isNull = false) :
    lookup k (mergeEntries base patch) = some ((under k base).merge v) := by
  rw [lookup_mergeEntries hb hp, under, under, h]
  cases lookup k base with
  | some x => rfl
  | none => simp [hv, merge_of_not_mapping]

variable {b p : Value}

theorem at?_merge_of_patch (hb : b.Proper) (hp : p.Proper) (h : p.at? path = some v)
    (hn : v ≠ .null) (hm : ∀ entries, v ≠ .mapping entries) : (b.merge p).at? path = some v := by
  induction path generalizing b p with
  | nil =>
    obtain rfl := Option.some.inj h
    rw [merge_eq_right hn hm]
    rfl
  | cons k path ih =>
    obtain ⟨patch, w, rfl, hl, hw⟩ := at?_cons_eq_some_iff.mp h
    have hwn : w.isNull = false := by
      rw [Bool.eq_false_iff, ne_eq, isNull_iff]
      rintro rfl
      cases path with
      | nil => exact hn (Option.some.inj hw).symm
      | cons => cases hw
    cases b with
    | mapping base =>
      rw [merge, at?, lookup_mergeEntries_of_patch hb.distinct hp.distinct hl hwn]
      obtain ⟨k', hmem, -⟩ := exists_of_lookup hl
      exact ih (hb.under k) (hp.value _ hmem) hw
    | _ => rwa [merge_of_not_mapping (by nofun) rfl]

theorem at?_merge_of_silent (hb : b.Proper) (hp : p.Proper) (h : b.at? path = some v)
    (hs : Silent path p) : (b.merge p).at? path = some v := by
  induction hs generalizing b with
  | null => rwa [merge_null]
  | missing hl =>
    obtain ⟨base, x, rfl, hx, hv⟩ := at?_cons_eq_some_iff.mp h
    rw [merge, at?, lookup_mergeEntries_of_base hb.distinct hp.distinct hx, under, hl]
    rwa [Option.getD_none, merge_null]
  | further hl _ ih =>
    obtain ⟨base, x, rfl, hx, hv⟩ := at?_cons_eq_some_iff.mp h
    obtain ⟨k₁, hbase, -⟩ := exists_of_lookup hx
    obtain ⟨k₂, hpatch, -⟩ := exists_of_lookup hl
    rw [merge, at?, lookup_mergeEntries_of_base hb.distinct hp.distinct hx, under, hl]
    exact ih (hb.value _ hbase) (hp.value _ hpatch) hv

theorem mapping_of_at?_merge {r : List (Value × Value)} (hb : b.Proper) (hp : p.Proper)
    (h : b.at? path = some (.mapping base)) (hr : (b.merge p).at? path = some (.mapping r)) :
    r = mergeEntries base (p.entriesAt path) := by
  induction path generalizing b p with
  | nil =>
    obtain rfl := Option.some.inj h
    cases p with
    | null =>
      rw [merge_null] at hr
      cases hr
      rfl
    | mapping patch =>
      rw [merge] at hr
      cases hr
      rfl
    | _ => cases hr
  | cons k path ih =>
    obtain ⟨entries, x, rfl, hx, hv⟩ := at?_cons_eq_some_iff.mp h
    cases p with
    | null =>
      rw [merge_null, h] at hr
      cases hr
      rw [entriesAt_null, mergeEntries]
    | mapping patch =>
      rw [merge, at?, lookup_mergeEntries_of_base hb.distinct hp.distinct hx] at hr
      obtain ⟨k', hmem, -⟩ := exists_of_lookup hx
      rw [entriesAt_cons]
      exact ih (hb.value _ hmem) (hp.under k) hv hr
    | _ => cases hr

theorem Proper.at? (hb : b.Proper) (h : b.at? path = some v) : v.Proper := by
  induction path generalizing b with
  | nil =>
    obtain rfl := Option.some.inj h
    exact hb
  | cons k path ih =>
    obtain ⟨entries, x, rfl, hx, hv⟩ := at?_cons_eq_some_iff.mp h
    obtain ⟨k', hmem, -⟩ := exists_of_lookup hx
    exact ih (hb.value _ hmem) hv

theorem Proper.entriesAt (hp : p.Proper) (path : List Value) : Distinct (p.entriesAt path) := by
  rw [Value.entriesAt]
  split
  · rename_i entries h
    exact (hp.at? h).distinct
  · exact .nil

end NodeSurvey.Yaml.Value
