import NodeSurvey.Proofs.Settings.Overlay
import NodeSurvey.Proofs.Yaml.Merge

/-! What a patch does to settings, whatever they are. If it fits one record it fits all, and what it
gives for a part of the record does not depend on what was there. -/

namespace NodeSurvey.Settings

open Yaml

section

variable {ρ β : Type}

/-- Whether something can be done does not depend on what it is done to. -/
def Blind (act : ρ → Except DecodeError ρ) : Prop := ∀ c d, (act c).isOk = (act d).isOk

/-- What is seen after an action is decided by what was seen before, in one of the given ways. -/
def Moves (view : ρ → β) (ways : Set (β → β)) (act : ρ → Except DecodeError ρ) : Prop :=
  ∃ h ∈ ways, ∀ c c', act c = .ok c' → view c' = h (view c)

/-- To stay as it is, or to become something that is always the same. -/
def keepOrSet (β : Type) : Set (β → β) := {h | h = id ∨ ∃ b, h = fun _ => b}

/-- Ways to move that go together: doing nothing is one, and so is one after the other. -/
structure Ways (ways : Set (β → β)) : Prop where
  id : id ∈ ways
  const : ∀ b, (fun _ => b) ∈ ways
  comp : ∀ g ∈ ways, ∀ h ∈ ways, g ∘ h ∈ ways

theorem ways_keepOrSet : Ways (keepOrSet β) where
  id := .inl rfl
  const b := .inr ⟨b, rfl⟩
  comp := by
    rintro g (rfl | ⟨b, rfl⟩) h hh
    · exact hh
    · exact .inr ⟨b, rfl⟩

theorem keepOrSet_again {h : β → β} (hh : h ∈ keepOrSet β) (b : β) : h (h b) = h b := by
  rcases hh with rfl | ⟨_, rfl⟩ <;> rfl

variable {ways : Set (β → β)} {view : ρ → β} {overlay : ρ → Value → Except DecodeError ρ}
  {values : List Value}

theorem moves_layAll (hw : Ways ways) (hb : ∀ v ∈ values, Blind (overlay · v))
    (hm : ∀ v ∈ values, Moves view ways (overlay · v)) :
    ∃ h ∈ ways, ∀ c, view (Config.layAll overlay c values) = h (view c) := by
  induction values with
  | nil => exact ⟨id, hw.id, fun c => rfl⟩
  | cons v values ih =>
    obtain ⟨hbv, hb⟩ := List.forall_mem_cons.mp hb
    obtain ⟨⟨g, hg, hgv⟩, hm⟩ := List.forall_mem_cons.mp hm
    obtain ⟨h, hh, hl⟩ := ih hb hm
    by_cases hok : ∃ c, (overlay c v).isOk = true
    · obtain ⟨d, hd⟩ := hok
      refine ⟨h ∘ g, hw.comp h hh g hg, fun c => ?_⟩
      have hc : (overlay c v).isOk = true := (hbv c d).trans hd
      cases hcv : overlay c v with
      | error e =>
        rw [hcv] at hc
        cases hc
      | ok c' =>
        rw [Function.comp_apply, ← hgv c c' hcv, ← hl c']
        simp [Config.layAll, hcv, Except.toOption]
    · refine ⟨h, hh, fun c => ?_⟩
      rw [← hl c]
      cases hcv : overlay c v with
      | error e => simp [Config.layAll, hcv, Except.toOption]
      | ok c' => exact absurd ⟨c, by rw [hcv]; rfl⟩ hok

theorem view_layAll_again (view : ρ → β) (hb : ∀ v ∈ values, Blind (overlay · v))
    (hm : ∀ v ∈ values, Moves view (keepOrSet β) (overlay · v)) (c : ρ) :
    view (Config.layAll overlay (Config.layAll overlay c values) values) =
      view (Config.layAll overlay c values) := by
  obtain ⟨h, hh, hl⟩ := moves_layAll ways_keepOrSet hb hm
  rw [hl, hl, keepOrSet_again hh]

end

/-! What is in a patch besides the members of a record. -/

section

variable {ρ : Type} {known : List (Decode.Field ρ)}

/-- The names of the members that were read, before those that were read earlier. -/
def readNames (known : List (Decode.Field ρ)) (names seen : List String) : List String :=
  (names.filter fun name => (known.lookup name).isSome).reverse ++ seen

/-- What was read of some entries is remembered when it comes to the others. -/
theorem fields_append (known : List (Decode.Field ρ)) (m : List (String × Value))
    (rest : List (Value × Value)) (seen : List String) (r : ρ) :
    Decode.fields known seen r (m.map (fun e => (.string e.1, e.2)) ++ rest) =
      Decode.fields known seen r (m.map fun e => (.string e.1, e.2)) >>=
        fun r' => Decode.fields known (readNames known (m.map Prod.fst) seen) r' rest := by
  induction m generalizing seen r with
  | nil => rfl
  | cons e m ih =>
    obtain ⟨name, v⟩ := e
    cases hl : known.lookup name with
    | none => simpa [Decode.fields, Value.untagged, readNames, hl] using ih seen r
    | some put =>
      have hn : readNames known (name :: m.map Prod.fst) seen =
          readNames known (m.map Prod.fst) (name :: seen) := by simp [readNames, hl]
      simp only [List.map_cons, List.cons_append, Decode.fields, Value.untagged, hl, hn]
      split
      · rfl
      · cases put v r with
        | error x => rfl
        | ok r' => exact ih (name :: seen) r'

/-- Once all members are read, the rest of the entries decides on success and on nothing else. -/
theorem fields_of_seen {seen : List String}
    (hs : ∀ name, (known.lookup name).isSome = true → name ∈ seen) (rest : List (Value × Value)) :
    ∃ x : Except DecodeError Unit, ∀ r, Decode.fields known seen r rest = x.map fun _ => r := by
  induction rest with
  | nil => exact ⟨.ok (), fun r => rfl⟩
  | cons e rest ih =>
    obtain ⟨x, hx⟩ := ih
    obtain ⟨k, v⟩ := e
    cases hk : k.untagged with
    | string name =>
      cases hl : known.lookup name with
      | none => exact ⟨x, fun r => by simpa [Decode.fields, hk, hl] using hx r⟩
      | some put =>
        have hmem := hs name (by rw [hl]; rfl)
        refine ⟨.error (.repeatedField name), fun r => ?_⟩
        simp [Decode.fields, hk, hl, hmem, Except.map]
    | _ =>
      refine ⟨.error (.mismatch (Shape.of k.untagged) "field identifier"), fun r => ?_⟩
      simp only [Decode.fields, hk, Decode.mismatch]
      rfl

end

/-- A mapping that is laid over entries with plain keys: they stay in their places, each merged with
what the mapping holds for it, and what is new follows. -/
theorem merge_encodeFields_mapping {w : List (String × Value)} (hw : (w.map Prod.fst).Nodup)
    {m : List (Value × Value)} (hm : Value.Distinct m) :
    (encodeFields w).merge (.mapping m) =
      .mapping ((w.map fun e => (.string e.1, e.2.merge (Value.under (.string e.1) m))) ++
        Value.newEntries (w.map fun e => (.string e.1, e.2)) m) := by
  rw [encodeFields, Value.merge, Value.mergeEntries_eq (.of_nodup hw) hm, List.map_map]
  rfl

namespace Layout

variable {ρ : Type} [Documented ρ] (l : Layout ρ)

/-- The members of a record, each merged with what a mapping holds under its name. -/
def laid (c : ρ) (m : List (Value × Value)) : List (String × Value) :=
  l.members.map fun f => (f.name, (f.encode (f.get c)).merge (Value.under (.string f.name) m))

theorem nodup_laid (c : ρ) (m : List (Value × Value)) : ((l.laid c m).map Prod.fst).Nodup := by
  rw [laid, List.map_map]
  exact l.nodup

/-- What is in a mapping besides the members of a record. -/
def extra (m : List (Value × Value)) : List (Value × Value) :=
  Value.newEntries (l.members.map fun f => (.string f.name, .null)) m

theorem merge_encode (c : ρ) {m : List (Value × Value)} (hm : Value.Distinct m) :
    (encode c).merge (.mapping m) =
      .mapping ((l.laid c m).map (fun e => (.string e.1, e.2)) ++ l.extra m) := by
  rw [l.encode_eq]
  refine (merge_encodeFields_mapping (l.nodup_written c) hm).trans (congrArg Value.mapping ?_)
  refine congrArg₂ (· ++ ·) ?_ (Value.newEntries_congr ?_ m)
  · simp [written, laid, Function.comp_def]
  · simp [written, Function.comp_def]

/-- A mapping that is laid over a record comes down to what it holds for the members, and to a rest
that decides on success but takes no account of the record. -/
theorem overlay_mapping {m : List (Value × Value)} (hm : Value.Distinct m) :
    ∃ x : Except DecodeError Unit, ∀ c : ρ, overlay c (.mapping m) =
      (l.laid c m).foldlM (readEntry (l.members.map Member.known)) l.defaults >>=
        fun r => x.map fun _ => r := by
  let known := l.members.map Member.known
  have hnames (c : ρ) : (l.laid c m).map Prod.fst = l.members.map (·.name) := by
    simp [laid, Function.comp_def]
  have hseen : ∀ name, (known.lookup name).isSome = true →
      name ∈ readNames known (l.members.map (·.name)) [] := by
    intro name hk
    obtain ⟨put, hp⟩ := Option.isSome_iff_exists.mp hk
    obtain ⟨f, hf, hfn, -⟩ := l.exists_of_lookup_known hp
    simpa [readNames, hk] using ⟨f, hf, hfn⟩
  obtain ⟨x, hx⟩ := fields_of_seen hseen (l.extra m)
  refine ⟨x, fun c => ?_⟩
  have hread : Decode.fields known [] l.defaults ((l.laid c m).map fun e => (.string e.1, e.2)) =
      (l.laid c m).foldlM (readEntry known) l.defaults :=
    fields_eq_foldlM known (l.nodup_laid c m) (fun _ _ => List.not_mem_nil) l.defaults
  have happend := fields_append known (l.laid c m) (l.extra m) [] l.defaults
  rw [hnames, hread] at happend
  rw [overlay, l.merge_encode c hm, l.decode_eq]
  exact happend.trans (bind_congr hx)

theorem find_laid {f : Member ρ} (hf : f ∈ l.members) (c : ρ) (m : List (Value × Value)) :
    Dict.find f.name (l.laid c m) =
      some ((f.encode (f.get c)).merge (Value.under (.string f.name) m)) :=
  (Dict.find_eq_some_iff (l.nodup_laid c m)).mpr (List.mem_map_of_mem hf)

theorem isOk_overlay_mapping {m : List (Value × Value)} (hm : Value.Distinct m) :
    ∃ b : Bool, ∀ c : ρ, (overlay c (.mapping m)).isOk = true ↔ b = true ∧ ∀ f ∈ l.members,
      (f.decoder ((f.encode (f.get c)).merge (Value.under (.string f.name) m))).isOk = true := by
  obtain ⟨x, hx⟩ := l.overlay_mapping hm
  refine ⟨x.isOk, fun c => ?_⟩
  rw [hx, ← l.isOk_read_iff (l.nodup_laid c m) fun f hf => l.find_laid hf c m]
  cases x <;> cases (l.laid c m).foldlM (readEntry (l.members.map Member.known)) l.defaults <;>
    simp [bind, Except.bind, Except.map, Except.isOk, Except.toBool]

theorem decoder_of_overlay_mapping {c c' : ρ} {m : List (Value × Value)} (hm : Value.Distinct m)
    (h : overlay c (.mapping m) = .ok c') : ∀ f ∈ l.members,
      f.decoder ((f.encode (f.get c)).merge (Value.under (.string f.name) m)) = .ok (f.get c') := by
  obtain ⟨x, hx⟩ := l.overlay_mapping hm
  rw [hx] at h
  refine l.decoder_of_read (l.nodup_laid c m) (fun f hf => l.find_laid hf c m) ?_
  cases hr : (l.laid c m).foldlM (readEntry (l.members.map Member.known)) l.defaults with
  | error e =>
    rw [hr] at h
    cases h
  | ok r =>
    rw [hr] at h
    cases x with
    | error e => cases h
    | ok _ => exact h

end Layout

section

variable {ρ β : Type}

/-- What a patch makes of the content of a member. -/
def Member.lay (f : Member ρ) (w : Value) (a : f.Content) : Except DecodeError f.Content :=
  f.decoder ((f.encode a).merge w)

variable {ways : Set (β → β)} {act : ρ → Except DecodeError ρ}

theorem Moves.of_const (hw : Ways ways) (view : ρ → β) (x : Except DecodeError ρ) :
    Moves view ways fun _ => x := by
  cases x with
  | error e => exact ⟨id, hw.id, nofun⟩
  | ok r => exact ⟨fun _ => view r, hw.const _, fun c c' h => by cases h; rfl⟩

theorem Moves.of_ok (hw : Ways ways) (view : ρ → β) (h : ∀ c, act c = .ok c) :
    Moves view ways act := by
  refine ⟨id, hw.id, fun c c' hc => ?_⟩
  rw [h c] at hc
  cases hc
  rfl

theorem Blind.of_ok (h : ∀ c, act c = .ok c) : Blind act := by
  intro c d
  rw [h c, h d]
  rfl

namespace Member

variable {f : Member ρ}

theorem lay_of_flat (hf : f.Flat) (w : Value) (a : f.Content) :
    f.lay w a = if w.isNull then .ok a else f.decoder w := by
  rw [lay]
  split
  · rename_i hn
    rw [Value.isNull_iff.mp hn, Value.merge_null, f.decode_encode]
  · rename_i hn
    rw [Value.merge_of_not_mapping (hf a) (Bool.eq_false_iff.mpr hn)]

theorem blind_of_flat (hf : f.Flat) (w : Value) : Blind (f.lay w) := by
  intro a b
  rw [lay_of_flat hf, lay_of_flat hf]
  split <;> rfl

theorem moves_of_flat (hf : f.Flat) (w : Value) : Moves id (keepOrSet f.Content) (f.lay w) := by
  cases hn : w.isNull with
  | true => exact .of_ok ways_keepOrSet _ fun a => by rw [lay_of_flat hf, hn, if_pos rfl]
  | false =>
    have hlay : f.lay w = fun _ => f.decoder w := by
      funext a
      rw [lay_of_flat hf, hn, if_neg Bool.false_ne_true]
    rw [hlay]
    exact .of_const ways_keepOrSet _ _

end Member

variable [Documented ρ] {v : Value}

theorem overlay_of_not_mapping (hn : v ≠ .null) (hm : ∀ m, v ≠ .mapping m) :
    (overlay · v : ρ → Except DecodeError ρ) = fun _ => decode v := by
  funext c
  rw [overlay, Value.merge_eq_right hn hm]

namespace Layout

variable (l : Layout ρ)

theorem blind (hf : ∀ f ∈ l.members, ∀ w : Value, w.Proper → Blind (f.lay w)) (hv : v.Proper) :
    Blind (overlay · v : ρ → Except DecodeError ρ) := by
  cases v with
  | null => exact .of_ok l.overlay_null
  | mapping m =>
    obtain ⟨b, hb⟩ := l.isOk_overlay_mapping hv.distinct
    intro c d
    refine Bool.eq_iff_iff.mpr ((hb c).trans (Iff.trans ?_ (hb d).symm))
    refine and_congr_right fun _ => forall₂_congr fun f hmem => ?_
    exact Bool.eq_iff_iff.mp (hf f hmem _ (hv.under (.string f.name)) (f.get c) (f.get d))
  | _ =>
    rw [overlay_of_not_mapping (by nofun) (by nofun)]
    exact fun _ _ => rfl

theorem moves {f : Member ρ} (hf : f ∈ l.members) (view : f.Content → β) (hw : Ways ways)
    (hv : v.Proper)
    (hm : ∀ m, v = .mapping m → Moves view ways (f.lay (Value.under (.string f.name) m))) :
    Moves (fun c => view (f.get c)) ways (overlay · v : ρ → Except DecodeError ρ) := by
  cases v with
  | null => exact .of_ok hw _ l.overlay_null
  | mapping m =>
    obtain ⟨h, hh, hmoved⟩ := hm m rfl
    refine ⟨h, hh, fun c c' hc => ?_⟩
    exact hmoved _ _ (l.decoder_of_overlay_mapping hv.distinct hc f hf)
  | _ =>
    rw [overlay_of_not_mapping (by nofun) (by nofun)]
    exact .of_const hw _ _

end Layout

end

namespace Layout

variable {ρ : Type} [Documented ρ] (l : Layout ρ) {v : Value}

theorem blind_of_flat (hl : ∀ f ∈ l.members, f.Flat) (hv : v.Proper) :
    Blind (overlay · v : ρ → Except DecodeError ρ) :=
  l.blind (fun f hf w _ => Member.blind_of_flat (hl f hf) w) hv

theorem moves_of_flat (hl : ∀ f ∈ l.members, f.Flat) (hv : v.Proper) {f : Member ρ}
    (hf : f ∈ l.members) :
    Moves f.get (keepOrSet f.Content) (overlay · v : ρ → Except DecodeError ρ) :=
  l.moves hf id ways_keepOrSet hv fun _ _ => Member.moves_of_flat (hl f hf) _

theorem layAll_again (hl : ∀ f ∈ l.members, f.Flat) {values : List Value}
    (hv : ∀ v ∈ values, v.Proper) (c : ρ) :
    Config.layAll overlay (Config.layAll overlay c values) values =
      Config.layAll overlay c values :=
  l.ext _ _ fun _ hf => view_layAll_again _ (fun v hm => l.blind_of_flat hl (hv v hm))
    (fun v hm => l.moves_of_flat hl (hv v hm) hf) c

end Layout

section

variable {v : Value} {values : List Value}

theorem blind_cpu (hv : v.Proper) : Blind (overlay · v : CpuSettings → Except DecodeError _) := by
  refine Layout.cpu.blind (List.forall_mem_singleton.mpr fun w hw => ?_) hv
  exact Layout.cpuid.blind_of_flat Layout.flat_cpuid hw

theorem cpu_layAll_again (hv : ∀ v ∈ values, v.Proper) (c : CpuSettings) :
    Config.layAll overlay (Config.layAll overlay c values) values =
      Config.layAll overlay c values := by
  suffices h : ∀ f ∈ Layout.cpuid.members, ∀ v ∈ values,
      Moves (fun c : CpuSettings => f.get c.cpuid) (keepOrSet f.Content) (overlay · v) by
    refine congrArg CpuSettings.mk (Layout.cpuid.ext _ _ fun f hf => ?_)
    exact view_layAll_again _ (fun v hm => blind_cpu (hv v hm)) (h f hf) c
  intro f hf v hm
  exact Layout.cpu.moves List.mem_cons_self f.get ways_keepOrSet (hv v hm) fun m hvm =>
    Layout.cpuid.moves_of_flat Layout.flat_cpuid ((hvm ▸ hv v hm).under _) hf

theorem overlay_custom_eq (v : Value) :
    (overlay · v : CustomSettings → Except DecodeError _) =
      if v.isNull then .ok else fun _ => decode v := by
  funext c
  rw [overlay_custom]
  split <;> rfl

theorem blind_custom (v : Value) : Blind (overlay · v : CustomSettings → Except DecodeError _) := by
  rw [overlay_custom_eq]
  split <;> exact fun _ _ => rfl

theorem custom_layAll_again (values : List Value) (c : CustomSettings) :
    Config.layAll overlay (Config.layAll overlay c values) values =
      Config.layAll overlay c values := by
  refine view_layAll_again id (fun v _ => blind_custom v) (fun v _ => ?_) c
  rw [overlay_custom_eq]
  split
  · exact .of_ok ways_keepOrSet _ fun _ => rfl
  · exact .of_const ways_keepOrSet _ _

end

end NodeSurvey.Settings
