import Mathlib.Data.List.Pairwise
import Mathlib.Data.Set.Basic
import NodeSurvey.Proofs.Settings.Plain

/-! Records in documents, part by part. What a record is read from comes apart into what each of its
parts is read from, and what is laid over it into what is laid over each part. -/

namespace NodeSurvey.Settings

open Yaml

/-- A part of a record, the name that it has in documents, and how it is read from them. -/
structure Slot (ρ : Type) where
  name : String
  Content : Type
  decoder : Decoder Content
  get : ρ → Content

namespace Slot

variable {ρ : Type}

/-- The part holds what was read for it or, if nothing was, what it held before. -/
def Reads (s : Slot ρ) (found : Option Value) (old new : ρ) : Prop :=
  match found with
  | none => s.get new = s.get old
  | some v => s.decoder v = .ok (s.get new)

@[simp] theorem reads_none {s : Slot ρ} {old new : ρ} :
    s.Reads none old new ↔ s.get new = s.get old := Iff.rfl

@[simp] theorem reads_some {s : Slot ρ} {v : Value} {old new : ρ} :
    s.Reads (some v) old new ↔ s.decoder v = .ok (s.get new) := Iff.rfl

end Slot

/-- A part of a record into which what was read is put. -/
structure Column (ρ : Type) extends Slot ρ where
  put : ρ → Content → ρ
  get_put : ∀ r v a, decoder v = .ok a → get (put r a) = a

/-- A way to read entries one by one: each fills the column that has its name, if there is one, and
leaves the others alone. -/
structure Reading {ρ : Type} (columns : Set (Column ρ))
    (step : ρ → String × Value → Except DecodeError ρ) : Prop where
  eq_of_name : ∀ f ∈ columns, ∀ g ∈ columns, f.name = g.name → f = g
  get_put_of_ne : ∀ f ∈ columns, ∀ g ∈ columns, f.name ≠ g.name →
    ∀ r a, g.get (f.put r a) = g.get r
  step_cases : ∀ e, ((∀ f ∈ columns, f.name ≠ e.1) ∧ ∀ r, step r e = .ok r) ∨
    ∃ f ∈ columns, f.name = e.1 ∧ ∀ r, step r e = (f.decoder e.2).map (f.put r)

namespace Reading

variable {ρ : Type} {columns : Set (Column ρ)}
  {step : ρ → String × Value → Except DecodeError ρ} {m : List (String × Value)}

theorem isOk_foldlM_iff (h : Reading columns step) (hm : (m.map Prod.fst).Nodup) (r : ρ) :
    (m.foldlM step r).isOk = true ↔
      ∀ f ∈ columns, ∀ v, Dict.find f.name m = some v → (f.decoder v).isOk = true := by
  induction m generalizing r with
  | nil => simp [Dict.find, pure, Except.pure, Except.isOk, Except.toBool]
  | cons e m ih =>
    obtain ⟨hname, hm⟩ := List.nodup_cons.mp hm
    rw [List.foldlM_cons]
    rcases h.step_cases e with ⟨hne, hr⟩ | ⟨f, hf, hfe, hr⟩
    · rw [hr]
      refine (ih hm r).trans (forall₂_congr fun g hg => ?_)
      simp [Dict.find, hne g hg]
    · rw [hr]
      cases hv : f.decoder e.2 with
      | error x =>
        refine ⟨fun h => absurd h Bool.false_ne_true, fun hall => ?_⟩
        have hok := hall f hf e.2 (by simp [Dict.find, hfe])
        rw [hv] at hok
        exact hok
      | ok a =>
        refine (ih hm (f.put r a)).trans (forall₂_congr fun g hg => ?_)
        by_cases hg' : g.name = e.1
        · obtain rfl := h.eq_of_name g hg f hf (hg'.trans hfe.symm)
          have hn : Dict.find e.1 m = none := Dict.find_eq_none_iff.mpr hname
          simp [Dict.find, hg', hn, hv, Except.isOk, Except.toBool]
        · simp [Dict.find, hg']

theorem reads_of_foldlM (h : Reading columns step) (hm : (m.map Prod.fst).Nodup) {r r' : ρ}
    (hr' : m.foldlM step r = .ok r') :
    ∀ f ∈ columns, f.Reads (Dict.find f.name m) r r' := by
  induction m generalizing r with
  | nil =>
    cases hr'
    exact fun f _ => rfl
  | cons e m ih =>
    obtain ⟨hname, hm⟩ := List.nodup_cons.mp hm
    rw [List.foldlM_cons] at hr'
    intro g hg
    rcases h.step_cases e with ⟨hne, hr⟩ | ⟨f, hf, hfe, hr⟩
    · rw [hr] at hr'
      have hreads := ih hm hr' g hg
      simpa [Dict.find, hne g hg] using hreads
    · rw [hr] at hr'
      cases hv : f.decoder e.2 with
      | error x =>
        rw [hv] at hr'
        cases hr'
      | ok a =>
        rw [hv] at hr'
        have hreads := ih hm hr' g hg
        by_cases hg' : g.name = e.1
        · obtain rfl := h.eq_of_name g hg f hf (hg'.trans hfe.symm)
          have hn : Dict.find e.1 m = none := Dict.find_eq_none_iff.mpr hname
          rw [hg', hn, Slot.reads_none, g.get_put r e.2 a hv] at hreads
          simp [Dict.find, hg', hv, hreads]
        · have hput : g.get (f.put r a) = g.get r :=
            h.get_put_of_ne f hf g hg (fun hn => hg' (hn.symm.trans hfe)) r a
          cases hfind : Dict.find g.name m with
          | none =>
            rw [hfind, Slot.reads_none, hput] at hreads
            simpa [Dict.find, hg', hfind] using hreads
          | some v =>
            rw [hfind, Slot.reads_some] at hreads
            simpa [Dict.find, hg', hfind] using hreads

end Reading

/-- Reads one entry of a record, as if it were the only one with its name. -/
def readEntry {ρ : Type} (known : List (Decode.Field ρ)) (r : ρ) (e : String × Value) :
    Except DecodeError ρ :=
  match known.lookup e.1 with
  | none => .ok r
  | some put => put e.2 r

/-- As long as no name occurs twice, the entries are read one by one. -/
theorem fields_eq_foldlM {ρ : Type} (known : List (Decode.Field ρ)) {m : List (String × Value)}
    (hm : (m.map Prod.fst).Nodup) {seen : List String} (hs : ∀ name ∈ m.map Prod.fst, name ∉ seen)
    (r : ρ) :
    Decode.fields known seen r (m.map fun e => (.string e.1, e.2)) =
      m.foldlM (readEntry known) r := by
  induction m generalizing seen r with
  | nil => rfl
  | cons e m ih =>
    obtain ⟨name, v⟩ := e
    obtain ⟨hname, hm⟩ := List.nodup_cons.mp hm
    have hs' : ∀ n ∈ m.map Prod.fst, n ∉ seen := fun n hn => hs n (List.mem_cons_of_mem _ hn)
    simp only [List.map_cons, List.foldlM_cons, Decode.fields, Value.untagged, readEntry]
    cases hl : known.lookup name with
    | none => exact ih hm hs' r
    | some put =>
      have hnew : seen.contains name = false := by simpa using hs name List.mem_cons_self
      have hseen : ∀ n ∈ m.map Prod.fst, n ∉ name :: seen := by
        intro n hn hmem
        rcases List.mem_cons.mp hmem with rfl | h
        · exact hname hn
        · exact hs' n hn h
      simp only [hnew, Bool.false_eq_true, if_false]
      exact bind_congr fun r => ih hm hseen r

/-- A column that is also written, and read back from what was written. -/
structure Member (ρ : Type) extends Column ρ where
  encode : Content → Value
  decode_encode : ∀ a, decoder (encode a) = .ok a

namespace Member

variable {ρ : Type}

def known (f : Member ρ) : Decode.Field ρ := Decode.field f.name f.decoder f.put

/-- Filling one of two members does not touch the other. -/
def Independent (f g : Member ρ) : Prop :=
  (∀ r a, g.get (f.put r a) = g.get r) ∧ ∀ r a, f.get (g.put r a) = f.get r

instance : Std.Symm (@Independent ρ) := ⟨fun _ _ => And.symm⟩

end Member

/-- The layout of a record in documents. No name occurs twice, each member is independent of the
others, and together they are the whole record. -/
structure Layout (ρ : Type) [Documented ρ] where
  title : String
  defaults : ρ
  members : List (Member ρ)
  nodup : (members.map (·.name)).Nodup
  independent : members.Pairwise Member.Independent
  ext : ∀ a b : ρ, (∀ f ∈ members, f.get a = f.get b) → a = b
  encode_eq : ∀ r : ρ,
    encode r = encodeFields (members.map fun f => (f.name, f.encode (f.get r)))
  decode_eq : (decode : Decoder ρ) = Decode.record title defaults (members.map Member.known)

namespace Layout

variable {ρ : Type} [Documented ρ] (l : Layout ρ)

theorem exists_of_lookup_known {name : String} {put : Value → ρ → Except DecodeError ρ}
    (h : (l.members.map Member.known).lookup name = some put) :
    ∃ f ∈ l.members, f.name = name ∧ put = fun v r => (f.decoder v).map (f.put r) := by
  obtain ⟨before, after, hsplit, -⟩ := List.lookup_eq_some_iff.mp h
  have hm : (name, put) ∈ l.members.map Member.known := by simp [hsplit]
  obtain ⟨f, hf, hk⟩ := List.mem_map.mp hm
  obtain ⟨hname, hput⟩ := Prod.mk.inj hk
  exact ⟨f, hf, hname, hput.symm⟩

def columns : Set (Column ρ) := {f | ∃ g ∈ l.members, g.toColumn = f}

theorem reading : Reading l.columns (readEntry (l.members.map Member.known)) where
  eq_of_name := by
    rintro _ ⟨f, hf, rfl⟩ _ ⟨g, hg, rfl⟩ h
    rw [List.inj_on_of_nodup_map l.nodup hf hg h]
  get_put_of_ne := by
    rintro _ ⟨f, hf, rfl⟩ _ ⟨g, hg, rfl⟩ h
    have hne : f ≠ g := fun e => h (e ▸ rfl)
    exact (l.independent.forall hf hg hne).1
  step_cases e := by
    cases hl : (l.members.map Member.known).lookup e.1 with
    | none =>
      refine .inl ⟨?_, fun r => by rw [readEntry, hl]⟩
      rintro _ ⟨f, hf, rfl⟩ he
      have hk := List.lookup_eq_none_iff.mp hl f.known (List.mem_map_of_mem hf)
      simp [Member.known, Decode.field, he] at hk
    | some put =>
      obtain ⟨f, hf, hname, rfl⟩ := l.exists_of_lookup_known hl
      exact .inr ⟨f.toColumn, ⟨f, hf, rfl⟩, hname, fun r => by rw [readEntry, hl]⟩

theorem isOk_read_iff {m : List (String × Value)} (hm : (m.map Prod.fst).Nodup)
    {w : Member ρ → Value} (hw : ∀ f ∈ l.members, Dict.find f.name m = some (w f)) :
    (m.foldlM (readEntry (l.members.map Member.known)) l.defaults).isOk = true ↔
      ∀ f ∈ l.members, (f.decoder (w f)).isOk = true := by
  rw [l.reading.isOk_foldlM_iff hm]
  constructor
  · intro h f hf
    exact h f.toColumn ⟨f, hf, rfl⟩ _ (hw f hf)
  · rintro h _ ⟨f, hf, rfl⟩ v hv
    rw [hw f hf] at hv
    obtain rfl := Option.some.inj hv
    exact h f hf

theorem decoder_of_read {m : List (String × Value)} (hm : (m.map Prod.fst).Nodup)
    {w : Member ρ → Value} (hw : ∀ f ∈ l.members, Dict.find f.name m = some (w f)) {r : ρ}
    (h : m.foldlM (readEntry (l.members.map Member.known)) l.defaults = .ok r) :
    ∀ f ∈ l.members, f.decoder (w f) = .ok (f.get r) := by
  intro f hf
  have hr := l.reading.reads_of_foldlM hm h f.toColumn ⟨f, hf, rfl⟩
  rwa [hw f hf] at hr

/-- The entries that a record is written as. -/
def written (c : ρ) : List (String × Value) :=
  l.members.map fun f => (f.name, f.encode (f.get c))

theorem nodup_written (c : ρ) : ((l.written c).map Prod.fst).Nodup := by
  rw [written, List.map_map]
  exact l.nodup

theorem nodup_merged (c : ρ) (p : Plain) :
    ((mergeNamed (l.written c) p.entries).map Prod.fst).Nodup :=
  nodup_mergeNamed (l.nodup_written c)

theorem find_written {f : Member ρ} (hf : f ∈ l.members) (c : ρ) :
    Dict.find f.name (l.written c) = some (f.encode (f.get c)) :=
  (Dict.find_eq_some_iff (l.nodup_written c)).mpr (List.mem_map_of_mem hf)

theorem overlay_eq_foldlM (c : ρ) (p : Plain) :
    overlay c p.value =
      (mergeNamed (l.written c) p.entries).foldlM (readEntry (l.members.map Member.known))
        l.defaults := by
  have hs : ∀ name ∈ (mergeNamed (l.written c) p.entries).map Prod.fst, name ∉ ([] : List String) :=
    fun _ _ => List.not_mem_nil
  rw [overlay, l.encode_eq, Plain.value, merge_encodeFields, l.decode_eq,
    ← fields_eq_foldlM _ (l.nodup_merged c p) hs]
  rfl

theorem isOk_overlay_iff (c : ρ) (p : Plain) :
    (overlay c p.value).isOk = true ↔ ∀ f ∈ l.members,
      (f.decoder ((f.encode (f.get c)).merge (p.patchFor f.name))).isOk = true := by
  rw [l.overlay_eq_foldlM]
  exact l.isOk_read_iff (l.nodup_merged c p)
    fun f hf => p.find_mergeNamed_entries (l.find_written hf c)

theorem decoder_of_overlay {c c' : ρ} {p : Plain} (h : overlay c p.value = .ok c') :
    ∀ f ∈ l.members,
      f.decoder ((f.encode (f.get c)).merge (p.patchFor f.name)) = .ok (f.get c') := by
  rw [l.overlay_eq_foldlM] at h
  exact l.decoder_of_read (l.nodup_merged c p)
    (fun f hf => p.find_mergeNamed_entries (l.find_written hf c)) h

theorem overlay_null (l : Layout ρ) (c : ρ) : overlay c .null = .ok c := by
  let p : Plain := ⟨[], List.nodup_nil⟩
  have hnull (name : String) : p.patchFor name = .null := rfl
  have hp : overlay c .null = overlay c p.value := by
    rw [overlay, overlay, Value.merge_null, l.encode_eq, Plain.value, merge_encodeFields, mergeNamed]
  have hok : (overlay c p.value).isOk = true := by
    rw [l.isOk_overlay_iff]
    intro f _
    rw [hnull, Value.merge_null, f.decode_encode]
    rfl
  rw [hp]
  cases hr : overlay c p.value with
  | error e =>
    rw [hr] at hok
    cases hok
  | ok c' =>
    refine congrArg Except.ok (l.ext c' c fun f hf => ?_)
    have hf' := l.decoder_of_overlay hr f hf
    rw [hnull, Value.merge_null, f.decode_encode] at hf'
    exact (Except.ok.inj hf').symm

/-- A record is read back from what it is written as. -/
theorem decode_encode (l : Layout ρ) (c : ρ) : decode (encode c) = .ok c := by
  have h := l.overlay_null c
  rwa [overlay, Value.merge_null] at h

end Layout

end NodeSurvey.Settings
