import Mathlib.Data.List.Sort
import NodeSurvey.Proofs.Dict
import NodeSurvey.Source.Registry

/-! What a request comes to. Going through the registry takes names off a set until only those of no
source are left, so neither the order of a request nor its repetitions and blanks count, but for the
name that stands for all sources: it has to be the only element. -/

namespace NodeSurvey.Registry

variable {request other : List String} {c : Choice} {s : Source} {n : String}

/-- A name that a request asks for. -/
def IsRequested (request : List String) (n : String) : Prop :=
  n ≠ "" ∧ n ∈ request.map Text.trimString

def IsAllAlone (request : List String) : Prop :=
  ∃ name, request = [name] ∧ Text.trimString name = allName

theorem mem_requestedNames : n ∈ requestedNames request ↔ IsRequested request n := by
  rw [requestedNames, List.mem_filter, IsRequested, and_comm]
  simp

theorem isForAll_iff : isForAll request = true ↔ IsAllAlone request := by
  match request with
  | [] => simp [isForAll, IsAllAlone]
  | [name] => simp [isForAll, IsAllAlone]
  | _ :: _ :: _ => simp [isForAll, IsAllAlone]

theorem isForAll_eq_false_iff : isForAll request = false ↔ ¬ IsAllAlone request := by
  rw [← isForAll_iff, Bool.not_eq_true]

theorem mem_sortedNames {names : List String} : n ∈ sortedNames names ↔ n ∈ names := by
  rw [sortedNames, Dict.keys, ← not_iff_not, ← Dict.find_eq_none_iff]
  change (Dict.ofList _).get? n = none ↔ _
  rw [Option.eq_none_iff_forall_ne_some]
  simp [Dict.get?_ofList_const]

theorem pairwise_sortedNames (names : List String) : (sortedNames names).Pairwise (· < ·) := by
  rw [sortedNames, Dict.keys, List.pairwise_map]
  exact (Dict.ofList _).sorted

theorem nodup_sortedNames (names : List String) : (sortedNames names).Nodup :=
  Dict.nodup_keys _

section Offer

/-! One source takes its own name off, and the whole registry the names of all its sources. -/

theorem wanted_offer (hc : c.wanted.Nodup) :
    (c.offer s).wanted = c.wanted.filter fun n => n ≠ s.name := by
  rw [Choice.offer]
  split
  · rw [hc.erase_eq_filter]
    refine List.filter_congr fun n _ => ?_
    by_cases hn : n = s.name <;> simp [hn]
  · rename_i hs
    refine (List.filter_eq_self.mpr fun n hn => ?_).symm
    have hne : n ≠ s.name := fun e => hs (by simpa [← e] using hn)
    simpa using hne

theorem nodup_wanted_offer (hc : c.wanted.Nodup) : (c.offer s).wanted.Nodup := by
  rw [wanted_offer hc]
  exact hc.filter _

theorem active_offer :
    (c.offer s).active = c.active ++ [s].filter fun s => s.name ∈ c.wanted := by
  rw [Choice.offer]
  split <;> simp_all

theorem wanted_foldl_offer (hc : c.wanted.Nodup) (sources : List Source) :
    (sources.foldl Choice.offer c).wanted =
      c.wanted.filter fun n => n ∉ sources.map (·.name) := by
  induction sources generalizing c with
  | nil => simp
  | cons s sources ih =>
    rw [List.foldl_cons, ih (nodup_wanted_offer hc), wanted_offer hc, List.filter_filter]
    refine List.filter_congr fun n _ => ?_
    by_cases hn : n = s.name <;> simp [hn, List.mem_map, eq_comm]

/-- No source takes the name of a later one, so each is chosen by what was wanted in the beginning. -/
theorem active_foldl_offer (hc : c.wanted.Nodup) {sources : List Source}
    (hs : (sources.map (·.name)).Nodup) :
    (sources.foldl Choice.offer c).active =
      c.active ++ sources.filter fun s => s.name ∈ c.wanted := by
  induction sources generalizing c with
  | nil => simp
  | cons s sources ih =>
    obtain ⟨hfresh, hs⟩ := List.nodup_cons.mp hs
    have hlater : sources.filter (fun t => t.name ∈ (c.offer s).wanted) =
        sources.filter fun t => t.name ∈ c.wanted := by
      refine List.filter_congr fun t ht => ?_
      have hne : t.name ≠ s.name := fun e => hfresh (List.mem_map.mpr ⟨t, ht, e⟩)
      simp [wanted_offer hc, hne]
    rw [List.foldl_cons, ih (nodup_wanted_offer hc) hs, hlater, active_offer, List.append_assoc,
      ← List.filter_append, List.singleton_append]

end Offer

theorem nodup_names : (known.map (·.name)).Nodup := by decide

theorem not_mem_names_empty : "" ∉ known.map (·.name) := by decide

/-- The names that a request asks for and no source has, each once and in order. -/
def unknownNames (request : List String) : List String :=
  (sortedNames (requestedNames request)).filter fun n => n ∉ known.map (·.name)

theorem value_select (request : List String) :
    (select request).value =
      if isForAll request then production
      else known.filter fun s => (requestedNames request).contains s.name := by
  have hwanted : known.filter (fun s => s.name ∈ (Choice.ofRequest request).wanted) =
      known.filter fun s => (requestedNames request).contains s.name := by
    simp [Choice.ofRequest, mem_sortedNames]
  have hactive : (known.foldl Choice.offer (.ofRequest request)).active = _ :=
    (active_foldl_offer (nodup_sortedNames _) nodup_names).trans (List.nil_append _)
  rw [select, ← hwanted, ← hactive]
  generalize known.foldl Choice.offer (.ofRequest request) = choice
  dsimp only
  split
  · rfl
  · split <;> rfl

theorem notices_select (request : List String) :
    (select request).notices =
      if isForAll request = true ∨ unknownNames request = [] then []
      else [.unknownSources (unknownNames request)] := by
  have hleft : (known.foldl Choice.offer (.ofRequest request)).wanted = unknownNames request :=
    wanted_foldl_offer (nodup_sortedNames _) known
  rw [select, ← hleft]
  generalize known.foldl Choice.offer (.ofRequest request) = choice
  cases isForAll request with
  | true => simp [Logged.notices_pure]
  | false =>
    cases hw : choice.wanted with
    | nil => simp [hw, Logged.notices_pure]
    | cons n names =>
      simp only [hw, List.isEmpty_cons, Bool.false_eq_true, if_false, false_or, reduceCtorEq]
      rfl

theorem mem_unknownNames :
    n ∈ unknownNames request ↔ IsRequested request n ∧ ∀ s ∈ known, s.name ≠ n := by
  rw [unknownNames, List.mem_filter, mem_sortedNames, mem_requestedNames]
  simp

theorem pairwise_unknownNames (request : List String) :
    (unknownNames request).Pairwise (· < ·) :=
  (pairwise_sortedNames _).filter _

section Names

variable (h : ∀ n, IsRequested request n ↔ IsRequested other n)
include h

theorem unknownNames_congr : unknownNames request = unknownNames other :=
  (pairwise_unknownNames request).eq_of_mem_iff (pairwise_unknownNames other) fun n => by
    rw [mem_unknownNames, mem_unknownNames, h]

theorem contains_requestedNames_congr (n : String) :
    (requestedNames request).contains n = (requestedNames other).contains n := by
  rw [Bool.eq_iff_iff, List.contains_iff_mem, List.contains_iff_mem, mem_requestedNames,
    mem_requestedNames, h]

end Names

theorem contains_requestedNames (hs : s ∈ known) :
    (requestedNames request).contains s.name = decide (s.name ∈ request.map Text.trimString) := by
  have hne : s.name ≠ "" := fun e => not_mem_names_empty (e ▸ List.mem_map_of_mem hs)
  rw [Bool.eq_iff_iff, List.contains_iff_mem, mem_requestedNames, IsRequested, decide_eq_true_iff]
  exact and_iff_right hne

/-- The sources for use and those for tests are chosen in this order, each once, if their names are
among the trimmed names of a request. The other names are reported, each once and in order. Which
names a request has is all that counts. -/
theorem select_inOrder (request : List String) (hr : ¬ IsAllAlone request) :
    (select request).value =
      (production ++ testing).filter (fun s => s.name ∈ request.map Text.trimString) ∧
    ((select request).value.map (·.name)).Nodup ∧
    (∃ unknown : List String, unknown.Pairwise (· < ·) ∧
      (∀ n, n ∈ unknown ↔ IsRequested request n ∧ ∀ s ∈ production ++ testing, s.name ≠ n) ∧
      (select request).notices = if unknown = [] then [] else [.unknownSources unknown]) ∧
    ∀ other : List String, ¬ IsAllAlone other →
      (∀ n, IsRequested request n ↔ IsRequested other n) →
      (select request).value = (select other).value ∧
        (select request).notices = (select other).notices := by
  have hnot : isForAll request = false := isForAll_eq_false_iff.mpr hr
  have hvalue : (select request).value =
      known.filter fun s => (requestedNames request).contains s.name := by
    rw [value_select, hnot]
    rfl
  refine ⟨?_, ?_, ⟨unknownNames request, pairwise_unknownNames request,
    fun n => mem_unknownNames, ?_⟩, fun other ho hsame => ⟨?_, ?_⟩⟩
  · rw [hvalue]
    exact List.filter_congr fun s hs => contains_requestedNames hs
  · rw [hvalue]
    exact nodup_names.sublist (List.filter_sublist.map _)
  · rw [notices_select, hnot]
    simp
  · rw [hvalue, value_select other, isForAll_eq_false_iff.mpr ho]
    exact List.filter_congr fun _ _ => contains_requestedNames_congr hsame _
  · rw [notices_select, notices_select, hnot, isForAll_eq_false_iff.mpr ho,
      unknownNames_congr hsame]

/-- A request with blanks, repetitions and two names of no source. -/
theorem select_inOrder_mixed :
    let request := [" usb", "zz", "", "cpu\t", "all", "usb", "zz "]
    let other := ["all", "cpu", "usb", " zz"]
    ¬ IsAllAlone request ∧ ¬ IsAllAlone other ∧
      (select request).value.map (·.name) = ["cpu", "usb"] ∧
      (select request).notices = [.unknownSources ["all", "zz"]] ∧
      (select request).value = (select other).value := by
  intro request other
  have hr : ¬ IsAllAlone request := isForAll_eq_false_iff.mp (by decide)
  have ho : ¬ IsAllAlone other := isForAll_eq_false_iff.mp (by decide)
  have hsub : ∀ n ∈ requestedNames request, n ∈ requestedNames other := by decide +kernel
  have hsup : ∀ n ∈ requestedNames other, n ∈ requestedNames request := by decide +kernel
  obtain ⟨hvalue, -, -, hsame⟩ := select_inOrder request hr
  refine ⟨hr, ho, ?_, by decide +kernel, (hsame other ho fun n => ?_).1⟩
  · rw [hvalue]
    decide +kernel
  · rw [← mem_requestedNames, ← mem_requestedNames]
    exact ⟨hsub n, hsup n⟩

theorem isRequested_iff_of_all (hall : allName ∈ requestedNames request)
    (hone : ∀ n ∈ requestedNames request, n = allName) (n : String) :
    IsRequested request n ↔ n = allName := by
  rw [← mem_requestedNames]
  exact ⟨hone n, fun hn => hn ▸ hall⟩

/-- A request that names nothing but all sources gets them as its only element. With a blank or a
repetition beside it, it gets none, and its name is reported as that of no source. -/
theorem select_ofAll (request : List String)
    (hr : ∀ n, IsRequested request n ↔ n = allName) :
    (request.length = 1 →
      (select request).value = production ∧ (select request).notices = []) ∧
    (request.length ≠ 1 →
      (select request).value = [] ∧
        (select request).notices = [.unknownSources [allName]]) := by
  constructor
  · intro hlength
    obtain ⟨name, rfl⟩ := List.length_eq_one_iff.mp hlength
    have hname : Text.trimString name = allName := by
      simpa [eq_comm] using ((hr allName).mpr rfl).2
    have hall : isForAll [name] = true := isForAll_iff.mpr ⟨name, rfl, hname⟩
    rw [value_select, notices_select, hall]
    simp
  · intro hlength
    have hall : isForAll request = false := isForAll_eq_false_iff.mpr <| by
      rintro ⟨name, rfl, -⟩
      exact hlength rfl
    have hfree : ∀ s ∈ known, s.name ≠ allName := by decide
    have hunknown : unknownNames request = [allName] := by
      refine (pairwise_unknownNames request).eq_of_mem_iff (List.pairwise_singleton _ _) fun n => ?_
      rw [mem_unknownNames, hr, List.mem_singleton]
      exact and_iff_left_of_imp fun hn => hn ▸ hfree
    have hnone : known.filter (fun s => (requestedNames request).contains s.name) = [] := by
      refine List.filter_eq_nil_iff.mpr fun s hs hc => hfree s hs ?_
      exact (hr s.name).mp (mem_requestedNames.mp (List.contains_iff_mem.mp hc))
    rw [value_select, notices_select, hall, hunknown, hnone]
    simp

/-- Blanks around the name do not matter, an element beside it does. -/
theorem select_ofAll_repeated :
    let repeated := ["all", " ", "\tall"]
    (∀ n, IsRequested [" all\n"] n ↔ n = allName) ∧ (∀ n, IsRequested repeated n ↔ n = allName) ∧
      (select [" all\n"]).value = production ∧
      (select repeated).value = [] ∧ (select repeated).notices = [.unknownSources ["all"]] := by
  intro repeated
  have hblank : ∀ n, IsRequested [" all\n"] n ↔ n = allName :=
    isRequested_iff_of_all (by decide) (by decide)
  have hrepeated : ∀ n, IsRequested repeated n ↔ n = allName :=
    isRequested_iff_of_all (by decide) (by decide)
  exact ⟨hblank, hrepeated, ((select_ofAll _ hblank).1 rfl).1,
    (select_ofAll _ hrepeated).2 (by decide)⟩

/-- An empty element behind the name is enough to lose all sources. -/
theorem select_ofAll_trailing :
    ¬ ∀ request : List String, (∀ n, IsRequested request n ↔ n = allName) →
      (select request).value = production ∧ (select request).notices = [] := by
  intro hall
  have htrailing : ∀ n, IsRequested ["all", ""] n ↔ n = allName :=
    isRequested_iff_of_all (by decide) (by decide)
  have hquiet : (select ["all", ""]).notices = [] := (hall _ htrailing).2
  exact absurd hquiet (by decide +kernel)

end NodeSurvey.Registry
