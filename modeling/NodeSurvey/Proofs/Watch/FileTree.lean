import NodeSurvey.Config.Reload

/-! The files around an agent, as a tree without links, and the changes that happen to it. A change
touches one or two places; a place is seen as before unless one of them lies on the way to it. -/

namespace NodeSurvey.Watch

/-- A file, with what comes of reading it, or a directory. -/
inductive FileTree where
  | file (content : FileState)
  | directory (entries : String → Option FileTree)

namespace FileTree

def at? : FileTree → List String → Option FileTree
  | t, [] => some t
  | .file _, _ :: _ => none
  | .directory entries, n :: r => (entries n).bind fun t => t.at? r

def isThere (t : FileTree) (place : List String) : Bool := (t.at? place).isSome

theorem at?_append (t : FileTree) (p q : List String) :
    t.at? (p ++ q) = (t.at? p).bind (·.at? q) := by
  induction p generalizing t with
  | nil => rfl
  | cons n p ih =>
    cases t with
    | file content => rfl
    | directory entries => cases he : entries n <;> simp [at?, he, ih]

theorem isThere_above {t : FileTree} {p q : List String} (h : p <+: q)
    (hq : t.isThere q = true) : t.isThere p = true := by
  obtain ⟨r, rfl⟩ := h
  rw [isThere, at?_append] at hq
  rw [isThere]
  cases ha : t.at? p with
  | none => simp [ha] at hq
  | some _ => rfl

theorem isThere_root (t : FileTree) : t.isThere [] = true := by
  cases t <;> rfl

def isDirectory (t : FileTree) (place : List String) : Bool :=
  match t.at? place with
  | some (.directory _) => true
  | _ => false

def found : FileTree → List String → FileState
  | .file content, [] => content
  | .directory _, [] => .error .isADirectory
  | .file _, _ :: _ => .error .notADirectory
  | .directory entries, n :: r =>
    match entries n with
    | some t => t.found r
    | none => .error .notFound

def put : FileTree → List String → Option FileTree → FileTree
  | t, [], new => new.getD t
  | .file content, _ :: _, _ => .file content
  | .directory entries, [n], new => .directory fun m => if m = n then new else entries m
  | .directory entries, n :: r, new =>
    .directory fun m => if m = n then (entries n).map fun t => t.put r new else entries m

theorem put_cons (entries : String → Option FileTree) (n : String) {r : List String} (hr : r ≠ [])
    (new : Option FileTree) :
    (directory entries).put (n :: r) new =
      .directory fun m => if m = n then (entries n).map fun t => t.put r new else entries m := by
  cases r with
  | nil => exact absurd rfl hr
  | cons k r => rfl

theorem isThere_put {place other : List String} (h : ¬ place <+: other) (t : FileTree)
    (new : Option FileTree) : (t.put place new).isThere other = t.isThere other := by
  induction place generalizing t other with
  | nil => exact absurd (List.nil_prefix) h
  | cons n r ih =>
    cases t with
    | file content => rfl
    | directory entries =>
      cases other with
      | nil => cases r <;> rfl
      | cons m other =>
        by_cases hm : m = n
        · subst hm
          have hr : ¬ r <+: other := fun hp => h ((List.cons_prefix_cons).mpr ⟨rfl, hp⟩)
          have hne : r ≠ [] := fun he => hr (he ▸ List.nil_prefix)
          rw [put_cons entries m hne]
          cases he : entries m with
          | none => simp [isThere, at?, he]
          | some t =>
            have hi := ih hr t
            simp only [isThere] at hi
            simp [isThere, at?, he, hi]
        · cases r <;> simp [put, isThere, at?, hm]

theorem found_put {place other : List String} (h : ¬ place <+: other) (t : FileTree)
    (new : Option FileTree) : (t.put place new).found other = t.found other := by
  induction place generalizing t other with
  | nil => exact absurd (List.nil_prefix) h
  | cons n r ih =>
    cases t with
    | file content => rfl
    | directory entries =>
      cases other with
      | nil => cases r <;> rfl
      | cons m other =>
        by_cases hm : m = n
        · subst hm
          have hr : ¬ r <+: other := fun hp => h ((List.cons_prefix_cons).mpr ⟨rfl, hp⟩)
          have hne : r ≠ [] := fun he => hr (he ▸ List.nil_prefix)
          rw [put_cons entries m hne]
          cases he : entries m with
          | none => simp [found, he]
          | some t => simp [found, he, ih hr t]
        · cases r <;> simp [put, found, hm]

inductive Change where
  /-- Something is put where nothing was. -/
  | create (place : List String) (new : FileTree)
  | write (place : List String) (content : FileState)
  | remove (place : List String)
  /-- Whatever is at a place is moved, and takes the place of what was there. -/
  | rename (source target : List String)

namespace Change

def touched : Change → List (List String)
  | .create place _ | .write place _ | .remove place => [place]
  | .rename source target => [source, target]

/-- The places where something else, or nothing, is after a change. -/
def unseated : Change → List (List String)
  | .write .. => []
  | c => c.touched

theorem unseated_subset (c : Change) : c.unseated ⊆ c.touched := by
  cases c <;> simp [unseated, touched]

end Change

/-- The tree after a change, if the change is possible. Only a directory holds entries, and nothing
can be moved below itself. -/
def change? (t : FileTree) : Change → Option FileTree
  | .create place new =>
    if !t.isThere place && t.isDirectory place.dropLast then some (t.put place (some new)) else none
  | .write place content =>
    match t.at? place with
    | some (.file _) => some (t.put place (some (.file content)))
    | _ => none
  | .remove place =>
    if place ≠ [] ∧ t.isThere place = true then some (t.put place none) else none
  | .rename source target =>
    match t.at? source with
    | some moved =>
      if ¬ source <+: target ∧ target ≠ [] ∧ t.isDirectory target.dropLast = true then
        some ((t.put source none).put target (some moved))
      else none
    | none => none

theorem isThere_of_isDirectory {t : FileTree} {place : List String}
    (h : t.isDirectory place = true) : t.isThere place = true := by
  rw [isDirectory] at h
  split at h
  · rename_i entries ha
    simp [isThere, ha]
  · cases h

theorem isThere_of_touched {t t' : FileTree} {c : Change} (h : t.change? c = some t')
    {place : List String} (hp : place ∈ c.touched) : t.isThere place.dropLast = true := by
  have habove : t.isThere place = true → t.isThere place.dropLast = true :=
    isThere_above (List.dropLast_prefix place)
  cases c with
  | create p new =>
    obtain rfl := List.mem_singleton.mp hp
    rw [change?] at h
    split at h
    · rename_i hc
      exact isThere_of_isDirectory (Bool.and_eq_true .. ▸ hc).2
    · cases h
  | write p content =>
    obtain rfl := List.mem_singleton.mp hp
    rw [change?] at h
    split at h
    · rename_i ha
      exact habove (by simp [isThere, ha])
    · cases h
  | remove p =>
    obtain rfl := List.mem_singleton.mp hp
    rw [change?] at h
    split at h
    · rename_i hc
      exact habove hc.2
    · cases h
  | rename source target =>
    rw [change?] at h
    split at h
    · rename_i moved ha
      split at h
      · rename_i hc
        rcases List.mem_cons.mp hp with rfl | hp
        · exact habove (by simp [isThere, ha])
        · obtain rfl := List.mem_singleton.mp hp
          exact isThere_of_isDirectory hc.2.2
      · cases h
    · cases h

theorem change?_elsewhere {t t' : FileTree} {c : Change} (h : t.change? c = some t')
    {other : List String} (ho : ∀ place ∈ c.touched, ¬ place <+: other) :
    t'.isThere other = t.isThere other ∧ t'.found other = t.found other := by
  cases c with
  | create p new =>
    have hp := ho p List.mem_cons_self
    rw [change?] at h
    split at h
    · obtain rfl := Option.some.inj h
      exact ⟨isThere_put hp t _, found_put hp t _⟩
    · cases h
  | write p content =>
    have hp := ho p List.mem_cons_self
    rw [change?] at h
    split at h
    · obtain rfl := Option.some.inj h
      exact ⟨isThere_put hp t _, found_put hp t _⟩
    · cases h
  | remove p =>
    have hp := ho p List.mem_cons_self
    rw [change?] at h
    split at h
    · obtain rfl := Option.some.inj h
      exact ⟨isThere_put hp t _, found_put hp t _⟩
    · cases h
  | rename source target =>
    have hs := ho source List.mem_cons_self
    have ht := ho target (List.mem_cons_of_mem _ List.mem_cons_self)
    rw [change?] at h
    split at h
    · split at h
      · obtain rfl := Option.some.inj h
        exact ⟨(isThere_put ht _ _).trans (isThere_put hs t _),
          (found_put ht _ _).trans (found_put hs t _)⟩
      · cases h
    · cases h

end FileTree

end NodeSurvey.Watch
