import NodeSurvey.Host.Basic

/-! Changes to the files of a host. Directories on the way to a new entry are made as needed. -/

namespace NodeSurvey.Host

inductive Change where
  | write (path : String) (content : Content)
  | writeExecutable (path : String) (text : String)
  | makeDirectory (path : String)
  | link (path target : String)
  | delete (path : String)
  /-- Unlike deletion, removal spares directories. -/
  | removeFile (path : String)

def put (h : Host) (place : List String) (e : Entry) : Host :=
  { h with entries :=
      if (h.entries.lookup place).isSome then
        h.entries.map fun x => if x.1 = place then (place, e) else x
      else h.entries ++ [(place, e)] }

def clear (h : Host) (place : List String) : Host :=
  { h with entries := h.entries.filter fun e => !place.isPrefixOf e.1 }

/-- Makes the directories that names lead to, if nothing else is in the way. -/
def ensure (h : Host) (here : List String) : List String → Option (Host × List String)
  | [] => some (h, here)
  | name :: rest =>
    match h.walk maxLinks here [name] with
    | .ok place =>
      match h.entry? place with
      | some .directory => ensure h place rest
      | _ => none
    | .error .notFound => ensure (h.put (here ++ [name]) .directory) (here ++ [name]) rest
    | .error _ => none

/-- The host with the directory that is to hold a path, the place of that directory, and the name
of the path in it. -/
def ensureParent (h : Host) (path : String) : Option (Host × List String × String) := do
  let names := namesOf path
  let name ← names.getLast?
  let (h, place) ← h.ensure [] names.dropLast
  some (h, place, name)

/-- Writes a file. An existing file stays executable if it was. -/
def write (h : Host) (path : String) (content : Content) (executable : Bool) : Host :=
  match h.ensureParent path with
  | none => h
  | some (h, place, name) =>
    let place := match h.walk maxLinks place [name] with
      | .ok target => target
      | .error _ => place ++ [name]
    match h.entry? place with
    | some (.file _ was) => h.put place (.file content (executable || was))
    | some .directory => h
    | _ => h.put place (.file content executable)

def apply (h : Host) : Change → Host
  | .write path content => h.write path content false
  | .writeExecutable path text => h.write path (.text text) true
  | .makeDirectory path => ((h.ensure [] (namesOf path)).map Prod.fst).getD h
  | .link path target =>
    match h.ensureParent path with
    | none => h
    | some (h, place, name) => (h.clear (place ++ [name])).put (place ++ [name]) (.link target)
  | .delete path =>
    let names := namesOf path
    match names.getLast?, h.walk maxLinks [] names.dropLast with
    | some name, .ok place => h.clear (place ++ [name])
    | _, _ => h
  | .removeFile path =>
    let names := namesOf path
    match names.getLast?, h.walk maxLinks [] names.dropLast with
    | some name, .ok place =>
      match h.entry? (place ++ [name]) with
      | some .directory => h
      | _ => h.clear (place ++ [name])
    | _, _ => h

def applyAll (h : Host) (changes : List Change) : Host := changes.foldl apply h

end NodeSurvey.Host
