import NodeSurvey.Host.Failure
import NodeSurvey.Text.Blank
import NodeSurvey.Text.Utf8

/-! The files of a host. A host is known by the entries below its root; what is asked about a path
follows the links on the way, and answers or fails as a file system does. -/

namespace NodeSurvey

inductive Content where
  | text (s : String)
  | bytes (b : List UInt8)
deriving DecidableEq

/-- A content as text, with a replacement character for what is no text. -/
def Content.legible : Content → String
  | text s => s
  | bytes b => Text.Utf8.decodeLossy b

inductive Entry where
  | file (content : Content) (executable : Bool)
  | directory
  | link (target : String)
deriving DecidableEq

/-- The entries of a host by the names that lead to them, and the name of its root. -/
structure Host where
  root : String
  entries : List (List String × Entry)

namespace Host

def empty (root : String) : Host := ⟨root, []⟩

def fullName (h : Host) (path : String) : String :=
  let path := String.ofList (path.toList.dropWhile (· = '/'))
  if h.root.toList.getLast? = some '/' then h.root ++ path else h.root ++ "/" ++ path

/-- The names on a path; a slash at its end asks for a directory, as a point does. -/
def namesOf (path : String) : List String :=
  let names := (Text.split '/' path.toList).filter (!·.isEmpty)
  let closing := if path.toList.getLast? = some '/' then [['.']] else []
  (names ++ closing).map String.ofList

/-- What is at a place that no link leads through. -/
def entry? (h : Host) (place : List String) : Option Entry :=
  if place.isEmpty then some .directory else h.entries.lookup place

def maxLinks : Nat := 40

def maxNameLength : Nat := 255

/-- The place that names lead to from another place, with so many links left to follow. Above the
root there is nothing. -/
def walk (h : Host) (links : Nat) (here : List String) : List String → Except IoError (List String)
  | [] => .ok here
  | name :: rest =>
    match h.entry? here with
    | some .directory =>
      if name = "." then walk h links here rest
      else if name = ".." then
        if here.isEmpty then .error .notFound else walk h links here.dropLast rest
      else if maxNameLength < name.utf8ByteSize then .error .nameTooLong
      else
        match h.entry? (here ++ [name]) with
        | none => .error .notFound
        | some (.link target) =>
          match links with
          | 0 => .error .tooManyLinks
          | links + 1 => walk h links [] (namesOf target ++ rest)
        | some _ => walk h links (here ++ [name]) rest
    | some (.file ..) => .error .notADirectory
    | _ => .error .notFound
termination_by names => (links, names.length)

def locate (h : Host) (path : String) : Except IoError (List String) :=
  if path.toList.contains '\x00' then .error .nulInName else h.walk maxLinks [] (namesOf path)

def find (h : Host) (path : String) : Except IoError Entry := do
  let place ← h.locate path
  match h.entry? place with
  | some e => .ok e
  | none => .error .notFound

def readText (h : Host) (path : String) : Except IoError String := do
  match ← h.find path with
  | .file (.text s) _ => .ok s
  | .file (.bytes b) _ =>
    match Text.Utf8.decode? b with
    | some s => .ok s
    | none => .error .notText
  | .directory => .error .isADirectory
  | .link _ => .error .tooManyLinks

def readContent (h : Host) (path : String) : Except IoError Content := do
  match ← h.find path with
  | .file content _ => .ok content
  | .directory => .error .isADirectory
  | .link _ => .error .tooManyLinks

def below? (h : Host) (name : String) : Option String :=
  let root := if h.root.toList.getLast? = some '/' then h.root else h.root ++ "/"
  if root.toList.isPrefixOf name.toList then some (String.ofList (name.toList.drop root.length))
  else none

/-- Reads what a full name stands for; outside the root there is nothing. -/
def readNamed {α : Type} (h : Host) (read : String → Except IoError α) (name : String) :
    Except IoError α :=
  match h.below? name with
  | some path => read path
  | none => .error .notFound

def readTrimmed (h : Host) (path : String) : Except IoError String :=
  (h.readText path).map Text.trimString

def list (h : Host) (path : String) : Except IoError (List String) := do
  let place ← h.locate path
  match h.entry? place with
  | some .directory =>
    let names := h.entries.filterMap fun e =>
      if e.1.dropLast = place then e.1.getLast? else none
    .ok (names.mergeSort (· ≤ ·))
  | some (.file ..) => .error .notADirectory
  | _ => .error .notFound

def isFile (h : Host) (path : String) : Bool :=
  match h.find path with
  | .ok (.file ..) => true
  | _ => false

def isExecutable (h : Host) (path : String) : Bool :=
  match h.find path with
  | .ok (.file _ executable) => executable
  | _ => false

end Host

end NodeSurvey
