import NodeSurvey.Path.Basic
import NodeSurvey.Text.Quoted

/-! Watching a file for changes. The file and every directory above it are watched, so that a file
put in its place and a directory made anew are noticed too. Which events concern the file is
decided by their paths alone. -/

namespace NodeSurvey.Watch

/-- What a file is opened for. -/
inductive AccessMode where
  | any
  | execute
  | read
  | write
  | other
deriving DecidableEq

inductive AccessKind where
  | any
  | read
  | opened (mode : AccessMode)
  | closed (mode : AccessMode)
  | other
deriving DecidableEq

/-- What comes or goes. -/
inductive EntryKind where
  | any
  | file
  | folder
  | other
deriving DecidableEq

inductive ModifyKind where
  | any
  | data
  | metadata
  | name
  | other
deriving DecidableEq

inductive EventKind where
  | any
  | access (kind : AccessKind)
  | created (kind : EntryKind)
  | modified (kind : ModifyKind)
  | removed (kind : EntryKind)
  | other
deriving DecidableEq

structure Event where
  kind : EventKind
  paths : List Path
deriving DecidableEq

/-- Reading leaves a file as it is; only a writer that closes it may have changed it. -/
def EventKind.mayChange : EventKind → Bool
  | .access kind => kind = .closed .write
  | _ => true

def watchPaths (path : Path) : List Path := path.clean.lineage

/-- What a system has to watch with: it places watches on some paths, or it gives the reason why
there is no watching at all. -/
abbrev Service := Except String (Path → Bool)

inductive SetupError where
  | noService (reason : String)
  | noWatches (path : Path)
deriving DecidableEq

def SetupError.message : SetupError → String
  | noService reason => "failed to create config watcher: " ++ reason
  | noWatches path => "failed to add any watch for " ++ Text.quotedPath path.toString

/-- A watched file: its clean path, all paths that count, and those of them where a watch could be
placed. -/
structure Watcher where
  path : Path
  watched : List Path
  live : List Path
deriving DecidableEq

/-- Watches a path. One watch is enough. -/
def Watcher.create (service : Service) (path : Path) : Except SetupError Watcher :=
  match service with
  | .error reason => .error (.noService reason)
  | .ok placeable =>
    let paths := watchPaths path
    let live := paths.filter placeable
    if live.isEmpty then .error (.noWatches path.clean) else .ok ⟨path.clean, paths, live⟩

/-- Whether an event may have changed what is found at the watched path. -/
def Watcher.isRelevant (w : Watcher) (e : Event) : Bool :=
  e.kind.mayChange && e.paths.any fun p => w.watched.contains p.clean

inductive Handled where
  | irrelevant
  | rebuilt (watcher : Watcher)
deriving DecidableEq

/-- After a relevant event the watches are placed anew, since directories may have been replaced. -/
def Watcher.handle (service : Service) (w : Watcher) (e : Event) : Except SetupError Handled :=
  if w.isRelevant e then (Watcher.create service w.path).map .rebuilt else .ok .irrelevant

end NodeSurvey.Watch
