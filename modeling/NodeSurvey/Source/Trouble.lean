import NodeSurvey.Host.Failure

/-! How the discovery of a source can go wrong. -/

namespace NodeSurvey

inductive Trouble where
  | failed (f : Failure)
  /-- The source broke down, perhaps with a message. -/
  | panicked (message : Option String)
deriving DecidableEq

structure SourceError where
  source : String
  trouble : Trouble
deriving DecidableEq

def SourceError.message (e : SourceError) : String :=
  match e.trouble with
  | .failed f => "discovery failed for source [" ++ e.source ++ "]: " ++ f.message
  | .panicked message =>
    "panic occurred during discovery of source [" ++ e.source ++ "]: " ++
      message.getD "unknown panic"

end NodeSurvey
