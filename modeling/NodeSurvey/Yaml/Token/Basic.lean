/-! Tokens of a document: the marks of its structure, and scalars as text. -/

namespace NodeSurvey.Yaml

inductive Token where
  | version (major minor : Nat)
  | tagDirective (handle : String) (start : List UInt8)
  | documentStart
  | documentEnd
  | blockSequence
  | blockMapping
  | blockEnd
  | flowSequence
  | flowSequenceEnd
  | flowMapping
  | flowMappingEnd
  | blockEntry
  | flowEntry
  | key
  | value
  | alias (name : String)
  | anchor (name : String)
  /-- A tag in two parts; the handle stands for the start of the tag. -/
  | tag (handle : String) (rest : List UInt8)
  | scalar (plain : Bool) (text : String)
deriving DecidableEq

end NodeSurvey.Yaml
