import NodeSurvey.Text.Utf8

/-! Tags of nodes. Tags of the language itself fix the type of a scalar, local tags are kept as part
of the value, and of all others only their presence matters. -/

namespace NodeSurvey.Yaml

/-- Types that a tag of the language can ask for, where reading a scalar can fail. -/
inductive CoreType where
  | bool
  | int
  | float
  | null
deriving DecidableEq

inductive Tag where
  | named (name : String)
  | core (type : CoreType)
  | unreadable
  | foreign
deriving DecidableEq

def coreTagStart : String := "tag:yaml.org,2002:"

def asciiBytes (s : String) : List UInt8 := s.toList.map fun c => c.toNat.toUInt8

/-- The name without an exclamation mark in front, unless nothing else would remain. -/
def bareName (s : List Char) : List Char :=
  match s with
  | '!' :: c :: r => c :: r
  | s => s

def Tag.ofBytes (bs : List UInt8) : Tag :=
  match bs with
  | 33 :: r =>
    match Text.Utf8.decode? (if r.isEmpty then [33] else r) with
    | some s => .named (String.ofList (bareName s.toList))
    | none => .unreadable
  | _ =>
    if bs = asciiBytes (coreTagStart ++ "bool") then .core .bool
    else if bs = asciiBytes (coreTagStart ++ "int") then .core .int
    else if bs = asciiBytes (coreTagStart ++ "float") then .core .float
    else if bs = asciiBytes (coreTagStart ++ "null") then .core .null
    else .foreign

end NodeSurvey.Yaml
