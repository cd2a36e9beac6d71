import NodeSurvey.Yaml.Node
import NodeSurvey.Yaml.Scalar
import NodeSurvey.Yaml.Token.Lexer

/-! From the text of a document to its value. An alias stands for the node that last received its
number in the whole document. Nesting is limited, also through aliases, and so is the number of
aliases followed. -/

namespace NodeSurvey.Yaml.Document

def maxDepth : Nat := 128

/-- How often aliases may be followed for each mark of a document. -/
def aliasesPerMark : Nat := 100

/-- What a document's values are built from: the anchored nodes, and how many aliases may still be
followed. -/
abbrev Action := ReaderT (List (Nat × Node)) (StateT Nat Option)

def follow (anchor : Nat) : Action Node := do
  match ← get with
  | 0 => failure
  | left + 1 =>
    set left
    match (← read).lookup anchor with
    | some node => return node
    | none => failure

def wrap (tag : Option Tag) (v : Value) : Value :=
  match tag with
  | some (.named name) => .tagged name v
  | _ => v

def addEntry (entries : List (Value × Value)) (k v : Value) : Option (List (Value × Value)) :=
  if (Value.lookup k entries).isSome then none else some (entries ++ [(k, v)])

/-- What stands in the place of a node. -/
def resolve : Node → Action Node
  | .alias anchor => follow anchor
  | node => return node

/-- The value of a node in which collections are nested so many times at most. -/
def valueOf : Nat → Node → Action Value
  | 0, node => do
    match ← resolve node with
    | .scalar _ tag plain text => (Scalar.value? tag plain text : Option Value)
    | _ => failure
  | depth + 1, node => do
    match ← resolve node with
    | .alias _ => failure
    | .scalar _ tag plain text => (Scalar.value? tag plain text : Option Value)
    | .sequence _ tag items =>
      let values ← items.mapM (valueOf depth)
      return wrap tag (.sequence values)
    | .mapping _ tag entries =>
      let values ← entries.foldlM (fun (acc : List (Value × Value)) e => do
        let k ← valueOf depth e.1
        let v ← valueOf depth e.2
        (addEntry acc k v : Option (List (Value × Value)))) []
      return wrap tag (.mapping values)

/-- The value of a document; an empty one is null. -/
def parse? (s : String) : Option Value := do
  let tokens ← tokens? s
  match ← Node.ofTokens? tokens with
  | none => some .null
  | some root =>
    let anchored := root.anchored.reverse
    let (v, _) ← ((valueOf maxDepth root).run anchored).run (aliasesPerMark * root.size)
    some v

end NodeSurvey.Yaml.Document
