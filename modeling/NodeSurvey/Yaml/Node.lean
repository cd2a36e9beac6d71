import NodeSurvey.Yaml.Tag
import NodeSurvey.Yaml.Token.Basic

/-! The tree of a document. Anchors are numbered by the count of names seen before them, and an
alias carries the number that its name has where it stands. -/

namespace NodeSurvey.Yaml

inductive Node where
  | scalar (anchor : Option Nat) (tag : Option Tag) (plain : Bool) (text : String)
  | sequence (anchor : Option Nat) (tag : Option Tag) (items : List Node)
  | mapping (anchor : Option Nat) (tag : Option Tag) (entries : List (Node × Node))
  | alias (anchor : Nat)

namespace Node

instance : Inhabited Node := ⟨scalar none none true ""⟩

/-- The number of marks that write a node: two for a collection and one for anything else. -/
def size : Node → Nat
  | .scalar .. | .alias _ => 1
  | .sequence _ _ items => 2 + sizeItems items
  | .mapping _ _ entries => 2 + sizeEntries entries
where
  sizeItems : List Node → Nat
    | [] => 0
    | n :: r => size n + sizeItems r
  sizeEntries : List (Node × Node) → Nat
    | [] => 0
    | (k, v) :: r => size k + size v + sizeEntries r

def anchored (node : Node) : List (Nat × Node) :=
  match node with
  | .scalar (some i) _ _ _ => [(i, node)]
  | .scalar none _ _ _ | .alias _ => []
  | .sequence anchor _ items => (anchor.toList.map fun i => (i, node)) ++ anchoredItems items
  | .mapping anchor _ entries => (anchor.toList.map fun i => (i, node)) ++ anchoredEntries entries
where
  anchoredItems : List Node → List (Nat × Node)
    | [] => []
    | n :: r => anchored n ++ anchoredItems r
  anchoredEntries : List (Node × Node) → List (Nat × Node)
    | [] => []
    | (k, v) :: r => anchored k ++ anchored v ++ anchoredEntries r

end Node

structure Grammar where
  tokens : List Token
  /-- Anchor names with their numbers, the latest first. -/
  anchors : List (String × Nat)
  /-- The starts of tags that handles stand for. -/
  handles : List (String × List UInt8)

namespace Grammar

abbrev Action := StateT Grammar Option

def next : Action (Option Token) := do return (← get).tokens.head?

def skip : Action Unit := modify fun g => { g with tokens := g.tokens.tail }

def nextIs (ts : List Token) : Action Bool := do
  match ← next with
  | some t => return ts.contains t
  | none => return false

def expect (t : Token) : Action Unit := do
  if ← nextIs [t] then skip else failure

/-- Numbers an anchor. A name used again gets a new number. -/
def bindAnchor (name : String) : Action Nat := do
  let g ← get
  let number := (g.anchors.map Prod.fst).eraseDups.length
  set { g with anchors := (name, number) :: g.anchors }
  return number

def tagOf (handle : String) (rest : List UInt8) : Action Tag := do
  if handle.isEmpty then return Tag.ofBytes rest
  let start ← (← get).handles.lookup handle
  return Tag.ofBytes (start ++ rest)

def properties : Action (Option Nat × Option Tag) := do
  match ← next with
  | some (.anchor name) =>
    skip
    match ← next with
    | some (.tag handle rest) =>
      skip
      let tag ← tagOf handle rest
      return (some (← bindAnchor name), some tag)
    | _ => return (some (← bindAnchor name), none)
  | some (.tag handle rest) =>
    skip
    match ← next with
    | some (.anchor name) =>
      skip
      let tag ← tagOf handle rest
      return (some (← bindAnchor name), some tag)
    | _ => return (none, some (← tagOf handle rest))
  | _ => return (none, none)

def absent : Node := .scalar none none true ""

/-- The exclamation mark alone leaves the type of a scalar open. -/
def scalarTag : Option Tag → Option Tag
  | some (.named "!") => none
  | t => t

mutual

/-- Reads a node. Block collections occur only in block context, and a block sequence without
indentation of its own only as a part of a mapping entry. -/
def node (block indentless : Bool) : Nat → Action Node
  | 0 => failure
  | fuel + 1 => do
    match ← next with
    | some (.alias name) =>
      skip
      return .alias (← (← get).anchors.lookup name)
    | _ => pure ()
    let (anchor, tag) ← properties
    match ← next with
    | some .blockEntry =>
      if indentless then return .sequence anchor tag (← indentlessItems fuel)
      empty anchor tag
    | some (.scalar plain text) =>
      skip
      return .scalar anchor (scalarTag tag) plain text
    | some .flowSequence =>
      skip
      return .sequence anchor tag (← flowItems true fuel)
    | some .flowMapping =>
      skip
      return .mapping anchor tag (← flowEntries true fuel)
    | some .blockSequence =>
      if !block then return (← empty anchor tag)
      skip
      return .sequence anchor tag (← blockItems fuel)
    | some .blockMapping =>
      if !block then return (← empty anchor tag)
      skip
      return .mapping anchor tag (← blockEntries fuel)
    | _ => empty anchor tag
where
  empty (anchor : Option Nat) (tag : Option Tag) : Action Node :=
    if anchor.isNone && tag.isNone then failure else return .scalar anchor tag true ""

def nodeUnless (stop : List Token) (block indentless : Bool) : Nat → Action Node
  | 0 => failure
  | fuel + 1 => do
    if ← nextIs stop then return absent
    node block indentless fuel

def blockItems : Nat → Action (List Node)
  | 0 => failure
  | fuel + 1 => do
    if ← nextIs [.blockEnd] then
      skip
      return []
    expect .blockEntry
    let item ← nodeUnless [.blockEntry, .blockEnd] true false fuel
    return item :: (← blockItems fuel)

def indentlessItems : Nat → Action (List Node)
  | 0 => failure
  | fuel + 1 => do
    if ← nextIs [.blockEntry] then
      skip
      let item ← nodeUnless [.blockEntry, .key, .value, .blockEnd] true false fuel
      return item :: (← indentlessItems fuel)
    return []

def blockEntries : Nat → Action (List (Node × Node))
  | 0 => failure
  | fuel + 1 => do
    if ← nextIs [.blockEnd] then
      skip
      return []
    expect .key
    let key ← nodeUnless [.key, .value, .blockEnd] true true fuel
    let value ← if ← nextIs [.value] then do
        skip
        nodeUnless [.key, .value, .blockEnd] true true fuel
      else pure absent
    return (key, value) :: (← blockEntries fuel)

def flowItems (first : Bool) : Nat → Action (List Node)
  | 0 => failure
  | fuel + 1 => do
    if ← nextIs [.flowSequenceEnd] then
      skip
      return []
    if !first then expect .flowEntry
    if ← nextIs [.flowSequenceEnd] then
      skip
      return []
    let item ← if ← nextIs [.key] then do
        skip
        pairItem fuel
      else node false false fuel
    return item :: (← flowItems false fuel)

/-- A single pair in a flow sequence, which is a mapping of its own. Where its key is missing, the
token in the place of the key is passed over. -/
def pairItem : Nat → Action Node
  | 0 => failure
  | fuel + 1 => do
    let key ← if ← nextIs [.value, .flowEntry, .flowSequenceEnd] then do
        skip
        pure absent
      else node false false fuel
    let value ← if ← nextIs [.value] then do
        skip
        nodeUnless [.flowEntry, .flowSequenceEnd] false false fuel
      else pure absent
    return .mapping none none [(key, value)]

def flowEntries (first : Bool) : Nat → Action (List (Node × Node))
  | 0 => failure
  | fuel + 1 => do
    if ← nextIs [.flowMappingEnd] then
      skip
      return []
    if !first then expect .flowEntry
    if ← nextIs [.flowMappingEnd] then
      skip
      return []
    if ← nextIs [.key] then
      skip
      let key ← nodeUnless [.value, .flowEntry, .flowMappingEnd] false false fuel
      let value ← if ← nextIs [.value] then do
          skip
          nodeUnless [.flowEntry, .flowMappingEnd] false false fuel
        else pure absent
      return (key, value) :: (← flowEntries false fuel)
    let key ← node false false fuel
    return (key, absent) :: (← flowEntries false fuel)

end

def directives (seenVersion : Bool) : Nat → Action Unit
  | 0 => failure
  | fuel + 1 => do
    match ← next with
    | some (.version major minor) =>
      if seenVersion || major ≠ 1 || (minor ≠ 1 && minor ≠ 2) then failure
      skip
      directives true fuel
    | some (.tagDirective handle start) =>
      let g ← get
      if (g.handles.lookup handle).isSome then failure
      skip
      modify fun g => { g with handles := (handle, start) :: g.handles }
      directives seenVersion fuel
    | _ => pure ()

def defaultHandles : List (String × List UInt8) :=
  [("!", asciiBytes "!"), ("!!", asciiBytes coreTagStart)]

def finish : Nat → Action Unit
  | 0 => failure
  | fuel + 1 => do
    match ← next with
    | none => pure ()
    | some .documentEnd =>
      skip
      finish fuel
    | some _ => failure

def document (fuel : Nat) : Action (Option Node) := do
  match ← next with
  | none => return none
  | some t =>
    let explicit := match t with
      | .version .. | .tagDirective .. | .documentStart => true
      | _ => false
    if explicit then
      directives false fuel
      expect .documentStart
    modify fun g => { g with handles := g.handles ++ defaultHandles }
    let root ← match ← next with
      | none | some .documentEnd | some .documentStart => if explicit then pure absent else failure
      | some (.version ..) | some (.tagDirective ..) => if explicit then pure absent else failure
      | some _ => node true false fuel
    finish fuel
    return some root

end Grammar

/-- The tree of the tokens of a text. Between two tokens that are read lie at most three calls. -/
def Node.ofTokens? (ts : List Token) : Option (Option Node) :=
  ((Grammar.document (4 * ts.length + 8)).run ⟨ts, [], []⟩).map Prod.fst

end NodeSurvey.Yaml
