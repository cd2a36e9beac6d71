import NodeSurvey.Yaml.Token.Basic
import NodeSurvey.Yaml.Token.Scalar

/-! From glyphs to tokens. Blocks are marked by indentation, so the lexer keeps the indentations of
the open blocks. A mapping key without a mark of its own is recognised only at the colon behind it:
every place where such a key may have begun is remembered until then. -/

namespace NodeSurvey.Yaml

structure KeyStart where
  /-- No other reading of the text is possible there. -/
  required : Bool
  number : Nat
  place : Glyph

structure Lexer where
  input : List Glyph
  tokens : Array Token
  indents : List Nat
  /-- For the block context and every open bracket, innermost first, where a key may have begun. -/
  keys : List (Option KeyStart)
  keyAllowed : Bool

namespace Lexer

abbrev Action := StateT Lexer Option

def start (gs : List Glyph) : Lexer := ⟨gs, #[], [], [none], true⟩

def inFlow (l : Lexer) : Bool := 1 < l.keys.length

def here (l : Lexer) : Glyph := l.input.head?.getD ⟨endChar, 0, 0, 0⟩

def emit (t : Token) : Action Unit := modify fun l => { l with tokens := l.tokens.push t }

def emitAt (i : Nat) (t : Token) : Action Unit :=
  modify fun l => { l with tokens := l.tokens.insertIdxIfInBounds i t }

def skip (n : Nat) : Action Unit := modify fun l => { l with input := l.input.drop n }

def allowKey (b : Bool) : Action Unit := modify fun l => { l with keyAllowed := b }

def setKey (k : Option KeyStart) : Action Unit :=
  modify fun l => { l with keys := k :: l.keys.tail }

def dropKey : Action Unit := do
  match (← get).keys.head? with
  | some (some k) => if k.required then failure else setKey none
  | _ => pure ()

def markKey : Action Unit := do
  let l ← get
  if l.keyAllowed then
    dropKey
    let required := !l.inFlow && l.indents.head? = some l.here.column
    setKey (some ⟨required, l.tokens.size, l.here⟩)

/-- A key without a mark lies on one line and is not longer than 1024 characters. -/
def dropStaleKeys : Action Unit := do
  let l ← get
  let stale (k : KeyStart) : Bool :=
    k.place.line < l.here.line || k.place.index + 1024 < l.here.index
  if l.keys.any fun k => k.any fun k => stale k && k.required then failure
  modify fun l => { l with keys := l.keys.map fun k => k.filter fun k => !stale k }

def openBlock (column : Nat) (position : Option Nat) (t : Token) : Action Unit := do
  let l ← get
  let deeper := match l.indents with
    | [] => true
    | i :: _ => i < column
  if !l.inFlow && deeper then
    modify fun l => { l with indents := column :: l.indents }
    match position with
    | some i => emitAt i t
    | none => emit t

def closeBlocks (column : Option Nat) : Action Unit := do
  let l ← get
  if !l.inFlow then
    let deeper (i : Nat) : Bool := match column with
      | some c => c < i
      | none => true
    let closed := l.indents.takeWhile deeper
    set { l with
      indents := l.indents.dropWhile deeper
      tokens := l.tokens ++ (closed.map fun _ => Token.blockEnd).toArray }

/-- The glyphs from the next token on, and whether a line end was passed. Tabs may precede a token
unless a block could be indented by them. -/
def toNextToken (flow : Bool) : Nat → Bool → Bool → List Glyph → List Glyph × Bool
  | 0, _, passed, gs => (gs, passed)
  | fuel + 1, tabs, passed, gs =>
    let gs := if column gs = 0 && peek gs = byteOrderMark then gs.tail else gs
    let gs := gs.dropWhile fun g => g.char = ' ' || (tabs && g.char = '\t')
    let gs := if peek gs = '#' then dropLine gs else gs
    if isBreak (peek gs) then toNextToken flow fuel flow true gs.tail else (gs, passed)

def skipToNextToken : Action Unit := do
  let l ← get
  let (gs, passed) :=
    toNextToken l.inFlow (l.input.length + 1) (l.inFlow || !l.keyAllowed) false l.input
  set { l with input := gs, keyAllowed := l.keyAllowed || (passed && !l.inFlow) }

def isWordChar (c : Char) : Bool :=
  ('0' ≤ c && c ≤ '9') || ('A' ≤ c && c ≤ 'Z') || ('a' ≤ c && c ≤ 'z') || c = '_' || c = '-'

def takeWord (gs : List Glyph) : String × List Glyph :=
  (String.ofList ((gs.takeWhile fun g => isWordChar g.char).map (·.char)),
    gs.dropWhile fun g => isWordChar g.char)

def isTagChar (verbatim : Bool) (c : Char) : Bool :=
  isWordChar c || (";/?:@&=+$.%!~*'()".toList.contains c) ||
    (verbatim && (c = ',' || c = '[' || c = ']'))

def escapedByte? (gs : List Glyph) : Option UInt8 := do
  let a ← hexValue? (peekAt 1 gs)
  let b ← hexValue? (peekAt 2 gs)
  if peek gs = '%' then some (16 * a + b).toUInt8 else none

def escapedWidth? (b : UInt8) : Option Nat :=
  if b < 0x80 then some 1
  else if 0xC0 ≤ b && b < 0xE0 then some 2
  else if 0xE0 ≤ b && b < 0xF0 then some 3
  else if 0xF0 ≤ b && b < 0xF8 then some 4
  else none

def escapedTail? : Nat → List Glyph → Option (List UInt8 × List Glyph)
  | 0, gs => some ([], gs)
  | n + 1, gs => do
    let b ← escapedByte? gs
    if 0x80 ≤ b && b < 0xC0 then
      let (bs, gs) ← escapedTail? n (gs.drop 3)
      some (b :: bs, gs)
    else none

def escaped? (gs : List Glyph) : Option (List UInt8 × List Glyph) := do
  let b ← escapedByte? gs
  let width ← escapedWidth? b
  let (bs, gs) ← escapedTail? (width - 1) (gs.drop 3)
  some (b :: bs, gs)

def tagBytes? (verbatim : Bool) : Nat → List Glyph → Option (List UInt8 × List Glyph)
  | 0, _ => none
  | fuel + 1, gs =>
    let c := peek gs
    if isTagChar verbatim c then do
      let (bs, gs) ← if c = '%' then escaped? gs else some ([c.toNat.toUInt8], gs.tail)
      let (more, gs) ← tagBytes? verbatim fuel gs
      some (bs ++ more, gs)
    else some ([], gs)

def tagText? (verbatim : Bool) (gs : List Glyph) : Option (List UInt8 × List Glyph) := do
  let (bs, rest) ← tagBytes? verbatim (gs.length + 1) gs
  if bs.isEmpty then none else some (bs, rest)

def tagHandle? (gs : List Glyph) : Option (String × List Glyph) :=
  if peek gs = '!' then
    let (word, rest) := takeWord gs.tail
    if peek rest = '!' then some ("!" ++ word ++ "!", rest.tail) else some ("!" ++ word, rest)
  else none

def scanTag? (flow : Bool) (gs : List Glyph) : Option (Token × List Glyph) := do
  let (token, rest) ←
    if peekAt 1 gs = '<' then do
      let (bs, rest) ← tagText? true (gs.drop 2)
      if peek rest = '>' then some (Token.tag "" bs, rest.tail) else none
    else do
      let (handle, rest) ← tagHandle? gs
      let chars := handle.toList
      if 2 ≤ chars.length && chars.getLast? = some '!' then do
        let (bs, rest) ← tagText? false rest
        some (Token.tag handle bs, rest)
      else do
        let word := chars.tail.map fun c => c.toNat.toUInt8
        let (bs, rest) ← tagBytes? false (rest.length + 1) rest
        let all := word ++ bs
        some (if all.isEmpty then Token.tag "" [33] else Token.tag "!" all, rest)
  if isGapOrEnd (peek rest) || (flow && peek rest = ',') then some (token, rest) else none

def scanName? (gs : List Glyph) : Option (String × List Glyph) :=
  let (word, rest) := takeWord gs.tail
  let next := peek rest
  if !word.isEmpty && (isGapOrEnd next || "?:,]\x7d%@`".toList.contains next) then some (word, rest)
  else none

def versionNumber? (gs : List Glyph) : Option (Nat × List Glyph) :=
  let digits := gs.takeWhile fun g => g.char.isDigit
  if digits.isEmpty || 9 < digits.length then none
  else some (digits.foldl (fun n g => 10 * n + (g.char.toNat - 48)) 0,
    gs.dropWhile fun g => g.char.isDigit)

def scanDirective? (gs : List Glyph) : Option (Token × List Glyph) := do
  let (word, rest) := takeWord gs.tail
  if word.isEmpty || !isGapOrEnd (peek rest) then none
  let (token, rest) ←
    if word = "YAML" then do
      let (major, rest) ← versionNumber? (dropGaps rest)
      let (minor, rest) ← if peek rest = '.' then versionNumber? rest.tail else none
      some (Token.version major minor, rest)
    else if word = "TAG" then do
      let (handle, rest) ← tagHandle? (dropGaps rest)
      if handle ≠ "!" && handle.toList.getLast? ≠ some '!' then none
      if !isGap (peek rest) then none
      let (bs, rest) ← tagText? true (dropGaps rest)
      if !isGapOrEnd (peek rest) then none
      some (Token.tagDirective handle bs, rest)
    else none
  let rest ← dropComment? rest
  some (token, rest)

def mark (t : Token) : Action Unit := do skip 1; emit t

def fetchDirective : Action Unit := do
  closeBlocks none
  dropKey
  allowKey false
  let (t, rest) ← scanDirective? (← get).input
  modify fun l => { l with input := rest }
  emit t

def fetchDocumentMark (t : Token) : Action Unit := do
  closeBlocks none
  dropKey
  allowKey false
  skip 3
  emit t

def fetchFlowStart (t : Token) : Action Unit := do
  markKey
  modify fun l => { l with keys := none :: l.keys, keyAllowed := true }
  mark t

def fetchFlowEnd (t : Token) : Action Unit := do
  dropKey
  modify fun l => { l with keys := if l.inFlow then l.keys.tail else l.keys, keyAllowed := false }
  mark t

def fetchFlowEntry : Action Unit := do
  dropKey
  allowKey true
  mark .flowEntry

def fetchBlockEntry : Action Unit := do
  let l ← get
  if !l.inFlow then
    if !l.keyAllowed then failure
    openBlock l.here.column none .blockSequence
  dropKey
  allowKey true
  mark .blockEntry

def fetchKey : Action Unit := do
  let l ← get
  if !l.inFlow then
    if !l.keyAllowed then failure
    openBlock l.here.column none .blockMapping
  dropKey
  allowKey (!l.inFlow)
  mark .key

def fetchValue : Action Unit := do
  let l ← get
  match l.keys.head? with
  | some (some k) =>
    emitAt k.number .key
    openBlock k.place.column (some k.number) .blockMapping
    setKey none
    allowKey false
  | _ =>
    if !l.inFlow then
      if !l.keyAllowed then failure
      openBlock l.here.column none .blockMapping
    allowKey (!l.inFlow)
  mark .value

def fetchName (t : String → Token) : Action Unit := do
  markKey
  allowKey false
  let (name, rest) ← scanName? (← get).input
  modify fun l => { l with input := rest }
  emit (t name)

def fetchTag : Action Unit := do
  markKey
  allowKey false
  let l ← get
  let (t, rest) ← scanTag? l.inFlow l.input
  modify fun l => { l with input := rest }
  emit t

def fetchScalar (plain : Bool) (scan : Lexer → Option Scanned) : Action Unit := do
  let s ← scan (← get)
  modify fun l => { l with input := s.rest, keyAllowed := l.keyAllowed || s.broken }
  emit (.scalar plain s.text)

def fetchBlockScalar (literal : Bool) : Action Unit := do
  dropKey
  allowKey true
  fetchScalar false fun l => blockScalar? literal l.indents.head? l.input.tail

def fetchQuoted (scan : List Glyph → Option Scanned) : Action Unit := do
  markKey
  allowKey false
  fetchScalar false fun l => scan l.input.tail

def fetchPlain : Action Unit := do
  markKey
  allowKey false
  fetchScalar true fun l =>
    plainScalar? l.inFlow ((l.indents.head?.map (· + 1)).getD 0) [] .none true l.input

def isIndicator (c : Char) : Bool :=
  isGapOrEnd c || "-?:,[]\x7b\x7d#&*!|>'\"%@`".toList.contains c

def fetch : Action Bool := do
  skipToNextToken
  dropStaleKeys
  let l ← get
  closeBlocks (some l.here.column)
  let c := l.here.char
  let next := peekAt 1 l.input
  let flow := l.inFlow
  if isEnd c then
    closeBlocks none
    dropKey
    return true
  if l.here.column = 0 && c = '%' then fetchDirective
  else if atDocumentMark l.input then
    fetchDocumentMark (if c = '-' then .documentStart else .documentEnd)
  else if c = '[' then fetchFlowStart .flowSequence
  else if c = '\x7b' then fetchFlowStart .flowMapping
  else if c = ']' then fetchFlowEnd .flowSequenceEnd
  else if c = '\x7d' then fetchFlowEnd .flowMappingEnd
  else if c = ',' then fetchFlowEntry
  else if c = '-' && isGapOrEnd next then fetchBlockEntry
  else if c = '?' && (flow || isGapOrEnd next) then fetchKey
  else if c = ':' && (flow || isGapOrEnd next) then fetchValue
  else if c = '*' then fetchName .alias
  else if c = '&' then fetchName .anchor
  else if c = '!' then fetchTag
  else if c = '|' && !flow then fetchBlockScalar true
  else if c = '>' && !flow then fetchBlockScalar false
  else if c = '\'' then fetchQuoted (singleQuoted? [] .none)
  else if c = '"' then fetchQuoted (doubleQuoted? [] .none)
  else if !isIndicator c || (c = '-' && !isGap next) || (!flow && (c = '?' || c = ':')) then
    fetchPlain
  else failure
  return false

def run : Nat → Action Unit
  | 0 => failure
  | fuel + 1 => do if !(← fetch) then run fuel

end Lexer

/-- The tokens of a document. Every step of the lexer but the last takes a glyph at least. -/
def tokens? (s : String) : Option (List Token) := do
  let gs ← glyphs? s
  let (_, l) ← (Lexer.run (gs.length + 1)).run (Lexer.start gs)
  some l.tokens.toList

end NodeSurvey.Yaml
