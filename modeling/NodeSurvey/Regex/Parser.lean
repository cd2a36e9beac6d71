import NodeSurvey.Regex.Property
import NodeSurvey.Regex.Syntax
import NodeSurvey.Text.Alphanumeric
import NodeSurvey.Text.Blank

/-! Reading regular expressions. Look-around and references back to a group are refused, and so is
everything else without a meaning, such as a repetition of nothing. -/

namespace NodeSurvey.Regex

/-- What is still to be read, whether blanks and comments are passed over, and the names of groups
so far. -/
structure Reader where
  rest : List Char
  verbose : Bool
  names : List String

namespace Reader

abbrev Action := StateT Reader Option

def rest' : Action (List Char) := do return (← get).rest

def setRest (s : List Char) : Action Unit := modify fun r => { r with rest := s }

def dropSpace : Nat → List Char → List Char
  | 0, s => s
  | _ + 1, [] => []
  | fuel + 1, c :: r =>
    if Text.isBlank c then dropSpace fuel r
    else if c = '#' then dropSpace fuel ((r.dropWhile (· ≠ '\n')).drop 1)
    else c :: r

def skipSpace : Action Unit :=
  modify fun r => if r.verbose then { r with rest := dropSpace (r.rest.length + 1) r.rest } else r

def take : Action Char := do
  match ← rest' with
  | [] => failure
  | c :: r =>
    setRest r
    return c

def look : Action Char := do
  match ← rest' with
  | [] => failure
  | c :: _ => return c

def peek : Action (Option Char) := do return (← rest').head?

def takeSpaced : Action Char := do
  let c ← take
  skipSpace
  return c

def takeIf (s : String) : Action Bool := do
  let r ← rest'
  if s.toList.isPrefixOf r then
    setRest (r.drop s.toList.length)
    return true
  return false

/-- The character behind the next one, looking past blanks and the start of a comment. -/
def peekSecond : Action (Option Char) := do
  let s ← get
  let r := s.rest.tail
  if s.verbose then
    let r := r.dropWhile Text.isBlank
    let r := if r.head? = some '#' then r.tail.dropWhile Text.isBlank else r
    return r.head?
  return r.head?

def hexDigit? (c : Char) : Option Nat :=
  if '0' ≤ c ∧ c ≤ '9' then some (c.toNat - 48)
  else if 'a' ≤ c ∧ c ≤ 'f' then some (c.toNat - 87)
  else if 'A' ≤ c ∧ c ≤ 'F' then some (c.toNat - 55)
  else none

def charOfHex? (ds : List Char) : Option Char := do
  let ds ← ds.mapM hexDigit?
  let v := ds.foldl (fun v d => 16 * v + d) 0
  if v.isValidChar then some (Char.ofNat v) else none

def hexDigits : Nat → Action (List Char)
  | 0 => return []
  | n + 1 => do
    skipSpace
    let c ← take
    if (hexDigit? c).isNone then failure
    return c :: (← hexDigits n)

def upToBrace : Nat → Action (List Char)
  | 0 => failure
  | fuel + 1 => do
    skipSpace
    let c ← take
    if c = '\x7d' then return []
    return c :: (← upToBrace fuel)

def hexLiteral : Action Literal := do
  let kind ← takeSpaced
  if (← look) = '\x7b' then
    let _ ← take
    let ds ← upToBrace ((← rest').length + 1)
    skipSpace
    if ds.isEmpty then failure
    return ⟨← charOfHex? ds, false⟩
  let ds ← hexDigits (if kind = 'x' then 2 else if kind = 'u' then 4 else 8)
  skipSpace
  return ⟨← charOfHex? ds, kind = 'x'⟩

def splitAt? (mark : List Char) : List Char → Option (List Char × List Char)
  | [] => none
  | c :: r =>
    if mark.isPrefixOf (c :: r) then some ([], (c :: r).drop mark.length)
    else (splitAt? mark r).map fun (a, b) => (c :: a, b)

def namedProperty? (s : List Char) : Option (List Char × Bool) :=
  match splitAt? ['!', '='] s with
  | some (name, value) => (propertyValue? name value).map fun m => (m, true)
  | none =>
    match (splitAt? [':'] s).or (splitAt? ['='] s) with
    | some (name, value) => (propertyValue? name value).map fun m => (m, false)
    | none => (property? s).map fun m => (m, false)

def propertyClass : Action CharClass := do
  let negated := (← takeSpaced) = 'P'
  let c ← look
  if c = '\x7b' then
    let _ ← take
    let name ← upToBrace ((← rest').length + 1)
    let (members, flipped) ← namedProperty? name
    return .property members (negated != flipped)
  if c = '\\' then failure
  let _ ← takeSpaced
  return .property (← property? [c]) negated

def isMeta (c : Char) : Bool := "\\.+*?()|[]\x7b\x7d^$#&-~".toList.contains c

/-- Characters that may have a backslash in front without need. -/
def isEscapable (c : Char) : Bool :=
  c.toNat < 0x80 && !c.isAlphanum && c ≠ '<' && c ≠ '>'

def control? : Char → Option Char
  | 'a' => some '\x07'
  | 'f' => some '\x0c'
  | 't' => some '\t'
  | 'n' => some '\n'
  | 'r' => some '\r'
  | 'v' => some '\x0b'
  | _ => none

def shorthand? : Char → Option (Shorthand × Bool)
  | 'd' => some (.digit, false)
  | 'D' => some (.digit, true)
  | 's' => some (.space, false)
  | 'S' => some (.space, true)
  | 'w' => some (.word, false)
  | 'W' => some (.word, true)
  | _ => none

def boundaryName : Nat → Action (List Char)
  | 0 => failure
  | fuel + 1 => do
    match ← peek with
    | some c =>
      if c.isAlpha || c = '-' then
        let _ ← takeSpaced
        return c :: (← boundaryName fuel)
      else return []
    | none => return []

/-- What stands in braces behind a word boundary may be its kind. If it does not look like one, it
is left for a repetition. -/
def boundaryKind : Action (Option Assertion) := do
  if (← peek) ≠ some '\x7b' then return none
  let before ← rest'
  let _ ← takeSpaced
  let c ← look
  if !(c.isAlpha || c = '-') then
    setRest before
    return none
  let name ← boundaryName ((← rest').length + 1)
  if (← take) ≠ '\x7d' then failure
  match String.ofList name with
  | "start" => return some .wordStart
  | "end" => return some .wordEnd
  | "start-half" => return some .wordStartHalf
  | "end-half" => return some .wordEndHalf
  | _ => failure

def escape : Action Pattern := do
  let _ ← take
  let c ← look
  if c.isDigit then failure
  if c = 'x' || c = 'u' || c = 'U' then return .literal (← hexLiteral)
  if c = 'p' || c = 'P' then return .class' (← propertyClass)
  let _ ← take
  match shorthand? c with
  | some (kind, negated) => return .class' (.shorthand kind negated)
  | none => pure ()
  if isMeta c || isEscapable c then return .literal ⟨c, false⟩
  match control? c with
  | some control => return .literal ⟨control, false⟩
  | none => pure ()
  match c with
  | 'A' => return .assertion .start
  | 'z' => return .assertion .finish
  | 'b' => return .assertion ((← boundaryKind).getD .wordBoundary)
  | 'B' => return .assertion .noWordBoundary
  | '<' => return .assertion .wordStart
  | '>' => return .assertion .wordEnd
  | _ => failure

def namedClass? (name : List Char) : Option (List Char) :=
  let ascii := (List.range 128).map Char.ofNat
  match String.ofList name with
  | "alnum" => some (ascii.filter Char.isAlphanum)
  | "alpha" => some (ascii.filter Char.isAlpha)
  | "ascii" => some ascii
  | "blank" => some ['\t', ' ']
  | "cntrl" => some (ascii.filter fun c => c.toNat < 32 || c.toNat = 127)
  | "digit" => some (ascii.filter Char.isDigit)
  | "graph" => some (ascii.filter fun c => 33 ≤ c.toNat && c.toNat ≤ 126)
  | "lower" => some (ascii.filter Char.isLower)
  | "print" => some (ascii.filter fun c => 32 ≤ c.toNat && c.toNat ≤ 126)
  | "punct" => some (ascii.filter fun c => 33 ≤ c.toNat && c.toNat ≤ 126 && !c.isAlphanum)
  | "space" => some (ascii.filter fun c => c.toNat = 32 || (9 ≤ c.toNat && c.toNat ≤ 13))
  | "upper" => some (ascii.filter Char.isUpper)
  | "word" => some (ascii.filter fun c => c.isAlphanum || c = '_')
  | "xdigit" => some (ascii.filter fun c => (hexDigit? c).isSome)
  | _ => none

def colonClass? (s : List Char) : Option (CharClass × List Char) :=
  match s with
  | '[' :: ':' :: r =>
    let (negated, r) := match r with
      | '^' :: r => (true, r)
      | r => (false, r)
    let name := r.takeWhile (· ≠ ':')
    match r.dropWhile (· ≠ ':') with
    | ':' :: ']' :: r => (namedClass? name).map fun m => (.named m negated, r)
    | _ => none
  | _ => none

def classItem : Action Pattern := do
  if (← look) = '\\' then escape else return .literal ⟨← take, false⟩

def asClass : Pattern → Action CharClass
  | .literal l => return .literal l
  | .class' c => return c
  | _ => failure

def asLiteral : Pattern → Action Literal
  | .literal l => return l
  | _ => failure

/-- A character of a class, or a range. A hyphen before the closing bracket or another hyphen does
not make a range. -/
def classRange : Action CharClass := do
  let first ← classItem
  skipSpace
  let next ← look
  if next ≠ '-' then return ← asClass first
  let second ← peekSecond
  if second = some ']' || second = some '-' then return ← asClass first
  let _ ← takeSpaced
  let last ← asLiteral (← classItem)
  let first ← asLiteral first
  if last.char < first.char then failure
  return .range first last

def unionOf (items : List CharClass) : CharClass :=
  match items.reverse with
  | [c] => c
  | l => .union l

/-- Hyphens at the start of a class stand for themselves. -/
def leadingHyphens : Nat → List CharClass → Action (List CharClass)
  | 0, items => return items
  | fuel + 1, items => do
    if (← look) = '-' then
      let _ ← takeSpaced
      leadingHyphens fuel (.literal ⟨'-', false⟩ :: items)
    else return items

def closeOperation (pending : Option (ClassOperation × CharClass)) (items : List CharClass) :
    CharClass :=
  match pending with
  | some (kind, left) => .operation kind left (unionOf items)
  | none => unionOf items

mutual

def bracket : Nat → Action CharClass
  | 0 => failure
  | fuel + 1 => do
    let _ ← takeSpaced
    let negated := (← look) = '^'
    if negated then let _ ← takeSpaced
    let items ← leadingHyphens (fuel + 1) []
    let items ← if items.isEmpty && (← look) = ']' then do
        let _ ← takeSpaced
        let _ ← look
        pure [CharClass.literal ⟨']', false⟩]
      else pure items
    return .bracket negated (← bracketItems none items fuel)

def bracketItems (pending : Option (ClassOperation × CharClass)) (items : List CharClass) :
    Nat → Action CharClass
  | 0 => failure
  | fuel + 1 => do
    skipSpace
    let c ← look
    let s ← rest'
    let operation := if s.tail.head? ≠ some c then none
      else if c = '&' then some ClassOperation.intersection
      else if c = '-' then some .difference
      else if c = '~' then some .symmetricDifference
      else none
    if c = '[' then
      match colonClass? s with
      | some (named, r) =>
        setRest r
        bracketItems pending (named :: items) fuel
      | none =>
        let inner ← bracket fuel
        bracketItems pending (inner :: items) fuel
    else if c = ']' then
      let _ ← take
      return closeOperation pending items
    else
      match operation with
      | some kind =>
        setRest (s.drop 2)
        bracketItems (some (kind, closeOperation pending items)) [] fuel
      | none =>
        let item ← classRange
        bracketItems pending (item :: items) fuel

end

def decimal? (s : List Char) : Option Nat :=
  if s.isEmpty then none
  else
    let n := s.foldl (fun n c => 10 * n + (c.toNat - 48)) 0
    if n < Nat.pow 2 32 then some n else none

def decimalDigits : Nat → Action (List Char)
  | 0 => return []
  | fuel + 1 => do
    match ← peek with
    | some c =>
      if c.isDigit then
        let _ ← takeSpaced
        return c :: (← decimalDigits fuel)
      else return []
    | none => return []

def skipBlanks : Action Unit := modify fun r => { r with rest := r.rest.dropWhile Text.isBlank }

def decimal : Action (Option Nat) := do
  skipBlanks
  let ds ← decimalDigits ((← rest').length + 1)
  skipBlanks
  skipSpace
  return decimal? ds

/-- A question mark behind a repetition changes only which match is preferred. -/
def skipLazy : Action Unit := do
  if (← peek) = some '?' then let _ ← take

def counts : Action (Nat × Option Nat) := do
  let _ ← takeSpaced
  let _ ← look
  let least ← decimal
  let bounds ← if (← look) = ',' then do
      let _ ← takeSpaced
      if (← look) = '\x7d' then pure (← least, none)
      else
        let least ← least
        let most ← ← decimal
        pure (least, some most)
    else
      let n ← least
      pure (n, some n)
  if (← take) ≠ '\x7d' then failure
  skipSpace
  skipLazy
  if bounds.2.any (· < bounds.1) then failure
  return bounds

/-- Puts a repetition around the last of the items, which must be something that can be repeated. -/
def repeatLast (least : Nat) (most : Option Nat) : List Pattern → Action (List Pattern)
  | [] | .empty :: _ | .flags _ :: _ => failure
  | p :: r => return .repeated least most p :: r

def flagItems (negated : Bool) (last : Bool) (items : FlagChange) : Nat → Action FlagChange
  | 0 => failure
  | fuel + 1 => do
    let c ← look
    if c = ':' || c = ')' then
      if last then failure
      return items.reverse
    let _ ← take
    let _ ← look
    if c = '-' then
      if negated then failure
      flagItems true true items fuel
    else
      let f ← Flag.ofChar? c
      if items.any fun i => i.1 = f then failure
      flagItems negated false ((f, !negated) :: items) fuel

def groupName : Action Unit := do
  let s ← rest'
  let name := s.takeWhile (· ≠ '>')
  let isStart (c : Char) : Bool := c = '_' || Text.isAlphabetic c
  let isInner (c : Char) : Bool :=
    c = '_' || c = '.' || c = '[' || c = ']' || Text.isAlphanumeric c
  match name, s.dropWhile (· ≠ '>') with
  | c :: r, _ :: rest =>
    let state ← get
    if !isStart c || !r.all isInner || state.names.contains (String.ofList name) then failure
    set { state with rest := rest, names := String.ofList name :: state.names }
  | _, _ => failure

def groupStart : Action (Sum FlagChange FlagChange) := do
  skipSpace
  for mark in ["?=", "?!", "?<=", "?<!"] do
    if ← takeIf mark then failure
  if (← takeIf "?P<") || (← takeIf "?<") then
    groupName
    return .inr []
  if ← takeIf "?" then
    let items ← flagItems false false [] ((← rest').length + 1)
    if (← take) = ')' then
      if items.isEmpty then failure
      return .inl items
    return .inr items
  return .inr []

def setVerbose (change : FlagChange) : Action Unit :=
  match change.lookup .verbose with
  | some b => modify fun r => { r with verbose := b }
  | none => pure ()

def concatOf (items : List Pattern) : Pattern :=
  match items.reverse with
  | [] => .empty
  | [p] => p
  | l => .concat l

mutual

def branches (done : List Pattern) : Nat → Action Pattern
  | 0 => failure
  | fuel + 1 => do
    let branch ← items [] fuel
    if (← peek) = some '|' then
      let _ ← take
      branches (branch :: done) fuel
    else if done.isEmpty then return branch
    else return .alternation (branch :: done).reverse

/-- Reads the items of a branch; `done` has those before, last first. -/
def items (done : List Pattern) : Nat → Action Pattern
  | 0 => failure
  | fuel + 1 => do
    skipSpace
    match ← peek with
    | none | some ')' | some '|' => return concatOf done
    | some '(' =>
      let _ ← take
      match ← groupStart with
      | .inl change =>
        setVerbose change
        items (.flags change :: done) fuel
      | .inr change =>
        let outer := (← get).verbose
        setVerbose change
        let inner ← branches [] fuel
        if (← take) ≠ ')' then failure
        modify fun r => { r with verbose := outer }
        items (.group change inner :: done) fuel
    | some '[' =>
      let c ← bracket fuel
      items (.class' c :: done) fuel
    | some '?' => items (← repetition 0 (some 1) done) fuel
    | some '*' => items (← repetition 0 none done) fuel
    | some '+' => items (← repetition 1 none done) fuel
    | some '\x7b' =>
      if done.isEmpty then failure
      let (least, most) ← counts
      items (← repeatLast least most done) fuel
    | some '\\' => items ((← escape) :: done) fuel
    | some c =>
      let _ ← take
      let p : Pattern := match c with
        | '.' => .dot
        | '^' => .assertion .start
        | '$' => .assertion .finish
        | c => .literal ⟨c, false⟩
      items (p :: done) fuel
where
  repetition (least : Nat) (most : Option Nat) (done : List Pattern) : Action (List Pattern) := do
    let _ ← take
    skipLazy
    repeatLast least most done

end

end Reader

def maxDepth : Nat := 250

def Pattern.parse? (s : String) : Option Pattern := do
  let fuel := 2 * s.toList.length + 2
  let (p, r) ← (Reader.branches [] fuel).run ⟨s.toList, false, []⟩
  if r.rest.isEmpty && p.depth ≤ maxDepth then some p else none

end NodeSurvey.Regex
