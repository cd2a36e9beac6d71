import NodeSurvey.Regex.Parser

/-! Matching a regular expression anywhere in a text. A matcher takes a set of places in the text to
the set of places that can be reached from them, so alternatives cost a union and nothing is tried
twice. Characters of the text are those of a label name; of all others only the two count that
differ from such a character in case alone. -/

namespace NodeSurvey.Regex

/-- A regular expression whose classes are sets of characters. The weight of a set stands for the
room that a compiled form of it would take. -/
inductive Matcher where
  | empty
  | chars (weight : Nat) (accepts : Char → Bool)
  | assertion (a : Assertion)
  | sequence (items : List Matcher)
  | alternation (branches : List Matcher)
  | repeated (least : Nat) (most : Option Nat) (m : Matcher)

structure Flags where
  ignoreCase : Bool
  dotAll : Bool
  unicode : Bool

def Flags.default : Flags := ⟨false, false, true⟩

def Flags.change (f : Flags) (c : FlagChange) : Flags :=
  ⟨(c.lookup .ignoreCase).getD f.ignoreCase, (c.lookup .dotAll).getD f.dotAll,
    (c.lookup .unicode).getD f.unicode⟩

/-- The small letter with a long stem that shares its upper case with `s`. -/
def longS : Char := '\u017F'

/-- The sign of a unit of temperature that shares its lower case with `k`. -/
def kelvin : Char := '\u212A'

def caseVariants (unicode : Bool) (c : Char) : List Char :=
  let extra (c : Char) : List Char :=
    if !unicode then [] else if c = 's' then [longS] else if c = 'k' then [kelvin] else []
  if c.isAlpha then c.toLower :: c.toUpper :: extra c.toLower
  else if unicode && c = longS then ['s', 'S', longS]
  else if unicode && c = kelvin then ['k', 'K', kelvin]
  else [c]

def foldCase (f : Flags) (s : Char → Bool) : Char → Bool :=
  if f.ignoreCase then fun c => (caseVariants f.unicode c).any s else s

def isWordChar (c : Char) : Bool := c.isAlphanum || c = '_'

def Shorthand.accepts (unicode : Bool) : Shorthand → Char → Bool
  | digit, c => c.isDigit
  | space, c => c.toNat = 32 || (9 ≤ c.toNat && c.toNat ≤ 13)
  | word, c => isWordChar c || (unicode && (c = longS || c = kelvin))

/-- A set or its complement. Without regard to the encoding of text a complement would hold parts of
characters, and is refused. -/
def complement? (f : Flags) (negated : Bool) (s : Char → Bool) : Option (Char → Bool) :=
  if !negated then some s else if f.unicode then some fun c => !s c else none

/-- The character of a literal, which must be of one byte where bytes are matched. -/
def classChar? (f : Flags) (l : Literal) : Option Char :=
  if f.unicode || l.char.toNat < 0x80 then some l.char else none

def CharClass.accepts? (f : Flags) : CharClass → Option (Char → Bool)
  | .literal l => (classChar? f l).map fun c x => x = c
  | .range first last => do
    let a ← classChar? f first
    let b ← classChar? f last
    some fun x => a ≤ x && x ≤ b
  | .shorthand kind negated => complement? f negated (kind.accepts f.unicode)
  | .named members negated => complement? f negated (foldCase f members.contains)
  | .property members negated =>
    if f.unicode then complement? f negated (foldCase f members.contains) else none
  | .bracket negated inner => do
    let s ← inner.accepts? f
    complement? f negated (foldCase f s)
  | .union items => acceptsAny? items
  | .operation kind left right => do
    let a ← left.accepts? f
    let b ← right.accepts? f
    let a := foldCase f a
    let b := foldCase f b
    some (match kind with
      | .intersection => fun c => a c && b c
      | .difference => fun c => a c && !b c
      | .symmetricDifference => fun c => a c != b c)
where
  acceptsAny? : List CharClass → Option (Char → Bool)
    | [] => some fun _ => false
    | c :: r => do
      let a ← c.accepts? f
      let b ← acceptsAny? r
      some fun x => a x || b x

/-- The room that a class takes: large where it holds characters of many scripts. -/
def CharClass.weight (unicode : Bool) : CharClass → Nat
  | .literal _ | .range .. | .named .. => 1
  | .shorthand .word _ => if unicode then 1400 else 1
  | .shorthand .digit _ => if unicode then 100 else 1
  | .shorthand .space _ => if unicode then 12 else 1
  | .property .. => 500
  | .bracket negated inner => inner.weight unicode + if negated then 10 else 0
  | .union items => weights items
  | .operation _ left right => left.weight unicode + right.weight unicode
where
  weights : List CharClass → Nat
    | [] => 0
    | c :: r => c.weight unicode + weights r

def literal? (f : Flags) (l : Literal) : Option Matcher :=
  if !f.unicode && l.byte && 0x80 ≤ l.char.toNat then none
  else some (.chars l.char.utf8Size (foldCase f fun c => c = l.char))

mutual

def Pattern.matcher? (f : Flags) : Pattern → Option (Matcher × Flags)
  | .empty => some (.empty, f)
  | .flags change => some (.empty, f.change change)
  | .literal l => (literal? f l).map fun m => (m, f)
  | .dot =>
    if f.unicode then some (.chars 10 (fun c => f.dotAll || c ≠ '\n'), f) else none
  | .assertion a => some (.assertion a, f)
  | .class' c => (c.accepts? f).map fun s => (.chars (c.weight f.unicode) s, f)
  | .repeated least most p => do
    let (m, f) ← p.matcher? f
    some (.repeated least most m, f)
  | .group change p => do
    let (m, _) ← p.matcher? (f.change change)
    some (m, f)
  | .alternation branches => do
    let (ms, f) ← matchers? f branches
    some (.alternation ms, f)
  | .concat items => do
    let (ms, f) ← matchers? f items
    some (.sequence ms, f)

def matchers? (f : Flags) : List Pattern → Option (List Matcher × Flags)
  | [] => some ([], f)
  | p :: r => do
    let (m, f) ← p.matcher? f
    let (ms, f) ← matchers? f r
    some (m :: ms, f)

end

namespace Matcher

def size : Matcher → Nat
  | .empty | .assertion _ => 1
  | .chars weight _ => weight
  | .sequence items => sizes items
  | .alternation branches => 1 + sizes branches
  | .repeated least most m =>
    match most with
    | some most => least * m.size + (most - least) * (m.size + 1)
    | none => (max least 1) * m.size + 1
where
  sizes : List Matcher → Nat
    | [] => 0
    | m :: r => m.size + sizes r

def around (text : List Char) (i : Nat) : Option Char × Option Char :=
  (if i = 0 then none else text[i - 1]?, text[i]?)

def holds (text : List Char) (a : Assertion) (i : Nat) : Bool :=
  let (before, behind) := around text i
  let b := before.any isWordChar
  let a' := behind.any isWordChar
  match a with
  | .start => i = 0
  | .finish => i = text.length
  | .wordBoundary => b != a'
  | .noWordBoundary => b == a'
  | .wordStart => !b && a'
  | .wordEnd => b && !a'
  | .wordStartHalf => !b
  | .wordEndHalf => !a'

def union (s t : List Nat) : List Nat := s ++ t.filter (!s.contains ·)

def times (step : List Nat → List Nat) : Nat → List Nat → List Nat
  | 0, s => s
  | n + 1, s => times step n (step s)

def closure (step : List Nat → List Nat) : Nat → List Nat → List Nat
  | 0, s => s
  | n + 1, s =>
    let t := union s (step s)
    if t.length = s.length then s else closure step n t

/-- The places that a match from one of the given places can end at. A repetition that goes on for
longer than the text repeats nothing, and once is as good as any number of times. -/
def reach (text : List Char) : Matcher → List Nat → List Nat
  | .empty, s => s
  | .chars _ accepts, s => s.filterMap fun i => if text[i]?.any accepts then some (i + 1) else none
  | .assertion a, s => s.filter (holds text a)
  | .sequence items, s => reachAll items s
  | .alternation branches, s => reachAny branches s
  | .repeated least most m, s =>
    let bound := text.length + 1
    let s := times (reach text m) (min least bound) s
    match most with
    | some most => closure (reach text m) (min (most - least) bound) s
    | none => closure (reach text m) bound s
where
  reachAll : List Matcher → List Nat → List Nat
    | [], s => s
    | m :: r, s => reachAll r (reach text m s)
  reachAny : List Matcher → List Nat → List Nat
    | [], _ => []
    | m :: r, s => union (reach text m s) (reachAny r s)

def accepts (m : Matcher) (text : List Char) : Bool :=
  !(reach text m (List.range (text.length + 1))).isEmpty

end Matcher

def maxSize : Nat := 10 * Nat.pow 2 20 / 32

def compile? (s : String) : Option Matcher := do
  let p ← Pattern.parse? s
  let (m, _) ← p.matcher? .default
  if m.size ≤ maxSize then some m else none

end NodeSurvey.Regex
