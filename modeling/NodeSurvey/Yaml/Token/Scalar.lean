import NodeSurvey.Yaml.Glyph

/-! The text of scalars. In plain and quoted scalars a line end becomes a space, unless lines
without text follow, which stand for line ends; in block scalars the layout is kept or folded. -/

namespace NodeSurvey.Yaml

/-- White space inside a scalar that awaits the text behind it. -/
structure Fold where
  /-- Spaces and tabs before the first line end, last first. -/
  spaces : List Char
  /-- The first line end, unless it was escaped. -/
  first : Option Char
  /-- Further line ends, last first. -/
  more : List Char
  broken : Bool

def Fold.none : Fold := ⟨[], Option.none, [], false⟩

def Fold.push (f : Fold) (c : Char) : Fold :=
  if isBreak c then
    if f.broken then { f with more := c :: f.more } else ⟨[], some c, [], true⟩
  else if f.broken then f
  else { f with spaces := c :: f.spaces }

def Fold.text (f : Fold) : List Char :=
  if !f.broken then f.spaces.reverse
  else
    match f.first with
    | some '\n' => if f.more.isEmpty then [' '] else f.more.reverse
    | some c => c :: f.more.reverse
    | Option.none => f.more.reverse

def isFlowMark (c : Char) : Bool := c = ',' || c = '[' || c = ']' || c = '{' || c = '}'

structure Scanned where
  text : String
  broken : Bool
  rest : List Glyph

/-- Reads a plain scalar; `acc` is its text so far, last character first. In flow context brackets
and commas end it, in block context a line that is indented less than `indent`. -/
def plainScalar? (flow : Bool) (indent : Nat) (acc : List Char) (fold : Fold) (fresh : Bool) :
    List Glyph → Option Scanned
  | [] => none
  | g :: r =>
    let stop : Scanned := ⟨String.ofList acc.reverse, fold.broken, g :: r⟩
    let next := peek r
    if isGap g.char || isBreak g.char then
      if fold.broken && g.column < indent && g.char = '\t' then none
      else plainScalar? flow indent acc (fold.push g.char) true r
    else if isEnd g.char then some stop
    else if fresh && ((!flow && g.column < indent && fold.broken) || atDocumentMark (g :: r) ||
        g.char = '#') then some stop
    else if flow && g.char = ':' && (next = '?' || isFlowMark next) then none
    else if (g.char = ':' && isGapOrEnd next) || (flow && isFlowMark g.char) then some stop
    else plainScalar? flow indent (g.char :: (fold.text.reverse ++ acc)) .none false r

def hexValue? (c : Char) : Option Nat :=
  if '0' ≤ c ∧ c ≤ '9' then some (c.toNat - 48)
  else if 'a' ≤ c ∧ c ≤ 'f' then some (c.toNat - 87)
  else if 'A' ≤ c ∧ c ≤ 'F' then some (c.toNat - 55)
  else none

def hexChar? (n : Nat) (gs : List Glyph) : Option Char := do
  let ds ← (gs.take n).mapM fun g => hexValue? g.char
  let v := ds.foldl (fun v d => 16 * v + d) 0
  if ds.length = n ∧ v.isValidChar then some (Char.ofNat v) else none

def simpleEscape? : Char → Option Char
  | '0' => some '\x00'
  | 'a' => some '\x07'
  | 'b' => some '\x08'
  | 't' => some '\t'
  | '\t' => some '\t'
  | 'n' => some '\n'
  | 'v' => some '\x0b'
  | 'f' => some '\x0c'
  | 'r' => some '\r'
  | 'e' => some '\x1b'
  | ' ' => some ' '
  | '"' => some '"'
  | '/' => some '/'
  | '\\' => some '\\'
  | 'N' => some '\u0085'
  | '_' => some '\u00a0'
  | 'L' => some '\u2028'
  | 'P' => some '\u2029'
  | _ => none

def hexDigits? : Char → Option Nat
  | 'x' => some 2
  | 'u' => some 4
  | 'U' => some 8
  | _ => none

def singleQuoted? (acc : List Char) (fold : Fold) : List Glyph → Option Scanned
  | [] => none
  | [g] =>
    if g.char = '\'' then some ⟨String.ofList (fold.text.reverse ++ acc).reverse, false, []⟩
    else none
  | g :: h :: r =>
    if isGap g.char || isBreak g.char then singleQuoted? acc (fold.push g.char) (h :: r)
    else if isEnd g.char || atDocumentMark (g :: h :: r) then none
    else
      let acc := fold.text.reverse ++ acc
      if g.char = '\'' then
        if h.char = '\'' then singleQuoted? ('\'' :: acc) .none r
        else some ⟨String.ofList acc.reverse, false, h :: r⟩
      else singleQuoted? (g.char :: acc) .none (h :: r)

def doubleQuoted? (acc : List Char) (fold : Fold) : List Glyph → Option Scanned
  | [] => none
  | g :: r =>
    if isGap g.char || isBreak g.char then doubleQuoted? acc (fold.push g.char) r
    else if isEnd g.char || atDocumentMark (g :: r) then none
    else
      let acc := fold.text.reverse ++ acc
      if g.char = '"' then some ⟨String.ofList acc.reverse, false, r⟩
      else if g.char = '\\' then
        match r with
        | [] => none
        | e :: r =>
          if isBreak e.char then doubleQuoted? acc ⟨[], none, [], true⟩ r
          else
            match simpleEscape? e.char, hexDigits? e.char with
            | some c, _ => doubleQuoted? (c :: acc) .none r
            | none, some n =>
              match hexChar? n r with
              | some c => doubleQuoted? (c :: acc) .none (r.drop n)
              | none => none
            | none, none => none
      else doubleQuoted? (g.char :: acc) .none r
termination_by gs => gs.length
decreasing_by all_goals (simp only [List.length_cons, List.length_drop]; omega)

inductive Chomping where
  | strip
  | clip
  | keep
deriving DecidableEq

def blockHeader? (gs : List Glyph) : Option (Option Nat × Chomping × List Glyph) :=
  let chomping? (gs : List Glyph) : Option Chomping :=
    if peek gs = '+' then some .keep else if peek gs = '-' then some .strip else none
  let indentation (gs : List Glyph) : Option (Option Nat × List Glyph) :=
    if (peek gs).isDigit then
      if peek gs = '0' then none else some (some ((peek gs).toNat - 48), gs.tail)
    else some (none, gs)
  match chomping? gs with
  | some c => (indentation gs.tail).map fun (n, gs) => (n, c, gs)
  | none =>
    (indentation gs).map fun (n, gs) =>
      match n, chomping? gs with
      | some n, some c => (some n, c, gs.tail)
      | n, _ => (n, .clip, gs)

/-- Indentation and empty lines before the next line of a block scalar: the widest indentation seen,
the line ends and the rest. With an indentation of zero, the indentation is still to be found. -/
def blockBreaks? (indent widest : Nat) (breaks : List Char) :
    List Glyph → Option (Nat × List Char × List Glyph)
  | [] => none
  | g :: r =>
    let inside := indent = 0 || g.column < indent
    if inside && g.char = ' ' then blockBreaks? indent widest breaks r
    else if inside && g.char = '\t' then none
    else if isBreak g.char then blockBreaks? indent (max widest g.column) (g.char :: breaks) r
    else some (max widest g.column, breaks.reverse, g :: r)

/-- The lines of a block scalar. `last` is the end of the line before, `trailing` the ends of the
empty lines since, and `spaced` says whether the line before started with white space. -/
def blockLines? (literal : Bool) (indent : Nat) (chomping : Chomping) :
    Nat → List Char → Option Char → List Char → Bool → List Glyph → Option Scanned
  | 0, _, _, _, _, _ => none
  | fuel + 1, acc, last, trailing, spaced, gs =>
    if column gs = indent && !isEnd (peek gs) then
      let blank := isGap (peek gs)
      let gap : List Char :=
        if !literal && last = some '\n' && !spaced && !blank then
          (if trailing.isEmpty then [' '] else []) ++ trailing
        else last.toList ++ trailing
      let line := (gs.takeWhile fun g => !isBreakOrEnd g.char).map (·.char)
      let acc := line.reverse ++ (gap.reverse ++ acc)
      let gs := dropLine gs
      let (last, gs) := if isBreak (peek gs) then (some (peek gs), gs.tail) else (none, gs)
      match blockBreaks? indent 0 [] gs with
      | some (_, trailing, gs) =>
        blockLines? literal indent chomping fuel acc last trailing blank gs
      | none => none
    else
      let tail := match chomping with
        | .strip => []
        | .clip => last.toList
        | .keep => last.toList ++ trailing
      some ⟨String.ofList (acc.reverse ++ tail), false, gs⟩

def blockScalar? (literal : Bool) (parent : Option Nat) (gs : List Glyph) : Option Scanned := do
  let (increment, chomping, gs) ← blockHeader? gs
  let gs ← dropComment? gs
  let given := match increment with
    | some n => parent.getD 0 + n
    | none => 0
  let (widest, breaks, gs) ← blockBreaks? given 0 [] gs
  let least := match parent with
    | some p => p + 1
    | none => 1
  let indent := if given = 0 then max widest least else given
  blockLines? literal indent chomping (gs.length + 1) [] none breaks false gs

end NodeSurvey.Yaml
