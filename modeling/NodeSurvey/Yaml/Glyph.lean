/-! The characters of a document with their places in it. Line ends of every kind become one glyph
each, and a last glyph marks the end of the text, so that a reader can always look at the next one
and ask where it stands. -/

namespace NodeSurvey.Yaml

structure Glyph where
  char : Char
  line : Nat
  column : Nat
  index : Nat

/-- The character of the glyph that ends a text. No text contains it. -/
def endChar : Char := '\x00'

/-- Line ends, after all common ones have become newlines. -/
def isBreak (c : Char) : Bool := c = '\n' || c = '\u2028' || c = '\u2029'

def isGap (c : Char) : Bool := c = ' ' || c = '\t'

def isEnd (c : Char) : Bool := c = endChar

def isBreakOrEnd (c : Char) : Bool := isBreak c || isEnd c

def isGapOrEnd (c : Char) : Bool := isGap c || isBreakOrEnd c

def isAllowed (c : Char) : Bool :=
  let n := c.toNat
  n = 9 || n = 10 || n = 13 || (0x20 ≤ n && n ≤ 0x7E) || n = 0x85 || (0xA0 ≤ n && n ≤ 0xD7FF) ||
    (0xE000 ≤ n && n ≤ 0xFFFD) || 0x10000 ≤ n

def byteOrderMark : Char := '\uFEFF'

def glyphsFrom (line column index : Nat) : List Char → List Glyph
  | [] => [⟨endChar, line, column, index⟩]
  | '\r' :: '\n' :: r => ⟨'\n', line, column, index⟩ :: glyphsFrom (line + 1) 0 (index + 2) r
  | c :: r =>
    if c = '\n' || c = '\r' || c = '\u0085' then
      ⟨'\n', line, column, index⟩ :: glyphsFrom (line + 1) 0 (index + 1) r
    else if isBreak c then ⟨c, line, column, index⟩ :: glyphsFrom (line + 1) 0 (index + 1) r
    else ⟨c, line, column, index⟩ :: glyphsFrom line (column + 1) (index + 1) r

/-- The glyphs of a document, if all its characters are allowed. A byte order mark in front does
not count. -/
def glyphs? (s : String) : Option (List Glyph) :=
  let text := match s.toList with
    | c :: r => if c = byteOrderMark then r else c :: r
    | [] => []
  if text.all isAllowed then some (glyphsFrom 0 0 0 text) else none

def peek (gs : List Glyph) : Char := (gs.head?.map (·.char)).getD endChar

def peekAt (n : Nat) (gs : List Glyph) : Char := ((gs[n]?).map (·.char)).getD endChar

def column (gs : List Glyph) : Nat := (gs.head?.map (·.column)).getD 0

def atDocumentMark (gs : List Glyph) : Bool :=
  column gs = 0 && (peek gs = '-' || peek gs = '.') && peekAt 1 gs = peek gs &&
    peekAt 2 gs = peek gs && isGapOrEnd (peekAt 3 gs)

def dropGaps (gs : List Glyph) : List Glyph := gs.dropWhile fun g => isGap g.char

def dropLine (gs : List Glyph) : List Glyph := gs.dropWhile fun g => !isBreakOrEnd g.char

def dropComment? (gs : List Glyph) : Option (List Glyph) :=
  let gs := dropGaps gs
  let gs := if peek gs = '#' then dropLine gs else gs
  if isBreak (peek gs) then some gs.tail
  else if isEnd (peek gs) then some gs
  else none

end NodeSurvey.Yaml
