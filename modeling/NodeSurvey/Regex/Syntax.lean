/-! The structure of regular expressions as they are written. -/

namespace NodeSurvey.Regex

inductive Flag where
  | ignoreCase
  | multiLine
  | dotAll
  | swapGreed
  | unicode
  | crlf
  | verbose
deriving DecidableEq

def Flag.ofChar? : Char → Option Flag
  | 'i' => some ignoreCase
  | 'm' => some multiLine
  | 's' => some dotAll
  | 'U' => some swapGreed
  | 'u' => some unicode
  | 'R' => some crlf
  | 'x' => some verbose
  | _ => none

abbrev FlagChange := List (Flag × Bool)

/-- A literal character; `byte` says that it was written as two hexadecimal digits. -/
structure Literal where
  char : Char
  byte : Bool

inductive Shorthand where
  | digit
  | space
  | word
deriving DecidableEq

inductive ClassOperation where
  | intersection
  | difference
  | symmetricDifference
deriving DecidableEq

inductive CharClass where
  | literal (l : Literal)
  | range (first last : Literal)
  | shorthand (kind : Shorthand) (negated : Bool)
  | named (members : List Char) (negated : Bool)
  | property (members : List Char) (negated : Bool)
  | bracket (negated : Bool) (inner : CharClass)
  | union (items : List CharClass)
  | operation (kind : ClassOperation) (left right : CharClass)

inductive Assertion where
  | start
  | finish
  | wordBoundary
  | noWordBoundary
  | wordStart
  | wordEnd
  | wordStartHalf
  | wordEndHalf
deriving DecidableEq

inductive Pattern where
  | empty
  | flags (change : FlagChange)
  | literal (l : Literal)
  | dot
  | assertion (a : Assertion)
  | class' (c : CharClass)
  | repeated (least : Nat) (most : Option Nat) (p : Pattern)
  | group (change : FlagChange) (p : Pattern)
  | alternation (branches : List Pattern)
  | concat (items : List Pattern)

def CharClass.depth : CharClass → Nat
  | .bracket _ inner => inner.depth + 1
  | .union items => depths items + 1
  | .operation _ left right => max left.depth right.depth + 1
  | _ => 0
where
  depths : List CharClass → Nat
    | [] => 0
    | c :: r => max c.depth (depths r)

def Pattern.depth : Pattern → Nat
  | .class' (.bracket _ inner) => inner.depth + 1
  | .repeated _ _ p | .group _ p => p.depth + 1
  | .alternation items | .concat items => depths items + 1
  | _ => 0
where
  depths : List Pattern → Nat
    | [] => 0
    | p :: r => max p.depth (depths r)

end NodeSurvey.Regex
