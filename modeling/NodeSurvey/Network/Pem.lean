import NodeSurvey.Text.Blank

/-! Certificates and keys as text: blocks of base 64 between marker lines. What is around the blocks
is comment. Of what a block holds only the outer form is looked at, a sequence of the right length;
what is in it is between the two ends of a connection. -/

namespace NodeSurvey.Network.Pem

def digit? (c : Char) : Option Nat :=
  if 'A' ≤ c ∧ c ≤ 'Z' then some (c.toNat - 65)
  else if 'a' ≤ c ∧ c ≤ 'z' then some (c.toNat - 71)
  else if '0' ≤ c ∧ c ≤ '9' then some (c.toNat + 4)
  else if c = '+' then some 62
  else if c = '/' then some 63
  else none

/-- The bytes in a row of digits. Two or three digits may be left at the end, but the bits that make
no byte must be zero. -/
def bytes : List Nat → Option (List UInt8)
  | [] => some []
  | [a, b] => if b % 16 = 0 then some [(4 * a + b / 16).toUInt8] else none
  | [a, b, c] =>
    if c % 4 = 0 then some [(4 * a + b / 16).toUInt8, (16 * (b % 16) + c / 4).toUInt8] else none
  | a :: b :: c :: d :: r => do
    let rest ← bytes r
    some ((4 * a + b / 16).toUInt8 :: (16 * (b % 16) + c / 4).toUInt8 ::
      (64 * (c % 4) + d).toUInt8 :: rest)
  | [_] => none

def decode? (s : List Char) : Option (List UInt8) :=
  let digits := s.takeWhile (· != '=')
  let fill := s.length - digits.length
  if (s.dropWhile (· != '=')).all (· = '=') && (fill = 0 || (digits.length + fill) % 4 = 0) &&
      fill ≤ 2 then do bytes (← digits.mapM digit?)
  else none

structure Block where
  label : List Char
  body : List UInt8
deriving DecidableEq

def beginMark : List Char := "-----BEGIN ".toList

def dashes : List Char := "-----".toList

def endMark (label : List Char) : List Char := "-----END ".toList ++ label ++ dashes

/-- The line without the blanks that an editor may leave at its end. -/
def bare (line : List Char) : List Char :=
  (line.reverse.dropWhile fun c => c = ' ' || c = '\r').reverse

def label? (line : List Char) : Option (List Char) :=
  let rest := (bare line).drop beginMark.length
  let label := (rest.reverse.dropWhile (· = '-')).reverse
  if rest.length = label.length + dashes.length then some label else none

/-- The blocks in a list of lines, with `none` at the end if the text breaks off or goes wrong. The
label and the digits of the block that is open are given. -/
def blocks (opened : Option (List Char)) (digits : List Char) :
    List (List Char) → List (Option Block)
  | [] => if opened.isSome then [none] else []
  | line :: r =>
    if beginMark.isPrefixOf line then
      match label? line with
      | some label => blocks (some label) digits r
      | none => [none]
    else
      match opened with
      | none => blocks none digits r
      | some label =>
        if (endMark label).isPrefixOf line then
          match decode? digits with
          | some body => some ⟨label, body⟩ :: blocks none [] r
          | none => [none]
        else blocks (some label) (digits ++ bare line) r

def ofText (s : String) : List (Option Block) := blocks none [] (Text.split '\n' s.toList)

/-- Whether bytes are a sequence of exactly their length. -/
def isSequence : List UInt8 → Bool
  | tag :: first :: r =>
    tag = 0x30 &&
      if first < 0x80 then first.toNat = r.length
      else
        let count := first.toNat - 0x80
        0 < count && count ≤ r.length &&
          (r.take count).foldl (fun n b => 256 * n + b.toNat) 0 = r.length - count
  | _ => false

def Block.isCertificate (b : Block) : Bool := b.label = "CERTIFICATE".toList

def Block.isKey (b : Block) : Bool :=
  ["PRIVATE KEY", "RSA PRIVATE KEY", "EC PRIVATE KEY"].any fun s => b.label = s.toList

def certificates? (s : String) : Option (List Block) :=
  (ofText s).foldr (fun b found => do
    let b ← b
    let found ← found
    if b.isCertificate then (if isSequence b.body then some (b :: found) else none)
    else some found) (some [])

def key? (s : String) : Option Block :=
  match (ofText s).find? fun b => b.all Block.isKey with
  | some (some b) => if isSequence b.body then some b else none
  | _ => none

end NodeSurvey.Network.Pem
