/-! Text from bytes. A byte sequence is cut into characters and ill-formed pieces, where an
ill-formed piece is as long as it could still have become a character. -/

namespace NodeSurvey.Text.Utf8

/-- What has been read of a character: the number of bytes still owed, the bits read so far and the
range in which the next byte must be. -/
structure Pending where
  owed : Nat
  bits : Nat
  low : Nat
  high : Nat

def lead (b : Nat) : Option Pending :=
  if 0xC2 ≤ b && b ≤ 0xDF then some ⟨1, b - 0xC0, 0x80, 0xBF⟩
  else if b = 0xE0 then some ⟨2, 0, 0xA0, 0xBF⟩
  else if b = 0xED then some ⟨2, 0xD, 0x80, 0x9F⟩
  else if 0xE1 ≤ b && b ≤ 0xEF then some ⟨2, b - 0xE0, 0x80, 0xBF⟩
  else if b = 0xF0 then some ⟨3, 0, 0x90, 0xBF⟩
  else if 0xF1 ≤ b && b ≤ 0xF3 then some ⟨3, b - 0xF0, 0x80, 0xBF⟩
  else if b = 0xF4 then some ⟨3, 4, 0x80, 0x8F⟩
  else none

def start (b : Nat) : List (Option Char) × Option Pending :=
  if b < 0x80 then ([some (Char.ofNat b)], none)
  else
    match lead b with
    | some p => ([], some p)
    | none => ([none], none)

def step : Option Pending → Nat → List (Option Char) × Option Pending
  | none, b => start b
  | some p, b =>
    if p.low ≤ b && b ≤ p.high then
      let bits := p.bits * 64 + (b - 0x80)
      if p.owed ≤ 1 then ([some (Char.ofNat bits)], none)
      else ([], some ⟨p.owed - 1, bits, 0x80, 0xBF⟩)
    else
      let (pieces, p') := start b
      (none :: pieces, p')

/-- The characters of a byte sequence, `none` for an ill-formed piece. -/
def pieces (p : Option Pending) : List UInt8 → List (Option Char)
  | [] => if p.isSome then [none] else []
  | b :: r =>
    let (out, p') := step p b.toNat
    out ++ pieces p' r

def decode? (bs : List UInt8) : Option String := ((pieces none bs).mapM id).map String.ofList

def decodeLossy (bs : List UInt8) : String :=
  String.ofList ((pieces none bs).map (·.getD '\uFFFD'))

end NodeSurvey.Text.Utf8
