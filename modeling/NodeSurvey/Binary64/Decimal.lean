import NodeSurvey.Binary64.Basic

/-! Floating-point numbers read from decimal text. -/

namespace NodeSurvey.Binary64

def digitValue (c : Char) : Nat := c.toNat - '0'.toNat

def digitsValue (ds : List Char) : Nat := ds.foldl (fun n c => 10 * n + digitValue c) 0

def splitSign : List Char → Bool × List Char
  | '-' :: r => (true, r)
  | '+' :: r => (false, r)
  | s => (false, s)

def lowered (s : List Char) : List Char := s.map Char.toLower

def exponentText? (s : List Char) : Option Int :=
  let (negative, ds) := splitSign s
  if ds.isEmpty || !ds.all Char.isDigit then none else some (signed negative (digitsValue ds))

/-- A number without sign: digits with at most one point among them, then perhaps `e` and an
exponent. -/
def unsigned? (negative : Bool) (s : List Char) : Option Binary64 :=
  let whole := s.takeWhile Char.isDigit
  let afterWhole := s.dropWhile Char.isDigit
  let (fraction, rest) := match afterWhole with
    | '.' :: r => (r.takeWhile Char.isDigit, r.dropWhile Char.isDigit)
    | r => ([], r)
  if whole.isEmpty && fraction.isEmpty then none
  else
    let digits := digitsValue (whole ++ fraction)
    let shift : Int := -(fraction.length : Int)
    match rest with
    | [] => some (ofDecimal negative digits shift)
    | c :: r =>
      if c = 'e' || c = 'E' then
        (exponentText? r).map fun e => ofDecimal negative digits (e + shift)
      else none

def parse? (s : List Char) : Option Binary64 :=
  let (negative, r) := splitSign s
  let word := String.ofList (lowered r)
  if word = "inf" || word = "infinity" then some (.infinity negative)
  else if word = "nan" then some .nan
  else unsigned? negative r

end NodeSurvey.Binary64
