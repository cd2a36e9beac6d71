import NodeSurvey.Binary64.Basic

/-! Decimal text of floating-point numbers: the fewest digits that read back as the number, and of
those the nearest to it. Where the point stands and when an exponent is written is a `Layout`. -/

namespace NodeSurvey.Binary64

structure Decimal where
  digits : Nat
  exponent : Int

def tenPower (e : Int) : Nat × Nat :=
  if 0 ≤ e then (Nat.pow 10 e.toNat, 1) else (1, Nat.pow 10 (-e).toNat)

/-- The numbers of the form `n / d` that round to `m · 2 ^ e`, as bounds over a common
denominator: the lower end, the number itself, the upper end, the denominator. -/
def neighbourhood (m : Nat) (e : Int) : Nat × Nat × Nat × Nat :=
  -- below a power of two the numbers lie twice as close
  let close := m = Nat.pow 2 52 ∧ minExponent < e
  let (p, d) := if 0 ≤ e then (Nat.pow 2 e.toNat, 1) else (1, Nat.pow 2 (-e).toNat)
  ((4 * m - if close then 1 else 2) * p, 4 * m * p, (4 * m + 2) * p, 4 * d)

def leadingPower (n d : Nat) : Int :=
  if d ≤ n then ((Nat.toDigits 10 (n / d)).length : Int) - 1
  else
    let guess : Int := ((Nat.toDigits 10 (d / n)).length : Int) - 1
    -- 10 ^ guess ≤ d / n, so the leading power is -guess or one less
    if n * Nat.pow 10 guess.toNat < d then -(guess + 1) else -guess

def onGrid (low value high den : Nat) (closed : Bool) (top : Int) (k : Nat) : Option Decimal :=
  let e : Int := top - (k : Int) + 1
  let (p, q) := tenPower e
  -- candidate c stands for c · p / q, compared with x / den
  let c := value * q / (den * p)
  let inside (c : Nat) : Bool :=
    let x := c * p * den
    if closed then low * q ≤ x && x ≤ high * q else low * q < x && x < high * q
  let gapBelow := value * q - c * p * den
  let gapAbove := (c + 1) * p * den - value * q
  if inside c && (!inside (c + 1) || gapBelow < gapAbove) then some ⟨c, e⟩
  else if inside (c + 1) then some (if c + 1 = Nat.pow 10 k then ⟨1, e + k⟩ else ⟨c + 1, e⟩)
  else none

/-- The shortest decimal that reads back as `m · 2 ^ e`. Seventeen digits always do. -/
def shortest (m : Nat) (e : Int) : Decimal :=
  let (low, value, high, den) := neighbourhood m e
  let top := leadingPower value den
  ((List.range 17).findSome? fun k => onGrid low value high den (m % 2 = 0) top (k + 1)).getD ⟨0, 0⟩

structure Layout where
  /-- Whole numbers end in a point and a zero. -/
  pointed : Bool
  /-- Numbers below `10 ^ -4` or from `10 ^ 16` on are written with an exponent. -/
  scaled : Bool

def Layout.plain : Layout := ⟨false, false⟩

def Layout.pointedPlain : Layout := ⟨true, false⟩

/-- A point or an exponent, whichever is customary for the size of the number. -/
def Layout.compact : Layout := ⟨true, true⟩

def digitText (n : Nat) : List Char := Nat.toDigits 10 n

def positional (pointed : Bool) (x : Decimal) : List Char :=
  let ds := digitText x.digits
  let tail := if pointed then ['.', '0'] else []
  if 0 ≤ x.exponent then
    (if x.digits = 0 then ['0'] else ds ++ List.replicate x.exponent.toNat '0') ++ tail
  else
    let places := (-x.exponent).toNat
    let padded := List.replicate (places + 1 - ds.length) '0' ++ ds
    padded.take (padded.length - places) ++ '.' :: padded.drop (padded.length - places)

def scientific (x : Decimal) : List Char :=
  let power := x.exponent + (digitText x.digits).length - 1
  let mantissa := match digitText x.digits with
    | c :: d :: r => c :: '.' :: d :: r
    | ds => ds
  let sign := if power < 0 then ['-'] else []
  mantissa ++ 'e' :: sign ++ digitText power.natAbs

def render (layout : Layout) : Binary64 → String
  | .nan => "NaN"
  | .infinity negative => if negative then "-inf" else "inf"
  | .finite negative m e =>
    let sign := if negative then ['-'] else []
    let x := if m = 0 then ⟨0, 0⟩ else shortest m e
    let power := x.exponent + (digitText x.digits).length - 1
    let body :=
      if layout.scaled && m ≠ 0 && (power < -4 || 16 ≤ power) then scientific x
      else positional layout.pointed x
    String.ofList (sign ++ body)

end NodeSurvey.Binary64
