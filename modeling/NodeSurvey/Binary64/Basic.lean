/-! Binary floating-point numbers of 64 bits as exact values. Every operation computes the exact
rational result and rounds it once, to the nearest number and from a half to the even mantissa. -/

namespace NodeSurvey

/-- A number is `± mantissa · 2 ^ exponent`; `mantissa < 2 ^ 53` and `-1074 ≤ exponent ≤ 971`. -/
inductive Binary64 where
  | nan
  | infinity (negative : Bool)
  | finite (negative : Bool) (mantissa : Nat) (exponent : Int)
deriving DecidableEq

namespace Binary64

def minExponent : Int := -1074

def maxExponent : Int := 971

def zero (negative : Bool) : Binary64 := .finite negative 0 minExponent

instance : Inhabited Binary64 := ⟨zero false⟩

/-- The quotient rounded to the nearest whole number, from a half to the even one. -/
def divEven (n d : Nat) : Nat :=
  let q := n / d
  let r := n % d
  if 2 * r < d then q
  else if d < 2 * r then q + 1
  else if q % 2 = 0 then q else q + 1

def scale (n d : Nat) (e : Int) : Nat × Nat :=
  if 0 ≤ e then (n, d * Nat.pow 2 e.toNat) else (n * Nat.pow 2 (-e).toNat, d)

/-- The exponent for which `n / d` has a mantissa of 53 bits, or the least one. -/
def exponentOf (n d : Nat) : Int :=
  let e : Int := (Nat.log2 n : Int) - (Nat.log2 d : Int) - 53
  let (n', d') := scale n d e
  max minExponent (if d' * Nat.pow 2 53 ≤ n' then e + 1 else e)

def ofRatio (negative : Bool) (n d : Nat) : Binary64 :=
  if n = 0 then zero negative
  else
    let e := exponentOf n d
    let (n', d') := scale n d e
    let m := divEven n' d'
    let (m, e) := if m = Nat.pow 2 53 then (Nat.pow 2 52, e + 1) else (m, e)
    if maxExponent < e then .infinity negative else .finite negative m e

def ofScaled (negative : Bool) (m : Nat) (e : Int) : Binary64 :=
  if 0 ≤ e then ofRatio negative (m * Nat.pow 2 e.toNat) 1
  else ofRatio negative m (Nat.pow 2 (-e).toNat)

/-- The number nearest to `± digits · 10 ^ exponent`. Far outside the range of the numbers the
power is not computed. -/
def ofDecimal (negative : Bool) (digits : Nat) (exponent : Int) : Binary64 :=
  let size : Int := Nat.log2 digits / 3 + 1 + exponent
  if digits = 0 then zero negative
  else if 500 < exponent then .infinity negative
  else if size < -500 then zero negative
  else if 0 ≤ exponent then ofRatio negative (digits * Nat.pow 10 exponent.toNat) 1
  else ofRatio negative digits (Nat.pow 10 (-exponent).toNat)

def signed (negative : Bool) (n : Nat) : Int := if negative then -(n : Int) else n

def add : Binary64 → Binary64 → Binary64
  | .nan, _ | _, .nan => .nan
  | .infinity s, .infinity t => if s = t then .infinity s else .nan
  | .infinity s, _ => .infinity s
  | _, .infinity t => .infinity t
  | .finite s m e, .finite t n f =>
    let g := min e f
    let sum := signed s (m * Nat.pow 2 (e - g).toNat) + signed t (n * Nat.pow 2 (f - g).toNat)
    if sum = 0 then zero (s && t) else ofScaled (sum < 0) sum.natAbs g

def mul : Binary64 → Binary64 → Binary64
  | .nan, _ | _, .nan => .nan
  | .infinity s, .infinity t => .infinity (s != t)
  | .infinity s, .finite t n _ => if n = 0 then .nan else .infinity (s != t)
  | .finite s m _, .infinity t => if m = 0 then .nan else .infinity (s != t)
  | .finite s m e, .finite t n f =>
    if m * n = 0 then zero (s != t) else ofScaled (s != t) (m * n) (e + f)

instance : Add Binary64 := ⟨add⟩
instance : Mul Binary64 := ⟨mul⟩

def ofNat (n : Nat) : Binary64 := ofRatio false n 1

def isFinite : Binary64 → Bool
  | .finite .. => true
  | _ => false

/-- Equality of values: the two zeros are equal, and not-a-number equals itself. -/
def sameValue : Binary64 → Binary64 → Bool
  | .finite s m e, .finite t n f => if m = 0 ∧ n = 0 then true else s = t && m = n && e = f
  | x, y => x = y

/-- The nearest whole number between zero and `top`, a half counting up; nothing for no number. -/
def clampNat (top : Nat) : Binary64 → Nat
  | .nan => 0
  | .infinity negative => if negative then 0 else top
  | .finite negative m e =>
    if negative then 0
    else if 0 ≤ e then min top (m * Nat.pow 2 e.toNat)
    else
      let d := Nat.pow 2 (-e).toNat
      min top ((2 * m + d) / (2 * d))

end Binary64

end NodeSurvey
