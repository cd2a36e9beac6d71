import NodeSurvey.Binary64.Decimal
import NodeSurvey.Yaml.Tag
import NodeSurvey.Yaml.Value

/-! Which value a scalar stands for. A plain scalar is null, a truth value or a number if it looks
like one, and text otherwise; a quoted one is text unless its tag asks for more. -/

namespace NodeSurvey.Yaml.Scalar

def isNull (s : String) : Bool := s = "~" || s = "null" || s = "Null" || s = "NULL"

def bool? (s : String) : Option Bool :=
  if s = "true" || s = "True" || s = "TRUE" then some true
  else if s = "false" || s = "False" || s = "FALSE" then some false
  else none

def digit? (base : Nat) (c : Char) : Option Nat :=
  let d :=
    if '0' ≤ c ∧ c ≤ '9' then c.toNat - 48
    else if 'a' ≤ c ∧ c ≤ 'z' then c.toNat - 87
    else if 'A' ≤ c ∧ c ≤ 'Z' then c.toNat - 55
    else base
  if d < base then some d else none

def digits? (base : Nat) (s : List Char) : Option Nat :=
  if s.isEmpty then none
  else s.foldlM (fun n c => (digit? base c).map (base * n + ·)) 0

def dropPlus : List Char → List Char
  | '+' :: r => r
  | s => s

/-- A zero with more digits behind it, signed or not, is text. -/
def isPadded (s : List Char) : Bool :=
  let s := match s with
    | '-' :: r | '+' :: r => r
    | s => s
  match s with
  | '0' :: c :: r => (c :: r).all Char.isDigit
  | _ => false

def based? : List Char → Option Nat
  | '0' :: 'x' :: r => digits? 16 r
  | '0' :: 'o' :: r => digits? 8 r
  | '0' :: 'b' :: r => digits? 2 r
  | _ => none

def unsigned? (s : List Char) : Option Nat :=
  match based? (dropPlus s) with
  | some n => some n
  | none => if isPadded s then none else digits? 10 (dropPlus s)

def negative? (s : List Char) : Option Nat :=
  match s with
  | '-' :: r =>
    match based? r with
    | some n => some n
    | none => if isPadded s then none else digits? 10 r
  | _ => none

/-- What a whole number comes to. Those beyond 64 bits are refused while 128 bits hold them, and are
no whole numbers beyond that. -/
inductive IntReading where
  | int (n : Int)
  | tooLarge
  | notInt

def readInt (s : List Char) : IntReading :=
  match unsigned? s, negative? s with
  | some n, _ =>
    if n < Nat.pow 2 64 then .int n else if n < Nat.pow 2 128 then .tooLarge else .notInt
  | none, some n =>
    if n ≤ Nat.pow 2 63 then .int (-(n : Int)) else if n ≤ Nat.pow 2 127 then .tooLarge else .notInt
  | none, none => .notInt

def float? (s : List Char) : Option Binary64 :=
  let signed := match s with
    | '+' :: '+' :: _ | '+' :: '-' :: _ => none
    | '+' :: r => some r
    | s => some s
  match signed with
  | none => none
  | some r =>
    let word := String.ofList r
    let whole := String.ofList s
    if word = ".inf" || word = ".Inf" || word = ".INF" then some (.infinity false)
    else if whole = "-.inf" || whole = "-.Inf" || whole = "-.INF" then some (.infinity true)
    else if whole = ".nan" || whole = ".NaN" || whole = ".NAN" then some .nan
    else (Binary64.parse? r).filter (·.isFinite)

def plain? (s : String) : Option Value :=
  if s.isEmpty || isNull s then some .null
  else
    match bool? s with
    | some b => some (.bool b)
    | none =>
      match readInt s.toList with
      | .int n => some (.int n)
      | .tooLarge => none
      | .notInt =>
        match if isPadded s.toList then none else float? s.toList with
        | some x => some (.float x)
        | none => some (.string s)

def typed? (type : CoreType) (s : String) : Option Value :=
  match type with
  | .bool => (bool? s).map .bool
  | .int =>
    match readInt s.toList with
    | .int n => some (.int n)
    | _ => none
  | .float => (float? s.toList).map .float
  | .null => if isNull s then some .null else none

def untagged? (plain : Bool) (s : String) : Option Value :=
  if plain then plain? s else some (.string s)

def value? (tag : Option Tag) (plain : Bool) (s : String) : Option Value :=
  match tag with
  | none => untagged? plain s
  | some (.named name) => (untagged? plain s).map (.tagged name)
  | some (.core type) => typed? type s
  | some .unreadable => untagged? plain s
  | some .foreign => some (.string s)

end NodeSurvey.Yaml.Scalar
