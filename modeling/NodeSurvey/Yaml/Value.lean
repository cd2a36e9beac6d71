import NodeSurvey.Binary64.Basic

/-! Document values. Mappings keep the order of their entries, and no key occurs twice in one; which
keys are the same is decided by `same`, which ignores the order of entries inside a key. -/

namespace NodeSurvey.Yaml

inductive Value where
  | null
  | bool (b : Bool)
  | int (n : Int)
  | float (x : Binary64)
  | string (s : String)
  | sequence (items : List Value)
  | mapping (entries : List (Value × Value))
  | tagged (name : String) (value : Value)

namespace Value

instance : Inhabited Value := ⟨null⟩

mutual

def same : Value → Value → Bool
  | .null, .null => true
  | .bool a, .bool b => a = b
  | .int a, .int b => a = b
  | .float a, .float b => a.sameValue b
  | .string a, .string b => a = b
  | .sequence a, .sequence b => sameItems a b
  | .mapping a, .mapping b => a.length = b.length && sameEntries a b
  | .tagged s a, .tagged t b => s = t && same a b
  | _, _ => false

def sameItems : List Value → List Value → Bool
  | [], [] => true
  | a :: r, b :: s => same a b && sameItems r s
  | _, _ => false

def sameEntries : List (Value × Value) → List (Value × Value) → Bool
  | [], _ => true
  | (k, v) :: r, b => b.any (fun e => same k e.1 && same v e.2) && sameEntries r b

end

def isNull : Value → Bool
  | .null => true
  | _ => false

def untagged : Value → Value
  | .tagged _ v => untagged v
  | v => v

def text? (v : Value) : Option String :=
  match v.untagged with
  | .string s => some s
  | _ => none

def lookup (k : Value) : List (Value × Value) → Option Value
  | [] => none
  | (k', v) :: r => if same k' k then some v else lookup k r

/-- Adds `patch` to a mapping under a key: what is there changes by `f`, and a null adds nothing. -/
def update (f : Value → Value) (k patch : Value) : List (Value × Value) → List (Value × Value)
  | [] => if patch.isNull then [] else [(k, patch)]
  | (k', v) :: r => if same k' k then (k', f v) :: r else (k', v) :: update f k patch r

mutual

/-- Lays a patch over a value. Mappings are merged entry by entry, a null leaves what is there, and
everything else takes its place. -/
def merge (base : Value) : Value → Value
  | .null => base
  | .mapping p =>
    match base with
    | .mapping b => .mapping (mergeEntries b p)
    | _ => .mapping p
  | .bool b => .bool b
  | .int n => .int n
  | .float x => .float x
  | .string s => .string s
  | .sequence l => .sequence l
  | .tagged t v => .tagged t v

def mergeEntries (base : List (Value × Value)) : List (Value × Value) → List (Value × Value)
  | [] => base
  | (k, v) :: r => mergeEntries (update (fun old => merge old v) k v base) r

end

end Value

end NodeSurvey.Yaml
