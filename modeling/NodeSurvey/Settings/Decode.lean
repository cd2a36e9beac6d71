import NodeSurvey.Binary64.Shortest
import NodeSurvey.Dict
import NodeSurvey.Text.Quoted
import NodeSurvey.Yaml.Value

/-! Typed values out of document values. Tags are looked through everywhere, a null stands for an
empty collection, and the first entry that does not fit is reported. -/

namespace NodeSurvey.Settings

open Yaml

inductive Shape where
  | null
  | bool (b : Bool)
  | int (n : Int)
  | float (x : Binary64)
  | string (s : String)
  | sequence
  | mapping
deriving DecidableEq

def Shape.of : Value → Shape
  | .null => null
  | .bool b => bool b
  | .int n => int n
  | .float x => float x
  | .string s => string s
  | .sequence _ => sequence
  | .mapping _ => mapping
  | .tagged _ v => Shape.of v

def Shape.text : Shape → String
  | null => "unit value"
  | bool b => "boolean `" ++ (if b then "true" else "false") ++ "`"
  | int n => "integer `" ++ (if n < 0 then "-" else "") ++ Nat.repr n.natAbs ++ "`"
  | float x => "floating point `" ++ x.render .pointedPlain ++ "`"
  | string s => "string " ++ Text.quoted s
  | sequence => "sequence"
  | mapping => "map"

inductive DecodeError where
  | mismatch (found : Shape) (expected : String)
  | repeatedField (name : String)
deriving DecidableEq

def DecodeError.message : DecodeError → String
  | mismatch found expected => "invalid type: " ++ found.text ++ ", expected " ++ expected
  | repeatedField name => "duplicate field `" ++ name ++ "`"

abbrev Decoder (α : Type) := Value → Except DecodeError α

namespace Decode

def mismatch {α : Type} (v : Value) (expected : String) : Except DecodeError α :=
  .error (.mismatch (Shape.of v) expected)

def bool : Decoder Bool := fun v =>
  match v.untagged with
  | .bool b => .ok b
  | v => mismatch v "a boolean"

def string : Decoder String := fun v =>
  match v.untagged with
  | .string s => .ok s
  | v => mismatch v "a string"

def list {α : Type} (item : Decoder α) : Decoder (List α) := fun v =>
  match v.untagged with
  | .sequence items => items.mapM item
  | .null => .ok []
  | v => mismatch v "a sequence"

/-- Only a null without a tag means that there is nothing. -/
def option {α : Type} (item : Decoder α) : Decoder (Option α) := fun v =>
  match v with
  | .null => .ok none
  | v => (item v).map some

def dictEntries {α : Type} (item : Decoder α) (d : Dict α) :
    List (Value × Value) → Except DecodeError (Dict α)
  | [] => .ok d
  | (k, v) :: r => do
    let k ← string k
    let v ← item v
    dictEntries item (d.insert k v) r

def dict {α : Type} (item : Decoder α) : Decoder (Dict α) := fun v =>
  match v.untagged with
  | .mapping entries => dictEntries item .empty entries
  | .null => .ok .empty
  | v => mismatch v "a map"

/-- A field of a record: its name, and how its value goes into the record. -/
abbrev Field (ρ : Type) := String × (Value → ρ → Except DecodeError ρ)

def field {ρ α : Type} (name : String) (decoder : Decoder α) (put : ρ → α → ρ) : Field ρ :=
  (name, fun v r => (decoder v).map (put r))

/-- Fills in the fields of a record in the order of the entries. Names of no field are passed over,
and no field may occur twice. -/
def fields {ρ : Type} (known : List (Field ρ)) :
    List String → ρ → List (Value × Value) → Except DecodeError ρ
  | _, r, [] => .ok r
  | seen, r, (k, v) :: rest =>
    match k.untagged with
    | .string name =>
      match known.lookup name with
      | none => fields known seen r rest
      | some put =>
        if seen.contains name then .error (.repeatedField name)
        else do
          let r ← put v r
          fields known (name :: seen) r rest
    | k => mismatch k "field identifier"

/-- A record whose absent fields have the values of `defaults`. -/
def record {ρ : Type} (name : String) (defaults : ρ) (known : List (Field ρ)) : Decoder ρ :=
  fun v =>
  match v.untagged with
  | .mapping entries => fields known [] defaults entries
  | .null => .ok defaults
  | v => mismatch v ("struct " ++ name)

end Decode

class Documented (α : Type) where
  encode : α → Value
  decode : Decoder α

export Documented (encode decode)

def overlay {α : Type} [Documented α] (setting : α) (patch : Value) : Except DecodeError α :=
  decode (Value.merge (encode setting) patch)

end NodeSurvey.Settings
