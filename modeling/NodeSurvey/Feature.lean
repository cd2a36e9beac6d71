import NodeSurvey.Binary64.Shortest
import NodeSurvey.Dict

/-! What a source finds out about a node: named features, each with a value. -/

namespace NodeSurvey

inductive FeatureValue where
  | bool (b : Bool)
  | int (n : Int)
  | float (x : Binary64)
  | text (s : String)
deriving DecidableEq

/-- The value as it stands in a label. Numbers never have an exponent. -/
def FeatureValue.render : FeatureValue → String
  | .bool b => if b then "true" else "false"
  | .int n => if n < 0 then "-" ++ Nat.repr n.natAbs else Nat.repr n.natAbs
  | .float x => x.render .plain
  | .text s => s

abbrev Features := Dict FeatureValue

end NodeSurvey
