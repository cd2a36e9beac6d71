import NodeSurvey.Regex.Matcher

/-! Which labels may be published: those whose name has a match of a pattern. -/

namespace NodeSurvey.Label

structure Whitelist where
  pattern : String
  accepts : String → Bool

def Whitelist.parse? (pattern : String) : Option Whitelist :=
  (Regex.compile? pattern).map fun m => ⟨pattern, fun name => m.accepts name.toList⟩

end NodeSurvey.Label
