import NodeSurvey.Binary64.Decimal
import NodeSurvey.Duration.Basic
import NodeSurvey.Text.Blank
import NodeSurvey.Text.Quoted

/-! Spans of time written as numbers with units, such as `1m30s`. The numbers are added up in
floating point as milliseconds, and the sum is cut to what 64 bits of nanoseconds hold. -/

namespace NodeSurvey.Duration

def isNumeral (c : Char) : Bool := c.isDigit || c = '.'

def unitMilliseconds? (unit : List Char) : Option Nat :=
  match unit with
  | ['m', 's'] => some 1
  | ['s'] => some 1000
  | ['m'] => some 60000
  | ['h'] => some 3600000
  | _ => none

def components? : List Char → Option (List (Binary64 × Nat))
  | [] => some []
  | c :: r =>
    if isNumeral c then
      let afterNumber := r.dropWhile isNumeral
      match Binary64.parse? (c :: r.takeWhile isNumeral),
          unitMilliseconds? (afterNumber.takeWhile (!isNumeral ·)) with
      | some number, some unit =>
        (components? (afterNumber.dropWhile (!isNumeral ·))).map ((number, unit) :: ·)
      | _, _ => none
    else none
termination_by s => s.length
decreasing_by
  have h₁ := (List.dropWhile_sublist isNumeral (l := r)).length_le
  have h₂ := (List.dropWhile_sublist (!isNumeral ·) (l := r.dropWhile isNumeral)).length_le
  simp only [List.length_cons]
  omega

def top : Nat := Nat.pow 2 64 - 1

def ofComponents (l : List (Binary64 × Nat)) : Duration :=
  let total := l.foldl (fun t e => t + e.1 * Binary64.ofNat e.2) (Binary64.zero false)
  ⟨(total * Binary64.ofNat 1000000).clampNat top⟩

/-- Reads a span of time; `0` needs no unit. -/
def parse? (s : String) : Option Duration :=
  match Text.trim s.toList with
  | [] => none
  | ['0'] => some zero
  | s => (components? s).map ofComponents

def invalidMessage (s : String) : String :=
  "invalid duration " ++ Text.quoted (Text.trimString s) ++ ", use e.g. 500ms, 30s, 1m30s or 1h"

end NodeSurvey.Duration
