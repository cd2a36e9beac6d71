/-! Spans of time in nanoseconds. -/

namespace NodeSurvey

structure Duration where
  nanoseconds : Nat
deriving DecidableEq

namespace Duration

def zero : Duration := ⟨0⟩

def ofMilliseconds (n : Nat) : Duration := ⟨n * 1000000⟩

def ofSeconds (n : Nat) : Duration := ⟨n * 1000000000⟩

instance : Inhabited Duration := ⟨zero⟩
instance : Add Duration := ⟨fun a b => ⟨a.nanoseconds + b.nanoseconds⟩⟩
instance : LT Duration := ⟨fun a b => a.nanoseconds < b.nanoseconds⟩
instance : LE Duration := ⟨fun a b => a.nanoseconds ≤ b.nanoseconds⟩
instance (a b : Duration) : Decidable (a < b) :=
  inferInstanceAs (Decidable (a.nanoseconds < b.nanoseconds))
instance (a b : Duration) : Decidable (a ≤ b) :=
  inferInstanceAs (Decidable (a.nanoseconds ≤ b.nanoseconds))

/-- A number of `places` decimals without the zeros at its end. -/
def decimals (places n : Nat) : List Char :=
  let digits := Nat.toDigits 10 n
  let padded := List.replicate (places - digits.length) '0' ++ digits
  (padded.reverse.dropWhile (· = '0')).reverse

/-- The span in the largest unit, from seconds down, of which it holds at least one. -/
def text (d : Duration) : String :=
  let n := d.nanoseconds
  if 1000000000 ≤ n then inUnit 9 "s"
  else if 1000000 ≤ n then inUnit 6 "ms"
  else if 1000 ≤ n then inUnit 3 "µs"
  else inUnit 0 "ns"
where
  inUnit (places : Nat) (unit : String) : String :=
    let fraction := if places = 0 then [] else decimals places (d.nanoseconds % Nat.pow 10 places)
    let point := if fraction.isEmpty then [] else ['.']
    String.ofList (Nat.toDigits 10 (d.nanoseconds / Nat.pow 10 places) ++ point ++ fraction) ++ unit

end Duration

end NodeSurvey
