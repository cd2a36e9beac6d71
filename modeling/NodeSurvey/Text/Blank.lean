/-! Blank characters, and the operations on text that go by them: trimming and splitting into
words. Text is a list of characters here, so that every operation is a fold over its view. -/

namespace NodeSurvey.Text

def isBlank (c : Char) : Bool :=
  let n := c.toNat
  (9 ≤ n && n ≤ 13) || n = 0x20 || n = 0x85 || n = 0xA0 || n = 0x1680 ||
    (0x2000 ≤ n && n ≤ 0x200A) || n = 0x2028 || n = 0x2029 || n = 0x202F || n = 0x205F || n = 0x3000

def trimStart (s : List Char) : List Char := s.dropWhile isBlank

def trimEnd (s : List Char) : List Char := (s.reverse.dropWhile isBlank).reverse

def trim (s : List Char) : List Char := trimEnd (trimStart s)

/-- Splits the text around the characters of a class; neighbouring ones leave empty pieces. -/
def splitBy (sep : Char → Bool) : List Char → List (List Char)
  | [] => [[]]
  | c :: r =>
    if sep c then [] :: splitBy sep r
    else
      match splitBy sep r with
      | [] => [[c]]
      | p :: ps => (c :: p) :: ps

def split (sep : Char) : List Char → List (List Char) := splitBy (· == sep)

def splitOnce (sep : Char) (s : List Char) : Option (List Char × List Char) :=
  match s.dropWhile (· != sep) with
  | [] => none
  | _ :: r => some (s.takeWhile (· != sep), r)

def words (s : List Char) : List (List Char) := (splitBy isBlank s).filter (!·.isEmpty)

def chomp (s : List Char) : List Char := if s.getLast? = some '\r' then s.dropLast else s

/-- The lines of a text. A newline ends a line and a carriage return before it belongs to it; the
last line needs no newline, and is no line at all if it is empty. -/
def lines (s : List Char) : List (List Char) :=
  let pieces := split '\n' s
  let last := pieces.getLast?.getD []
  pieces.dropLast.map chomp ++ if last.isEmpty then [] else [last]

def trimString (s : String) : String := String.ofList (trim s.toList)

theorem splitBy_ne_nil (sep : Char → Bool) (s : List Char) : splitBy sep s ≠ [] := by
  induction s with
  | nil => simp [splitBy]
  | cons c r ih => rw [splitBy]; split <;> (try split) <;> simp

theorem splitBy_append_cons {sep : Char → Bool} {a : List Char} {c : Char} {b : List Char}
    (ha : ∀ x ∈ a, sep x = false) (hc : sep c = true) :
    splitBy sep (a ++ c :: b) = a :: splitBy sep b := by
  induction a with
  | nil => simp [splitBy, hc]
  | cons x a ih =>
    have hx := ha x List.mem_cons_self
    have := ih fun y hy => ha y (List.mem_cons_of_mem _ hy)
    simp [splitBy, hx, this]

theorem splitBy_of_forall {sep : Char → Bool} {a : List Char} (ha : ∀ x ∈ a, sep x = false) :
    splitBy sep a = [a] := by
  induction a with
  | nil => rfl
  | cons x a ih =>
    have hx := ha x List.mem_cons_self
    simp [splitBy, hx, ih fun y hy => ha y (List.mem_cons_of_mem _ hy)]

end NodeSurvey.Text
