import NodeSurvey.Text.Printable

/-! Text in double quotes. Quotes, backslashes and the common controls get a backslash in front, and
every other character that does not stand for itself is written by its code point. -/

namespace NodeSurvey.Text

def codePoint (c : Char) : List Char :=
  ['\\', 'u', '\x7b'] ++ Nat.toDigits 16 c.toNat ++ ['\x7d']

def quotedChar (c : Char) : List Char :=
  match c with
  | '"' => ['\\', '"']
  | '\\' => ['\\', '\\']
  | '\n' => ['\\', 'n']
  | '\r' => ['\\', 'r']
  | '\t' => ['\\', 't']
  | '\x00' => ['\\', '0']
  | c => if isPrintable c then [c] else codePoint c

def quoted (s : String) : String :=
  String.ofList ('"' :: s.toList.flatMap quotedChar ++ ['"'])

/-- A path as it is shown in quotes. In a path a single quote gets a backslash too. -/
def quotedPath (s : String) : String :=
  String.ofList ('"' :: s.toList.flatMap (fun c => if c = '\'' then ['\\', '\''] else quotedChar c)
    ++ ['"'])

def quotedList (l : List String) : String := "[" ++ ", ".intercalate (l.map quoted) ++ "]"

end NodeSurvey.Text
