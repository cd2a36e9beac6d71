import NodeSurvey.Host.Failure
import NodeSurvey.Text.Blank

/-! Scripts of simple shell commands, as hooks are: words with quotes and variables, commands in a
row or depending on the one before, and the few commands that a hook needs to print lines and to
end. What goes to the error stream is not kept. -/

namespace NodeSurvey.Script

inductive Piece where
  | literal (s : List Char)
  | variable (name : String)

inductive Lexeme where
  | word (pieces : List Piece)
  /-- The end of a command. -/
  | stop
  | andThen
  | orElse
  | silence

/-- How quotes around the current character make it literal. -/
inductive Quoting where
  | none
  | single
  | double
deriving DecidableEq

structure Draft where
  pieces : List Piece
  /-- Whether there is a word at all; quotes make an empty one. -/
  started : Bool

def Draft.empty : Draft := ⟨[], false⟩

def Draft.push (d : Draft) (p : Piece) : Draft := ⟨p :: d.pieces, true⟩

def Draft.finish (d : Draft) : List Lexeme :=
  if d.started then [.word d.pieces.reverse] else []

def isNameChar (c : Char) : Bool := c.isAlphanum || c = '_'

def variableName? (s : List Char) : Option (String × List Char) :=
  match s with
  | '$' :: r => some ("$", r)
  | '?' :: r => some ("?", r)
  | '\x7b' :: r =>
    match r.dropWhile isNameChar with
    | '\x7d' :: r' => some (String.ofList (r.takeWhile isNameChar), r')
    | _ => none
  | c :: r => if isNameChar c then some (String.ofList ((c :: r).takeWhile isNameChar),
      (c :: r).dropWhile isNameChar) else none
  | [] => none

/-- Redirections of standard output, as they may stand between blanks. -/
def silencers : List (List Char) :=
  [">&2", "1>&2", ">/dev/null", ">/dev/stderr", "1>/dev/null", "> /dev/null"].map String.toList

/-- Redirections that do not concern standard output. -/
def harmless : List (List Char) := ["2>&1", "2>/dev/null", "2> /dev/null"].map String.toList

def startingWith? (marks : List (List Char)) (s : List Char) : Option (List Char) :=
  (marks.find? (·.isPrefixOf s)).map fun m => s.drop m.length

def lexemes (q : Quoting) (d : Draft) : Nat → List Char → List Lexeme
  | 0, _ => []
  | _ + 1, [] => d.finish
  | fuel + 1, c :: r =>
    match q with
    | .single =>
      if c = '\'' then lexemes .none d fuel r else lexemes .single (d.push (.literal [c])) fuel r
    | .double =>
      if c = '"' then lexemes .none d fuel r
      else if c = '\\' then
        match r with
        | e :: r' =>
          if e = '\n' then lexemes .double d fuel r'
          else if "$\\\"`".toList.contains e then lexemes .double (d.push (.literal [e])) fuel r'
          else lexemes .double (d.push (.literal [c, e])) fuel r'
        | [] => lexemes .double (d.push (.literal [c])) fuel r
      else if c = '$' then
        match variableName? r with
        | some (name, r') => lexemes .double (d.push (.variable name)) fuel r'
        | none => lexemes .double (d.push (.literal [c])) fuel r
      else lexemes .double (d.push (.literal [c])) fuel r
    | .none =>
      match if d.started then none else startingWith? silencers (c :: r),
          if d.started then none else startingWith? harmless (c :: r) with
      | some r', _ => .silence :: lexemes .none .empty fuel r'
      | none, some r' => lexemes .none .empty fuel r'
      | none, none =>
        if c = '\'' then lexemes .single ⟨d.pieces, true⟩ fuel r
        else if c = '"' then lexemes .double ⟨d.pieces, true⟩ fuel r
        else if c = '\\' then
          match r with
          | e :: r' =>
            if e = '\n' then lexemes .none d fuel r'
            else lexemes .none (d.push (.literal [e])) fuel r'
          | [] => lexemes .none (d.push (.literal [c])) fuel r
        else if c = '$' then
          match variableName? r with
          | some (name, r') => lexemes .none (d.push (.variable name)) fuel r'
          | none => lexemes .none (d.push (.literal [c])) fuel r
        else if c = '#' && !d.started then lexemes .none d fuel (r.dropWhile (· ≠ '\n'))
        else if c = ' ' || c = '\t' then d.finish ++ lexemes .none .empty fuel r
        else if c = '\n' || c = ';' then d.finish ++ .stop :: lexemes .none .empty fuel r
        else if c = '&' then
          match r with
          | '&' :: r' => d.finish ++ .andThen :: lexemes .none .empty fuel r'
          | r => d.finish ++ .stop :: lexemes .none .empty fuel r
        else if c = '|' then
          match r with
          | '|' :: r' => d.finish ++ .orElse :: lexemes .none .empty fuel r'
          | r => d.finish ++ .stop :: lexemes .none .empty fuel r
        else if c = '>' then d.finish ++ .silence :: lexemes .none .empty fuel r
        else lexemes .none (d.push (.literal [c])) fuel r

/-- When a command runs, going by the command before it. -/
inductive Condition where
  | always
  | succeeded
  | failed
deriving DecidableEq

structure Command where
  condition : Condition
  words : List (List Piece)
  silent : Bool

def commands (condition : Condition) (words : List (List Piece)) (silent : Bool) :
    List Lexeme → List Command
  | [] => [⟨condition, words.reverse, silent⟩]
  | .word w :: r => commands condition (w :: words) silent r
  | .silence :: r => commands condition words true r
  | .stop :: r => ⟨condition, words.reverse, silent⟩ :: commands .always [] false r
  | .andThen :: r => ⟨condition, words.reverse, silent⟩ :: commands .succeeded [] false r
  | .orElse :: r => ⟨condition, words.reverse, silent⟩ :: commands .failed [] false r

/-- A script that runs: variables, the status of the last command, what has been printed, and how
the script ended if it has. -/
structure Run where
  bindings : List (String × String)
  status : Nat
  output : String
  ended : Option ExitStatus

def ownProcess : String := "1"

def Run.expand (run : Run) (word : List Piece) : String :=
  String.join (word.map fun p =>
    match p with
    | .literal s => String.ofList s
    | .variable "$" => ownProcess
    | .variable "?" => Nat.repr run.status
    | .variable name => (run.bindings.lookup name).getD "")

def assignment? (s : String) : Option (String × String) :=
  match Text.splitOnce '=' s.toList with
  | some (name, value) =>
    if name.head?.any (fun c => c.isAlpha || c = '_') && name.all isNameChar then
      some (String.ofList name, String.ofList value)
    else none
  | none => none

/-- Backslash escapes in printed text; the answer also says whether printing stops there. -/
def unescape : Nat → List Char → List Char × Bool
  | 0, _ => ([], false)
  | _ + 1, [] => ([], false)
  | fuel + 1, '\\' :: e :: r =>
    let simple (c : Char) : List Char × Bool :=
      let (s, stop) := unescape fuel r
      (c :: s, stop)
    match e with
    | 'n' => simple '\n'
    | 't' => simple '\t'
    | 'r' => simple '\r'
    | 'a' => simple '\x07'
    | 'b' => simple '\x08'
    | 'f' => simple '\x0c'
    | 'v' => simple '\x0b'
    | '\\' => simple '\\'
    | 'c' => ([], true)
    | '0' =>
      let digits := (r.take 3).takeWhile fun c => '0' ≤ c && c ≤ '7'
      let value := digits.foldl (fun n c => 8 * n + (c.toNat - 48)) 0
      let (s, stop) := unescape fuel (r.drop digits.length)
      (Char.ofNat (value % 256) :: s, stop)
    | e =>
      let (s, stop) := unescape fuel r
      ('\\' :: e :: s, stop)
  | fuel + 1, c :: r =>
    let (s, stop) := unescape fuel r
    (c :: s, stop)

def echo (args : List String) : String :=
  let (newline, args) := match args with
    | "-n" :: r => (false, r)
    | r => (true, r)
  let text := (" ".intercalate args).toList
  let (s, stop) := unescape (text.length + 1) text
  String.ofList s ++ if newline && !stop then "\n" else ""

/-- One pass over a format; the answer also has the arguments that are left. -/
def format : Nat → List Char → List String → List Char × List String
  | 0, _, args => ([], args)
  | _ + 1, [], args => ([], args)
  | fuel + 1, '%' :: d :: r, args =>
    if d = '%' then
      let (s, args) := format fuel r args
      ('%' :: s, args)
    else
      let (s, rest) := format fuel r args.tail
      ((args.headD (if d = 's' then "" else "0")).toList ++ s, rest)
  | fuel + 1, c :: r, args =>
    let (s, args) := format fuel r args
    (c :: s, args)

/-- A format is used again as long as arguments are left. -/
def printf (template : List Char) : Nat → List String → List Char
  | 0, _ => []
  | fuel + 1, args =>
    let (s, rest) := format (template.length + 1) template args
    if rest.isEmpty || rest.length = args.length then s else s ++ printf template fuel rest

def signal? (s : String) : Option Nat :=
  match s.toNat? with
  | some n => some n
  | none =>
    let name := if s.startsWith "SIG" then s else "SIG" ++ s
    (signalNames.idxOf? name).map (· + 1)

/-- Signals that do not end a process: children, continuing and stopping, and the like. -/
def survived : List Nat := [0, 17, 18, 19, 20, 21, 22, 23, 28]

def Run.kill (run : Run) (signal target : String) : Run :=
  match signal? signal with
  | some n =>
    if target ≠ ownProcess then { run with status := 1 }
    else if survived.contains n then { run with status := 0 }
    else { run with ended := some (.killed n) }
  | none => { run with status := 2 }

def Run.print (run : Run) (silent : Bool) (s : String) : Run :=
  { run with status := 0, output := if silent then run.output else run.output ++ s }

def Run.command (run : Run) (silent : Bool) (words : List String) : Run :=
  match words with
  | [] => run
  | name :: args =>
    match name, args with
    | "echo", args => run.print silent (echo args)
    | "printf", [] => { run with status := 2 }
    | "printf", template :: args =>
      let (template, _) := unescape (template.length + 1) template.toList
      run.print silent (String.ofList (printf template (args.length + 1) args))
    | ":", _ | "true", _ | "set", _ | "sleep", _ | "export", _ | "cat", [] =>
      { run with status := 0 }
    | "false", _ => { run with status := 1 }
    | "exit", [] => { run with ended := some (.exited run.status) }
    | "exit", code :: _ =>
      { run with ended := some (.exited (match code.toNat? with
        | some n => n % 256
        | none => 2)) }
    | "kill", [signal, target] =>
      let named := signal.startsWith "-"
      run.kill (if named then String.ofList (signal.toList.drop 1) else "TERM") target
    | "kill", ["-s", signal, target] => run.kill signal target
    | "kill", [target] => run.kill "TERM" target
    | _, _ =>
      match assignment? name, args with
      | some (name, value), [] =>
        { run with bindings := (name, value) :: run.bindings, status := 0 }
      | _, _ => { run with status := 127 }

def Run.step (run : Run) (c : Command) : Run :=
  let due := match c.condition with
    | .always => true
    | .succeeded => run.status = 0
    | .failed => run.status ≠ 0
  if run.ended.isSome || !due then run
  else run.command c.silent (c.words.map run.expand)

structure Outcome where
  output : String
  status : ExitStatus
deriving DecidableEq

def execute (lines : List Char) : Outcome :=
  let program := commands .always [] false (lexemes .none .empty (lines.length + 1) lines)
  let run := program.foldl Run.step ⟨[], 0, "", none⟩
  ⟨run.output, run.ended.getD (.exited run.status)⟩

end NodeSurvey.Script
