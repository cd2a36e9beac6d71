import NodeSurvey.Text.Blank

/-! Names that a server can prove to be its own: domain names and numeric addresses. -/

namespace NodeSurvey.Network

/-- A decimal number from 0 to 255 without needless zeros. -/
def isOctet (s : List Char) : Bool :=
  s.length ≤ 3 && !s.isEmpty && s.all Char.isDigit && (s.length = 1 || s.head? != some '0') &&
    s.foldl (fun n c => 10 * n + (c.toNat - 48)) 0 ≤ 255

def isVersion4 (s : List Char) : Bool :=
  let octets := Text.split '.' s
  octets.length = 4 && octets.all isOctet

def isHexDigit (c : Char) : Bool :=
  c.isDigit || ('a' ≤ c && c ≤ 'f') || ('A' ≤ c && c ≤ 'F')

def isGroup (s : List Char) : Bool := !s.isEmpty && s.length ≤ 4 && s.all isHexDigit

/-- How many groups a list of pieces stands for; a version 4 address may stand for the last two. -/
def countGroups (closing : Bool) : List (List Char) → Option Nat
  | [] => some 0
  | [last] =>
    if isGroup last then some 1
    else if closing && isVersion4 last then some 2
    else none
  | piece :: r => if isGroup piece then (countGroups closing r).map (· + 1) else none

def pieces (s : List Char) : List (List Char) := if s.isEmpty then [] else Text.split ':' s

def splitGap : List Char → Option (List Char × List Char)
  | ':' :: ':' :: r => some ([], r)
  | c :: r => (splitGap r).map fun (before, after) => (c :: before, after)
  | [] => none

/-- Eight groups with colons between them, of which two colons in a row can leave some out. -/
def isVersion6 (s : List Char) : Bool :=
  match splitGap s with
  | none => countGroups true (pieces s) = some 8
  | some (before, after) =>
    match countGroups false (pieces before), countGroups true (pieces after) with
    | some m, some n => m + n ≤ 7
    | _, _ => false

def isNumericAddress (s : String) : Bool := isVersion4 s.toList || isVersion6 s.toList

/-- A part of a domain name: letters, digits, underscores, and hyphens that are not at an end. -/
def isDomainLabel (s : List Char) : Bool :=
  !s.isEmpty && s.length ≤ 63 && s.all (fun c => c.isAlphanum || c = '_' || c = '-') &&
    s.head? != some '-' && s.getLast? != some '-'

/-- Whether a text is a domain name. It may end in a point, and its last label is no number. -/
def isDomainName (s : String) : Bool :=
  let labels := Text.split '.' s.toList
  let labels := if labels.getLast? = some [] then labels.dropLast else labels
  s.utf8ByteSize ≤ 253 && labels.all isDomainLabel &&
    match labels.getLast? with
    | some last => !last.all Char.isDigit
    | none => false

def isServerName (s : String) : Bool := isDomainName s || isNumericAddress s

end NodeSurvey.Network
