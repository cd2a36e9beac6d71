/-! The part of a web address behind its scheme: an authority, perhaps followed by a path and a
query. Only its form is checked here; whether anything answers there shows when it is dialed. -/

namespace NodeSurvey.Network

def isAuthorityChar (c : Char) : Bool :=
  c.isAlphanum || "!$&'()*+,-.:;=@[]_~".toList.contains c

def endsAuthority (c : Char) : Bool := c = '/' || c = '?' || c = '#'

/-- What was seen of an authority. Colons and percent signs are forgotten where they turn out to
belong to a user or to a bracketed host. -/
structure AuthorityScan where
  colons : Nat
  percent : Bool
  opened : Bool
  closed : Bool
  /-- Whether nothing has come after a user. -/
  bare : Bool
deriving DecidableEq

namespace AuthorityScan

def start : AuthorityScan := ⟨0, false, false, false, false⟩

/-- The most colons in a row of parts that brackets do not close. -/
def maxColons : Nat := 8

def next (s : AuthorityScan) (c : Char) : Option AuthorityScan :=
  let s := { s with bare := c = '@' }
  match c with
  | ':' => if maxColons ≤ s.colons then none else some { s with colons := s.colons + 1 }
  | '[' => if s.percent || s.opened then none else some { s with opened := true }
  | ']' =>
    if !s.opened || s.closed then none
    else some { s with closed := true, colons := 0, percent := false }
  | '@' => some { s with colons := 0, percent := false }
  | '%' => some { s with percent := true }
  | c => if isAuthorityChar c then some s else none

/-- Whether an authority may end here: one colon at most, before a number. -/
def accepts (s : AuthorityScan) : Bool :=
  s.opened = s.closed && s.colons ≤ 1 && !s.bare && !s.percent

end AuthorityScan

def splitAuthority (s : List Char) : List Char × List Char :=
  (s.takeWhile (!endsAuthority ·), s.dropWhile (!endsAuthority ·))

def isAuthority (s : List Char) : Bool :=
  !s.isEmpty &&
    match s.foldlM AuthorityScan.next AuthorityScan.start with
    | some seen => seen.accepts
    | none => false

def codeBetween (low high : Nat) (c : Char) : Bool := low ≤ c.toNat && c.toNat ≤ high

/-- Characters of a path. Quotes and braces are let through. -/
def isPathChar (c : Char) : Bool :=
  c = '!' || codeBetween 0x24 0x3B c || c = '=' || codeBetween 0x40 0x5F c ||
    codeBetween 0x61 0x7E c || c = '"' || 0x7F ≤ c.toNat

def isQueryChar (c : Char) : Bool :=
  c = '!' || codeBetween 0x24 0x3B c || c = '=' || 0x3F ≤ c.toNat

/-- Whether a text can come after an authority. Behind a number sign everything can. -/
def isLocation (s : List Char) : Bool :=
  let s := s.takeWhile (· != '#')
  (s.takeWhile (· != '?')).all isPathChar && ((s.dropWhile (· != '?')).drop 1).all isQueryChar

def maxAddressLength : Nat := 65534

def isAddress (scheme address : String) : Bool :=
  let (authority, location) := splitAuthority address.toList
  (scheme ++ "://" ++ address).utf8ByteSize ≤ maxAddressLength && isAuthority authority &&
    isLocation location

def hostOf (address : String) : String :=
  let authority := (splitAuthority address.toList).1
  let afterUser := (authority.reverse.takeWhile (· != '@')).reverse
  String.ofList
    (if afterUser.head? = some '[' then afterUser.takeWhile (· != ']') ++ [']']
    else afterUser.takeWhile (· != ':'))

end NodeSurvey.Network
