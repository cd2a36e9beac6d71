import NodeSurvey.Text.Blank

/-! The syntax of label names and label values. A name is a part of at most 63 bytes, perhaps behind
a domain and a slash; a value is empty or has the form of such a part. Each check lists everything
that is wrong, so a text is well formed exactly when its list is empty. -/

namespace NodeSurvey.Label

def isLower (c : Char) : Bool := 'a' ≤ c && c ≤ 'z'

def isUpper (c : Char) : Bool := 'A' ≤ c && c ≤ 'Z'

def isDigit (c : Char) : Bool := '0' ≤ c && c ≤ '9'

def isAlphanumeric (c : Char) : Bool := isLower c || isUpper c || isDigit c

def isNameChar (c : Char) : Bool := isAlphanumeric c || c = '-' || c = '_' || c = '.'

def isDomainEdge (c : Char) : Bool := isLower c || isDigit c

def isDomainChar (c : Char) : Bool := isDomainEdge c || c = '-'

/-- A non-empty text of `inner` characters with `edge` characters at both ends. -/
def isFramed (edge inner : Char → Bool) (s : List Char) : Bool :=
  s.head?.any edge && s.getLast?.any edge && s.all inner

def isName (s : List Char) : Bool := isFramed isAlphanumeric isNameChar s

def isDomain (s : List Char) : Bool :=
  (Text.split '.' s).all (isFramed isDomainEdge isDomainChar)

def byteLength (s : List Char) : Nat := s.foldl (fun n c => n + c.utf8Size) 0

theorem byteLength_cons (c : Char) (s : List Char) :
    byteLength (c :: s) = c.utf8Size + byteLength s := by
  have hfrom : ∀ (l : List Char) (n : Nat),
      l.foldl (fun n c => n + c.utf8Size) n = n + byteLength l := by
    intro l
    induction l with
    | nil => exact fun n => rfl
    | cons d l ih =>
      intro n
      rw [byteLength, List.foldl_cons, List.foldl_cons, ih, ih]
      omega
  rw [byteLength, List.foldl_cons, hfrom, Nat.zero_add]

/-- The longest name part and the longest value, in bytes. -/
def maxNameLength : Nat := 63

/-- The longest domain, in bytes. -/
def maxDomainLength : Nat := 253

inductive Violation where
  | manySlashes
  | emptyDomain
  | longDomain
  | malformedDomain
  | emptyName
  | longName
  | malformedName
  | longValue
  | malformedValue
deriving DecidableEq

def namePattern : String := "([A-Za-z0-9][-A-Za-z0-9_.]*)?[A-Za-z0-9]"

def domainPattern : String := "[a-z0-9]([-a-z0-9]*[a-z0-9])?(\\.[a-z0-9]([-a-z0-9]*[a-z0-9])?)*"

def Violation.message : Violation → String
  | manySlashes =>
    "a qualified name must consist of alphanumeric characters, '-', '_' or '.', and must start " ++
    "and end with an alphanumeric character (regex used for validation is '" ++ namePattern ++
    "') with an optional DNS subdomain prefix and '/' (e.g. 'example.com/MyName')"
  | emptyDomain => "prefix part must be non-empty"
  | longDomain => "prefix part must be no more than 253 characters"
  | malformedDomain =>
    "prefix part a lowercase RFC 1123 subdomain must consist of lower case alphanumeric " ++
    "characters, '-' or '.', and must start and end with an alphanumeric character (regex used " ++
    "for validation is '" ++ domainPattern ++ "')"
  | emptyName => "name part must be non-empty"
  | longName => "name part must be no more than 63 characters"
  | malformedName =>
    "name part must consist of alphanumeric characters, '-', '_' or '.', and must start and end " ++
    "with an alphanumeric character (regex used for validation is '" ++ namePattern ++ "')"
  | longValue => "must be no more than 63 characters"
  | malformedValue =>
    "a valid label must be an empty string or consist of alphanumeric characters, '-', '_' or " ++
    "'.', and must start and end with an alphanumeric character (regex used for validation is '(" ++
    namePattern ++ ")?')"

def domainViolations (s : List Char) : List Violation :=
  if s.isEmpty then [.emptyDomain]
  else
    (if maxDomainLength < byteLength s then [.longDomain] else []) ++
      if isDomain s then [] else [.malformedDomain]

def partViolations (s : List Char) : List Violation :=
  (if s.isEmpty then [.emptyName]
    else if maxNameLength < byteLength s then [.longName]
    else []) ++
    if isName s then [] else [.malformedName]

def nameViolations (s : String) : List Violation :=
  match Text.split '/' s.toList with
  | [part] => partViolations part
  | [domain, part] => domainViolations domain ++ partViolations part
  | _ => [.manySlashes]

def valueViolations (s : String) : List Violation :=
  (if maxNameLength < byteLength s.toList then [.longValue] else []) ++
    if s.toList.isEmpty || isName s.toList then [] else [.malformedValue]

end NodeSurvey.Label
