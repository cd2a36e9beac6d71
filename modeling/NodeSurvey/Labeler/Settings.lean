import NodeSurvey.Duration.Basic
import NodeSurvey.Host.Basic

/-! Where the labeler is and how the agent proves to it who it is. The three files of credentials go
together: with all of them a connection is encrypted, with none it is not, and anything between is
refused before a dial. -/

namespace NodeSurvey.Labeler

inductive CredentialFile where
  | certificate
  | key
  | authority
deriving DecidableEq

def CredentialFile.option : CredentialFile → String
  | certificate => "--cert-file"
  | key => "--key-file"
  | authority => "--ca-file"

/-- The other two files, in the order of the option names that users know. -/
def CredentialFile.others : CredentialFile → CredentialFile × CredentialFile
  | certificate => (key, authority)
  | key => (certificate, authority)
  | authority => (certificate, key)

inductive AddressFault where
  | malformed
  /-- The credentials or the name of the server are of no use. -/
  | unusable
deriving DecidableEq

def AddressFault.message : AddressFault → String
  | malformed => "invalid URI"
  | unusable => "transport error"

inductive StatusCode where
  | cancelled
  | unknown
  | invalidArgument
  | deadlineExceeded
  | notFound
  | alreadyExists
  | permissionDenied
  | resourceExhausted
  | failedPrecondition
  | aborted
  | outOfRange
  | unimplemented
  | internalError
  | unavailable
  | dataLoss
  | unauthenticated
deriving DecidableEq

def StatusCode.name : StatusCode → String
  | cancelled => "Cancelled"
  | unknown => "Unknown"
  | invalidArgument => "InvalidArgument"
  | deadlineExceeded => "DeadlineExceeded"
  | notFound => "NotFound"
  | alreadyExists => "AlreadyExists"
  | permissionDenied => "PermissionDenied"
  | resourceExhausted => "ResourceExhausted"
  | failedPrecondition => "FailedPrecondition"
  | aborted => "Aborted"
  | outOfRange => "OutOfRange"
  | unimplemented => "Unimplemented"
  | internalError => "Internal"
  | unavailable => "Unavailable"
  | dataLoss => "DataLoss"
  | unauthenticated => "Unauthenticated"

structure Status where
  code : StatusCode
  text : String
deriving DecidableEq

inductive ConnectionError where
  | incompleteCredentials (missing : CredentialFile)
  | unreadableCredentials (path : String) (e : IoError)
  | invalidAddress (server : String) (fault : AddressFault)
  | dialFailed (server : String)
  | dialTimedOut (server : String) (limit : Duration)
  | alreadyConnected
  | notConnected
  | rejected (status : Status)
  | reportTimedOut (limit : Duration)
deriving DecidableEq

def ConnectionError.message : ConnectionError → String
  | incompleteCredentials missing =>
    missing.option ++ " needs to be specified alongside " ++ missing.others.1.option ++ " and " ++
      missing.others.2.option
  | unreadableCredentials path e =>
    "failed to read TLS material " ++ Text.quotedPath path ++ ": " ++ e.message
  | invalidAddress server fault =>
    "invalid server address " ++ Text.quoted server ++ ": " ++ fault.message
  | dialFailed server => "failed to connect to " ++ server ++ ": transport error"
  | dialTimedOut server limit =>
    "timed out connecting to " ++ server ++ " after " ++ limit.text
  | alreadyConnected => "client connection already exists"
  | notConnected => "not connected to the labeler service"
  | rejected status =>
    "failed to set node labels: " ++ status.code.name ++ ": " ++ status.text
  | reportTimedOut limit => "labeling request timed out after " ++ limit.text

structure Settings where
  /-- The address, a host and a number. -/
  server : String
  authorityFile : Option String
  certificateFile : Option String
  keyFile : Option String
  /-- The name that the server proves to have, if it is not the host of its address. -/
  serverName : Option String
deriving DecidableEq

namespace Settings

def plain (server : String) : Settings := ⟨server, none, none, none, none⟩

def usesCredentials (s : Settings) : Bool :=
  s.authorityFile.isSome || s.certificateFile.isSome || s.keyFile.isSome

def validate (s : Settings) : Except ConnectionError Unit :=
  if !s.usesCredentials then .ok ()
  else if s.certificateFile.isNone then .error (.incompleteCredentials .certificate)
  else if s.keyFile.isNone then .error (.incompleteCredentials .key)
  else if s.authorityFile.isNone then .error (.incompleteCredentials .authority)
  else .ok ()

end Settings

structure Credentials where
  certificate : Content
  key : Content
  authority : Content
  serverName : Option String
deriving DecidableEq

abbrev Reader := String → Except IoError Content

def readCredential (read : Reader) (path : String) : Except ConnectionError Content :=
  (read path).mapError (.unreadableCredentials path)

def Settings.credentials (s : Settings) (read : Reader) :
    Except ConnectionError (Option Credentials) :=
  match s.certificateFile, s.keyFile, s.authorityFile with
  | some certificate, some key, some authority => do
    return some ⟨← readCredential read certificate, ← readCredential read key,
      ← readCredential read authority, s.serverName⟩
  | _, _, _ => return none

structure Endpoint where
  server : String
  credentials : Option Credentials
deriving DecidableEq

inductive DialOutcome where
  | connected
  | failed
  | timedOut
deriving DecidableEq

/-- What carries a connection. It decides which texts are addresses and which credentials are of use
for a server, and it dials. -/
structure Transport where
  isAddress : (scheme server : String) → Bool
  accepts : Credentials → (server : String) → Bool
  dial : Endpoint → DialOutcome

def scheme (credentials : Option Credentials) : String :=
  if credentials.isSome then "https" else "http"

def Settings.endpoint (s : Settings) (read : Reader) (via : Transport) :
    Except ConnectionError Endpoint := do
  let credentials ← s.credentials read
  if !via.isAddress (scheme credentials) s.server then
    throw (.invalidAddress s.server .malformed)
  if !credentials.all (via.accepts · s.server) then throw (.invalidAddress s.server .unusable)
  return ⟨s.server, credentials⟩

end NodeSurvey.Labeler
