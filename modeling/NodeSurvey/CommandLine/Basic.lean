import NodeSurvey.Agent.Basic
import NodeSurvey.Duration.Reader

/-! The command line of the agent. An option is spelled out behind two dashes; its value follows it
behind an equals sign or as the next word. A value that is a word of its own is looked at only when
the option is complete, which it is at the next known option or at the end. -/

namespace NodeSurvey.CommandLine

inductive Opt where
  | config
  | options
  | server
  | caFile
  | certFile
  | keyFile
  | serverNameOverride
  | labelWhitelist
  | oneshot
  | sleepInterval
  | sources
  | noPublish
  | verbose
  | help
  | version
deriving DecidableEq

namespace Opt

def all : List Opt :=
  [config, options, server, caFile, certFile, keyFile, serverNameOverride, labelWhitelist, oneshot,
    sleepInterval, sources, noPublish, verbose, help, version]

def long : Opt → String
  | config => "config"
  | options => "options"
  | server => "server"
  | caFile => "ca-file"
  | certFile => "cert-file"
  | keyFile => "key-file"
  | serverNameOverride => "server-name-override"
  | labelWhitelist => "label-whitelist"
  | oneshot => "oneshot"
  | sleepInterval => "sleep-interval"
  | sources => "sources"
  | noPublish => "no-publish"
  | verbose => "verbose"
  | help => "help"
  | version => "version"

def short? : Opt → Option Char
  | verbose => some 'v'
  | help => some 'h'
  | version => some 'V'
  | _ => none

def takesValue : Opt → Bool
  | oneshot | noPublish | verbose | help | version => false
  | _ => true

def isRepeatable (o : Opt) : Bool := o = sources

def ofLong? (name : List Char) : Option Opt := all.find? fun o => o.long.toList = name

def ofShort? (c : Char) : Option Opt := all.find? fun o => o.short? = some c

end Opt

inductive Refusal where
  | unknownArgument
  | invalidValue
  | valueValidation
  | argumentConflict
  | tooManyValues
  | displayHelp
  | displayVersion
deriving DecidableEq

def Refusal.message : Refusal → String
  | unknownArgument => "unexpected argument found"
  | invalidValue => "a value is required but none was supplied"
  | valueValidation => "invalid value"
  | argumentConflict => "the argument cannot be used multiple times"
  | tooManyValues => "unexpected value for an argument that takes none"
  | displayHelp => "help requested"
  | displayVersion => "version requested"

structure Invocation where
  verbose : Bool
  agent : AgentOptions
deriving DecidableEq

structure Reading where
  given : List Opt
  /-- An option that may not be complete, and its value if it was seen. -/
  pending : Option (Opt × Option String)
  /-- Whether options have come to an end. -/
  closed : Bool
  invocation : Invocation

namespace Reading

def start : Reading := ⟨[], none, false, ⟨false, .default⟩⟩

def mark (r : Reading) (o : Opt) : Except Refusal Reading :=
  if r.given.contains o && !o.isRepeatable then .error .argumentConflict
  else .ok { r with given := o :: r.given }

def update (r : Reading) (f : AgentOptions → AgentOptions) : Reading :=
  { r with invocation := { r.invocation with agent := f r.invocation.agent } }

def updateLabeler (r : Reading) (f : Labeler.Settings → Labeler.Settings) : Reading :=
  r.update fun a => { a with labeler := f a.labeler }

/-- A path must not be empty. -/
def path (value : String) : Except Refusal String :=
  if value.isEmpty then .error .invalidValue else .ok value

def names (value : String) : List String := (Text.split ',' value.toList).map String.ofList

/-- Takes the value of an option. The first list of sources replaces the default, the others add
to it. -/
def take (before : Reading) (o : Opt) (value : String) : Except Refusal Reading := do
  let r ← before.mark o
  match o with
  | .config =>
    let value ← path value
    return r.update fun a => { a with configFile := value }
  | .options => return r.update fun a => { a with overrides := value }
  | .server => return r.updateLabeler fun s => { s with server := value }
  | .caFile =>
    let value ← path value
    return r.updateLabeler fun s => { s with authorityFile := some value }
  | .certFile =>
    let value ← path value
    return r.updateLabeler fun s => { s with certificateFile := some value }
  | .keyFile =>
    let value ← path value
    return r.updateLabeler fun s => { s with keyFile := some value }
  | .serverNameOverride => return r.updateLabeler fun s => { s with serverName := some value }
  | .labelWhitelist => return r.update fun a => { a with whitelist := value }
  | .sleepInterval =>
    match Duration.parse? value with
    | some d => return r.update fun a => { a with interval := d }
    | none => throw .valueValidation
  | .sources =>
    let earlier := if before.given.contains o then before.invocation.agent.sources else []
    return r.update fun a => { a with sources := earlier ++ names value }
  | _ => return r

def complete (r : Reading) : Except Refusal Reading :=
  match r.pending with
  | none => .ok r
  | some (_, none) => .error .invalidValue
  | some (o, some value) => { r with pending := none }.take o value

def switch (r : Reading) (o : Opt) : Except Refusal Reading := do
  let r ← r.complete
  match o with
  | .help => throw .displayHelp
  | .version => throw .displayVersion
  | o => do
    let r ← r.mark o
    match o with
    | .oneshot => return r.update fun a => { a with oneshot := true }
    | .noPublish => return r.update fun a => { a with forced := some true }
    | .verbose => return { r with invocation := { r.invocation with verbose := true } }
    | _ => return r

def readLong (r : Reading) (word : List Char) : Except Refusal Reading :=
  let (name, value) := match Text.splitOnce '=' word with
    | some (name, value) => (name, some (String.ofList value))
    | none => (word, none)
  match Opt.ofLong? name with
  | none => .error .unknownArgument
  | some o =>
    match o.takesValue, value with
    | true, some value => do (← r.complete).take o value
    | true, none => do return { ← r.complete with pending := some (o, none) }
    | false, some _ => do
      discard r.complete
      throw .tooManyValues
    | false, none => r.switch o

def readShort (r : Reading) (letters : List Char) : Except Refusal Reading :=
  letters.foldlM (fun r c =>
    match Opt.ofShort? c with
    | none => .error .unknownArgument
    | some o => r.switch o) r

/-- Reads a word that is no option. It belongs to the option before it, or nowhere. -/
def readValue (r : Reading) (word : List Char) : Except Refusal Reading :=
  match r.pending with
  | some (o, none) => .ok { r with pending := some (o, some (String.ofList word)) }
  | _ => .error .unknownArgument

def readWord (r : Reading) (word : String) : Except Refusal Reading :=
  if r.closed then .error .unknownArgument
  else
    match word.toList with
    | ['-', '-'] => .ok { r with closed := true }
    | '-' :: '-' :: name => r.readLong name
    | '-' :: c :: letters => r.readShort (c :: letters)
    | word => r.readValue word

end Reading

def read (words : List String) : Except Refusal Invocation := do
  let r ← words.foldlM Reading.readWord Reading.start
  return (← r.complete).invocation

end NodeSurvey.CommandLine
