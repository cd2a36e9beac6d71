import NodeSurvey.Source.Basic

/-! Kernel features: the version, selected build options, and whether access control is enforced. -/

namespace NodeSurvey.Source.Kernel

/-- The first three numbers of a release such as `5.4.0-42-generic`. A part counts by the digits it
starts with, and the first part without any ends the version. -/
def version (release : List Char) : List (List Char) :=
  let numbers := release.takeWhile fun c => c ≠ '-' && c ≠ '+'
  (((Text.split '.' numbers).take 3).map fun p => p.takeWhile Char.isDigit).takeWhile (!·.isEmpty)

def enabledOption? (line : List Char) : Option String :=
  let mark := "CONFIG_".toList
  if mark.isPrefixOf line then
    match Text.splitOnce '=' (line.drop mark.length) with
    | some (name, ['y']) | some (name, ['m']) => some (String.ofList name)
    | _ => none
  else none

def enabledOptions (text : String) : List String :=
  (Text.lines text.toList).filterMap enabledOption?

def optionsPath (s : KernelSettings) (release : String) : String :=
  if s.kconfigFile.isEmpty then "boot/config-" ++ release else s.kconfigFile

def versionFeatures (release : String) : List (String × FeatureValue) :=
  ("version.full", .text release) ::
    List.zipWith (fun part number => ("version." ++ part, .text (String.ofList number)))
      ["major", "minor", "revision"] (version release.toList)

def discover (s : KernelSettings) (h : Host) : Discovery Features := do
  let release ← Discovery.reading .kernelVersion (h.readTrimmed "proc/sys/kernel/osrelease")
  let path := optionsPath s release
  let options ← match h.readTrimmed path with
    | .ok text =>
      let enabled := enabledOptions text
      pure ((s.configOpts.filter enabled.contains).map fun o => ("config." ++ o, .present))
    | .error e => do
      Discovery.report (.kconfigUnreadable (.within (.readFile (h.fullName path)) (.io e)))
      pure []
  let enforcing : Bool := match h.readTrimmed "sys/fs/selinux/enforce" with
    | .ok status => status = "1"
    | .error _ => false
  return Dict.ofList (versionFeatures release ++ options ++
    if enforcing then [("selinux.enabled", .present)] else [])

end NodeSurvey.Source.Kernel

namespace NodeSurvey.Source

def kernel : Source where
  name := "kernel"
  prefixed := true
  defaults := .kernel .defaults
  discover
    | .kernel s, h => Kernel.discover s h
    | _, h => Kernel.discover .defaults h

end NodeSurvey.Source
