import NodeSurvey.Source.Basic

/-! Features of the operating system, from the assignments of its release file. -/

namespace NodeSurvey.Source.System

def strip (c : Char) (s : List Char) : List Char :=
  (((s.dropWhile (· = c)).reverse).dropWhile (· = c)).reverse

/-- The key and the value that a line assigns; quotes around the value do not count. -/
def assignment? (line : List Char) : Option (String × String) :=
  let line := Text.trim line
  if line.isEmpty || line.head? = some '#' then none
  else
    (Text.splitOnce '=' line).map fun (key, value) =>
      (String.ofList (Text.trim key),
        String.ofList (strip '\'' (strip '"' (Text.trim value))))

/-- The values of a release file; of several assignments to a key the last counts. -/
def release (text : String) : Dict String :=
  Dict.ofList ((Text.lines text.toList).filterMap assignment?)

/-- The first part of a version if there is one, and the second even if it is empty. -/
def versionParts (version : String) : List (String × FeatureValue) :=
  match Text.split '.' version.toList with
  | [] => []
  | major :: rest =>
    (if major.isEmpty then []
      else [("os_release.VERSION_ID.major", .text (String.ofList major))]) ++
    match rest with
    | [] => []
    | minor :: _ => [("os_release.VERSION_ID.minor", .text (String.ofList minor))]

def features (release : Dict String) : Features :=
  let id := match release.get? "ID" with
    | some id => [("os_release.ID", FeatureValue.text id)]
    | none => []
  let version := match release.get? "VERSION_ID" with
    | some v => ("os_release.VERSION_ID", FeatureValue.text v) :: versionParts v
    | none => []
  Dict.ofList (id ++ version)

def discover (h : Host) : Discovery Features := do
  let text ← Discovery.reading .osRelease (h.readTrimmed "etc/os-release")
  return features (release text)

end NodeSurvey.Source.System

namespace NodeSurvey.Source

def system : Source := .plain "system" System.discover

end NodeSurvey.Source
