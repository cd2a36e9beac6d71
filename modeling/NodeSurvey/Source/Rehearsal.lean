import NodeSurvey.Source.Basic

/-! Sources for trying things out: one with features that the operator makes up, and one that
breaks down. -/

namespace NodeSurvey.Source

def Fake.discover (s : FakeSettings) : Discovery Features :=
  return s.labels.map fun _ value => .text value

def fake : Source where
  name := "fake"
  prefixed := true
  defaults := .fake .defaults
  discover
    | .fake s, _ => Fake.discover s
    | _, _ => Fake.discover .defaults

def panicFake : Source :=
  .plain "panic_fake" fun _ => Discovery.fail (.panicked (some "fake panic error"))

end NodeSurvey.Source
