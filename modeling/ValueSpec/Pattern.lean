import ValueSpec.BuildError
import ValueSpec.Pattern.Matcher
import ValueSpec.Pattern.Reader
import ValueSpec.Pattern.StrictEnd

namespace ValueSpec

namespace Pattern

/-- Read a pattern whose errors are reported for the pattern `shown`. -/
def readFor (shown pattern : String) : Build Program :=
  match read pattern with
  | .ok p => .ok p
  | .error (.flaw e) => .error (.spec (.badPattern shown (e.message pattern)))
  | .error (.fault f) => .error (.fault f)

/-- Read a pattern, with strict ends unless it is for several lines. -/
def compile (pattern : String) : Build Program := do
  let p ← readFor pattern pattern
  if p.flags.multiline then return p else readFor pattern (strictEnd pattern)

end Pattern

/-- A pattern that has been compiled, with what is said of it in messages. -/
structure Pattern where
  source : String
  description : String
  program : Pattern.Program
  compiled : Pattern.compile source = .ok program

namespace Pattern

def make (source description : String) : Build Pattern :=
  match h : compile source with
  | .ok program => .ok ⟨source, description, program, h⟩
  | .error e => .error e

/-- The description, or the pattern itself if it has none. -/
def shownAs (p : Pattern) : String := if p.description = "" then p.source else p.description

def matchesIn (p : Pattern) (text : String) : Bool := p.program.regex.matchesIn text.toList

/-- Two compiled patterns are equal if they were made of the same texts. -/
theorem ext_source {p q : Pattern} (hs : p.source = q.source)
    (hd : p.description = q.description) : p = q := by
  obtain ⟨s, d, a, ha⟩ := p
  obtain ⟨s', d', b, hb⟩ := q
  simp only at hs hd
  subst hs hd
  have : a = b := by rw [ha] at hb; exact Except.ok.inj hb
  subst this
  rfl

end Pattern

end ValueSpec
