import TextTemplate.Regex.Matches
import TextTemplate.Template.Error
import TextTemplate.Text.Quoted

/-! A delimiter is a pattern that matches placeholders and whose first group is what
stands inside them. -/
namespace TextTemplate

/-- Placeholders between `open` and `close` hold anything but braces. -/
def contentPattern : String := "([^\x7b\x7d]+)"

structure Delimiter where
  regex : Regex
  hasGroup : 1 ≤ regex.lastGroup

namespace Delimiter

def ofPattern (pattern : String) : Except TemplateError Delimiter :=
  match Regex.compile {} pattern with
  | .error defect => .error (.invalidDelimiter pattern (.pattern defect))
  | .ok regex =>
    if hasGroup : 1 ≤ regex.lastGroup then .ok ⟨regex, hasGroup⟩
    else .error (.invalidDelimiter pattern .noGroup)

/-- A pattern that matches a text and nothing else. -/
def escape (text : String) : String :=
  String.ofList (text.toList.flatMap fun c =>
    if Regex.Escape.metaCharacters.contains c then ['\\', c] else [c])

def pair (opening closing : String) : Except TemplateError Delimiter :=
  ofPattern (escape opening ++ contentPattern ++ escape closing)

def defaultPattern : String := "\\$\\\x7b([^\x7b\x7d]+)\\\x7d"

/-- A dollar sign and a brace, a run without braces as the first group, and a brace. -/
def standardPattern : Regex.Pattern :=
  .seqs [.set (.single '$'), .set (.single '\x7b'),
    .group 1 (.loop true 1 none (.set (.complement (.union (.single '\x7b') (.single '\x7d'))))),
    .set (.single '\x7d')]

theorem read_defaultPattern :
    Regex.Pattern.read {} defaultPattern.toList = .ok standardPattern := rfl

def standard : Delimiter := ⟨.ofPattern defaultPattern standardPattern, by decide⟩

theorem ofPattern_defaultPattern : ofPattern defaultPattern = .ok standard := by
  have read : Regex.compile {} defaultPattern = .ok (.ofPattern defaultPattern standardPattern) := by
    rw [Regex.compile, read_defaultPattern]
    rfl
  simp only [ofPattern, read]
  rfl

def pattern (delimiter : Delimiter) : String := delimiter.regex.source

def describe (delimiter : Delimiter) : String :=
  "Delimiter(" ++ String.ofList (Text.quoted delimiter.pattern.toList) ++ ")"

end Delimiter

end TextTemplate
