import TextTemplate.Expression.Reader
import TextTemplate.Filter.Replacement
import TextTemplate.Filter.Table
import TextTemplate.Template.Delimiter
import TextTemplate.Text.Offset

/-! Compiling a source: its matches become placeholders and the text between them
becomes literals. The first placeholder that cannot be read decides the error. -/
namespace TextTemplate

open Regex (Match)

/-- A placeholder with the bytes that it spans and its content as written. -/
structure Placeholder where
  start : Nat
  stop : Nat
  raw : String
  expression : Expression
deriving DecidableEq

inductive Segment where
  | literal (start : Nat) (text : String)
  | placeholder (placeholder : Placeholder)
deriving DecidableEq

/-- A source cut into segments, and the filters that go with it. Without a placeholder
there are no segments and the source stands for itself. -/
structure Template where
  source : String
  segments : List Segment
  filters : FilterTable

namespace Template

def isStatic (template : Template) : Bool := template.segments.isEmpty

def placeholders (template : Template) : List Placeholder :=
  template.segments.filterMap fun
    | .literal _ _ => none
    | .placeholder placeholder => some placeholder

def literal (start : Nat) (text : List Char) : List Segment :=
  if text.isEmpty then [] else [.literal start (String.ofList text)]

/-- The content of a match: its first group, and nothing when that took no part. -/
def content (text : Array Char) (found : Match) : List Char :=
  match found.group? 1 with
  | some span => Replacement.slice text span
  | none => []

/-- The segments of a text from an offset on, given the byte at which that offset stands. -/
def segmentsFrom (text : Array Char) (offset position : Nat) :
    List Match → Except TemplateError (List Segment)
  | [] => .ok (literal position (Replacement.slice text ⟨offset, text.size⟩))
  | found :: rest =>
    let gap := Replacement.slice text ⟨offset, found.span.start⟩
    let raw := content text found
    let start := position + Text.byteLength gap
    let stop := start + Text.byteLength (Replacement.slice text found.span)
    match Expression.read raw with
    | .error defect => .error (.ofDefect start defect)
    | .ok expression =>
      (segmentsFrom text found.span.stop stop rest).map fun later =>
        literal position gap ++ .placeholder ⟨start, stop, String.ofList raw, expression⟩ :: later

def compile (delimiter : Delimiter) (filters : FilterTable) (source : String) :
    Except TemplateError Template :=
  let text := source.toList.toArray
  match delimiter.regex.allMatches text with
  | [] => .ok ⟨source, [], filters⟩
  | found => (segmentsFrom text 0 0 found).map fun segments => ⟨source, segments, filters⟩

end Template

end TextTemplate
