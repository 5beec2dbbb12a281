import TextTemplate.Data.Source
import TextTemplate.Filter.Registry
import TextTemplate.Template.Compile

/-! Rendering: each placeholder is evaluated and its text takes its place. What was
inserted is not looked at again, and the first failure is the whole answer. -/
namespace TextTemplate.Template

def applyCalls (find? : String → Option Filter) (position : Nat) (value : Value) :
    List Call → Except TemplateError Value
  | [] => .ok value
  | call :: rest =>
    match find? call.name with
    | none => .error (.unknownFilter call.name position)
    | some filter =>
      match filter value call.arguments with
      | .error cause => .error (.filter call.name position cause)
      | .ok next => applyCalls find? position next rest

def evaluate (find? : String → Option Filter) (data : Data) (placeholder : Placeholder) :
    Except TemplateError Value :=
  applyCalls find? placeholder.start (data.read placeholder.expression.key) placeholder.expression.calls

def renderSegments (find? : String → Option Filter) (data : Data) :
    List Segment → Except TemplateError String
  | [] => .ok ""
  | .literal _ text :: rest => (renderSegments find? data rest).map (text ++ ·)
  | .placeholder placeholder :: rest =>
    match evaluate find? data placeholder with
    | .error error => .error error
    | .ok value => (renderSegments find? data rest).map (value.text ++ ·)

/-- Filters of the call come first, then those of the template, then the registry. -/
def resolve (template : Template) (callFilters : FilterTable) (registry : Registry) (name : String) :
    Option Filter :=
  match callFilters.find? name with
  | some filter => some filter
  | none =>
    match template.filters.find? name with
    | some filter => some filter
    | none => registry.find? name

def renderWith (template : Template) (callFilters : FilterTable) (registry : Registry) (data : Data) :
    Except TemplateError String :=
  if template.isStatic then .ok template.source
  else renderSegments (template.resolve callFilters registry) data template.segments

def render (template : Template) (registry : Registry) (data : Data) : Except TemplateError String :=
  template.renderWith ∅ registry data

end TextTemplate.Template
