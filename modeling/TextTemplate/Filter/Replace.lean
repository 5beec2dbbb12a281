import TextTemplate.Filter.Basic
import TextTemplate.Filter.Replacement

/-! The filter that replaces what a pattern matches. The arguments of a call say which
regular expression it needs, and what it does once it has it. -/
namespace TextTemplate.Replace

/-- A regular expression that a call asks for: the pattern, and those of the letters `i`,
`m` and `s` that its flags contain, each once and in the order of the call. -/
structure Request where
  pattern : String
  letters : List Char
deriving DecidableEq

namespace Request

def flags (request : Request) : Regex.Flags where
  ignoreCase := request.letters.contains 'i'
  multiLine := request.letters.contains 'm'
  dotAll := request.letters.contains 's'

def compile (request : Request) : Except Regex.Defect Regex :=
  Regex.compile request.flags request.pattern

end Request

structure Options where
  /-- Every match is replaced, not only the first. -/
  everywhere : Bool := false
  letters : List Char := []
deriving DecidableEq

namespace Options

def addLetter (options : Options) (letter : Char) : Options :=
  if options.letters.contains letter then options
  else { options with letters := options.letters ++ [letter] }

/-- One flag after another; the first that is unknown is the error. Patterns always work
on Unicode, so `u` asks for nothing. -/
def readFrom (options : Options) : List Char → Except Char Options
  | [] => .ok options
  | c :: rest =>
    if c = 'g' then readFrom { options with everywhere := true } rest
    else if c = 'i' ∨ c = 'm' ∨ c = 's' then readFrom (options.addLetter c) rest
    else if c = 'u' then readFrom options rest
    else .error c

def read (flags : List Char) : Except Char Options := readFrom {} flags

end Options

/-- The flags of a call: without an argument, or with an empty one, every match is
replaced. -/
def flagsText (arguments : List Value) : List Char :=
  match arguments[2]? with
  | none => ['g']
  | some value => if value.text.isEmpty then ['g'] else value.text.toList

structure Job where
  request : Request
  everywhere : Bool
  replacement : List Char

namespace Job

/-- Missing arguments are reported first, and unknown flags after them. -/
def read (arguments : List Value) : Except FilterError Job := do
  let pattern ← argument "replace" arguments 0
  let replacement ← argument "replace" arguments 1
  match Options.read (flagsText arguments) with
  | .error flag => .error (.unsupportedFlag "replace" flag)
  | .ok options =>
    .ok ⟨⟨pattern.text, options.letters⟩, options.everywhere, replacement.text.toList⟩

/-- Replaces the matches that the call chooses. A replacement without a dollar sign is
inserted as it is. -/
def apply (job : Job) (regex : Regex) (subject : List Char) : List Char :=
  let text := subject.toArray
  let all := regex.allMatches text
  let chosen := if job.everywhere then all else all.take 1
  if job.replacement.contains '$' then
    Replacement.substitute text (Replacement.expand regex.lastGroup job.replacement text) chosen
  else Replacement.substitute text (fun _ => job.replacement) chosen

def finish (job : Job) (value : Value) : Except Regex.Defect Regex → Except FilterError Value
  | .error defect => .error (.invalidRegex "replace" defect)
  | .ok regex => .ok (.str (String.ofList (job.apply regex value.text.toList)))

end Job

def filter : Filter := fun value arguments => do
  let job ← Job.read arguments
  job.finish value job.request.compile

theorem filter_of_fault {value : Value} {arguments : List Value} {error : FilterError}
    (fault : Job.read arguments = .error error) : filter value arguments = .error error := by
  rw [filter, fault]
  rfl

theorem filter_of_job (value : Value) {arguments : List Value} {job : Job} (read : Job.read arguments = .ok job) :
    filter value arguments = job.finish value job.request.compile := by
  rw [filter, read]
  rfl

end TextTemplate.Replace
