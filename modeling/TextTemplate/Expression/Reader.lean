import TextTemplate.Expression.Literal
import TextTemplate.Name

/-! Reading an expression: the pipeline is cut, each piece is trimmed, the first piece
is the key and every other piece is a call. The first piece that is no call decides
the error. -/
namespace TextTemplate.Expression

open Text (isBlank trim trimStart)

theorem trimStart_length (text : List Char) : (trimStart text).length ≤ text.length :=
  (List.dropWhile_sublist isBlank).length_le

namespace Arguments

/-- Only blanks may follow the closing parenthesis. -/
def close (values : List Value) (text : List Char) : Except ArgumentDefect (List Value) :=
  match trimStart text with
  | [] => .ok values
  | c :: _ => .error (.afterList c)

private theorem separator_shorter {text rest after : List Char} {value : Value} {c : Char}
    (literal : Literal.read (trimStart text) = .ok (value, rest))
    (separator : trimStart rest = c :: after) : after.length < text.length := by
  have shorter := Literal.read_length literal
  have skipped := trimStart_length text
  have skippedRest := trimStart_length rest
  rw [separator, List.length_cons] at skippedRest
  omega

def readList (text : List Char) : Except ArgumentDefect (List Value) :=
  match literal : Literal.read (trimStart text) with
  | .error defect => .error defect
  | .ok (value, rest) =>
    match separator : trimStart rest with
    | [] => .error .unclosedList
    | c :: after =>
      have : after.length < text.length := separator_shorter literal separator
      if c = ',' then (readList after).map (value :: ·)
      else if c = ')' then close [value] after
      else .error (.notSeparator c)
termination_by text.length

def read (text : List Char) : Except ArgumentDefect (List Value) :=
  match trimStart text with
  | ')' :: rest => close [] rest
  | start => readList start

end Arguments

/-- The run that should be a name: it ends at a blank or an opening parenthesis. -/
def endsName (c : Char) : Bool := c == '(' || isBlank c

/-- A call is a name, alone or with an argument list behind it. -/
def readCall (segment : List Char) : Except Defect Call :=
  let name := segment.takeWhile (!endsName ·)
  let rest := trimStart (segment.dropWhile (!endsName ·))
  if Name.isName name then
    match rest with
    | [] => .ok ⟨String.ofList name, []⟩
    | '(' :: source =>
      match Arguments.read source with
      | .ok values => .ok ⟨String.ofList name, values⟩
      | .error defect => .error (.malformedArguments (String.ofList name) defect)
    | _ => .error (.invalidName (String.ofList segment))
  else .error (.invalidName (String.ofList segment))

/-- All calls, or the defect of the first segment that is none. -/
def readCalls : List (List Char) → Except Defect (List Call)
  | [] => .ok []
  | segment :: rest =>
    match readCall (trim segment) with
    | .error defect => .error defect
    | .ok call => (readCalls rest).map (call :: ·)

def read (content : List Char) : Except Defect Expression :=
  let (first, later) := Pipeline.split content
  (readCalls later).map fun calls => ⟨String.ofList (trim first), calls⟩

end TextTemplate.Expression
