import TextTemplate.Expression.Basic
import TextTemplate.Expression.Pipeline

/-! Literals of an argument list: quoted strings with a few escapes, and decimal
numbers. A reader returns the value and the text behind it, which is always shorter. -/
namespace TextTemplate.Expression.Literal

open Decimal

/-- What a backslash and a character stand for; an unknown pair stands for itself, so
that the escapes of a pattern arrive as written. -/
def unescape (c : Char) : List Char :=
  if c = '\\' ∨ isQuote c then [c]
  else if c = 'n' then ['\n']
  else if c = 't' then ['\t']
  else ['\\', c]

def readString (quote : Char) : List Char → Except ArgumentDefect (List Char × List Char)
  | [] => .error .unclosedString
  | ['\\'] => .error .unclosedString
  | '\\' :: c :: rest => (readString quote rest).map fun (body, after) => (unescape c ++ body, after)
  | c :: rest =>
    if c = quote then .ok ([], rest)
    else (readString quote rest).map fun (body, after) => (c :: body, after)

def isSign (c : Char) : Bool := c == '-' || c == '+'

def isExponentMark (c : Char) : Bool := c == 'e' || c == 'E'

/-- The longest run of digits, points and exponent marks, each mark with the sign
directly behind it, and the rest. -/
def numberRun : List Char → List Char × List Char
  | [] => ([], [])
  | [c] => if c.isDigit || c == '.' || isExponentMark c then ([c], []) else ([], [c])
  | c :: d :: rest =>
    if isExponentMark c && isSign d then
      let (run, after) := numberRun rest
      (c :: d :: run, after)
    else if c.isDigit || c == '.' || isExponentMark c then
      let (run, after) := numberRun (d :: rest)
      (c :: run, after)
    else ([], c :: d :: rest)

def numberText : List Char → List Char × List Char
  | [] => ([], [])
  | c :: rest =>
    if isSign c then
      let (run, after) := numberRun rest
      (c :: run, after)
    else numberRun (c :: rest)

/-- A point or an exponent makes a float, and its absence an integer. -/
def readNumber (text : List Char) : Except ArgumentDefect (Value × List Char) :=
  let (written, after) := numberText text
  let value? :=
    if written.any fun c => c == '.' || isExponentMark c then
      (Binary64.read? written).map Value.float
    else (readInt64? written).map Value.int
  match value? with
  | some value => .ok (value, after)
  | none => .error (.badNumber (String.ofList written))

def startsNumber (c : Char) : Bool := c.isDigit || isSign c || c == '.'

def read : List Char → Except ArgumentDefect (Value × List Char)
  | [] => .error .unclosedList
  | c :: rest =>
    if isQuote c then
      (readString c rest).map fun (body, after) => (.str (String.ofList body), after)
    else if startsNumber c then readNumber (c :: rest)
    else if c = ')' ∨ c = ',' then .error .missingLiteral
    else .error (.notLiteral c)

theorem readString_length {quote : Char} {text : List Char} {result : List Char × List Char}
    (success : readString quote text = .ok result) : result.2.length < text.length := by
  fun_induction readString quote text generalizing result with
  | case1 => cases success
  | case2 => cases success
  | case3 c rest shorter =>
    cases found : readString quote rest with
    | error defect => simp [found, Except.map] at success
    | ok inner =>
      have bound := shorter found
      simp only [found, Except.map, Except.ok.injEq] at success
      simp only [List.length_cons, ← success]
      omega
  | case4 rest _ =>
    cases success
    simp
  | case5 c rest _ _ different shorter =>
    cases found : readString quote rest with
    | error defect => simp [found, Except.map] at success
    | ok inner =>
      have bound := shorter found
      simp only [found, Except.map, Except.ok.injEq] at success
      simp only [List.length_cons, ← success]
      omega

theorem numberRun_append (text : List Char) :
    (numberRun text).1 ++ (numberRun text).2 = text := by
  fun_induction numberRun text <;> simp_all

theorem numberText_append (text : List Char) :
    (numberText text).1 ++ (numberText text).2 = text := by
  fun_cases numberText text with
  | case1 => rfl
  | case2 c rest _ run after split =>
    have whole := numberRun_append rest
    simp_all
  | case3 c rest _ => exact numberRun_append _

theorem numberText_nonempty {c : Char} (starts : startsNumber c = true) (rest : List Char) :
    (numberText (c :: rest)).1 ≠ [] := by
  simp only [numberText]
  split
  · simp
  · cases rest with
    | nil => simp_all [numberRun, startsNumber]
    | cons d rest =>
      simp only [numberRun]
      split
      · simp
      · simp_all [startsNumber]

theorem readNumber_length {c : Char} {rest after : List Char} {value : Value}
    (starts : startsNumber c = true) (success : readNumber (c :: rest) = .ok (value, after)) :
    after.length < (c :: rest).length := by
  have whole := congrArg List.length (numberText_append (c :: rest))
  have nonempty := List.length_pos_iff.mpr (numberText_nonempty starts rest)
  simp only [readNumber] at success
  split at success
  · simp only [Except.ok.injEq, Prod.mk.injEq] at success
    rw [List.length_append] at whole
    rw [← success.2]
    omega
  · cases success

/-- Whatever is read, less text remains. -/
theorem read_length {text after : List Char} {value : Value}
    (success : read text = .ok (value, after)) : after.length < text.length := by
  cases text with
  | nil => cases success
  | cons c rest =>
    simp only [read] at success
    split at success
    · cases found : readString c rest with
      | error defect => simp [found, Except.map] at success
      | ok inner =>
        have shorter := readString_length found
        simp only [found, Except.map, Except.ok.injEq, Prod.mk.injEq] at success
        simp only [List.length_cons, ← success.2]
        omega
    · split at success
      · exact readNumber_length (by assumption) success
      · split at success <;> cases success

end TextTemplate.Expression.Literal
