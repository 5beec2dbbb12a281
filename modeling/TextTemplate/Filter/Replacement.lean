import TextTemplate.Regex.Matches

/-! Replacement texts. A dollar sign may begin a token: the match, the text on either
side of it, or a group by a number of one or two digits. A dollar sign that begins no
token stands for itself, and so does every other character. -/
namespace TextTemplate.Replacement

open Regex (Match Span)

inductive Token where
  | char (c : Char)
  | whole
  | before
  | after
  | group (index : Nat)
deriving DecidableEq

def digitValue (c : Char) : Nat := c.toNat - '0'.toNat

def names (lastGroup index : Nat) : Bool := 1 ≤ index && index ≤ lastGroup

/-- The token that a dollar sign begins, and the text behind it. Two digits are taken
when they name a group, else the first digit when it does. -/
def dollar (lastGroup : Nat) : List Char → Token × List Char
  | [] => (.char '$', [])
  | c :: rest =>
    if c = '$' then (.char '$', rest)
    else if c = '&' then (.whole, rest)
    else if c = '\x60' then (.before, rest)
    else if c = '\x27' then (.after, rest)
    else if c.isDigit then
      let single := if names lastGroup (digitValue c) then (.group (digitValue c), rest) else (.char '$', c :: rest)
      match rest with
      | [] => single
      | d :: behind =>
        let index := digitValue c * 10 + digitValue d
        if d.isDigit && names lastGroup index then (.group index, behind) else single
    else (.char '$', c :: rest)

theorem dollar_length (lastGroup : Nat) (text : List Char) :
    (dollar lastGroup text).2.length ≤ text.length := by
  cases text with
  | nil => simp [dollar]
  | cons c rest =>
    cases rest with
    | nil => grind [dollar]
    | cons d behind => grind [dollar]

def tokens (lastGroup : Nat) : List Char → List Token
  | [] => []
  | c :: rest =>
    if c = '$' then
      have := dollar_length lastGroup rest
      (dollar lastGroup rest).1 :: tokens lastGroup (dollar lastGroup rest).2
    else .char c :: tokens lastGroup rest
termination_by text => text.length

def slice (text : Array Char) (span : Span) : List Char := (text.extract span.start span.stop).toList

/-- Stretches that meet are one stretch. -/
theorem slice_append (text : Array Char) {start middle stop : Nat} (first : start ≤ middle)
    (second : middle ≤ stop) :
    slice text ⟨start, middle⟩ ++ slice text ⟨middle, stop⟩ = slice text ⟨start, stop⟩ := by
  simp only [slice, ← Array.toList_append, Array.extract_append_extract, Nat.min_eq_left first,
    Nat.max_eq_right second]

/-- What a token stands for at a match; a group that took no part is empty. -/
def Token.expand (text : Array Char) (found : Match) : Token → List Char
  | .char c => [c]
  | .whole => slice text found.span
  | .before => slice text ⟨0, found.span.start⟩
  | .after => slice text ⟨found.span.stop, text.size⟩
  | .group index =>
    match found.group? index with
    | some span => slice text span
    | none => []

def expand (lastGroup : Nat) (replacement : List Char) (text : Array Char) (found : Match) : List Char :=
  (tokens lastGroup replacement).flatMap (Token.expand text found)

/-- The text from an offset on, with something else in the place of each match. -/
def substituteFrom (text : Array Char) (insert : Match → List Char) (offset : Nat) :
    List Match → List Char
  | [] => slice text ⟨offset, text.size⟩
  | found :: rest =>
    slice text ⟨offset, found.span.start⟩ ++ insert found ++
      substituteFrom text insert found.span.stop rest

def substitute (text : Array Char) (insert : Match → List Char) (found : List Match) : List Char :=
  substituteFrom text insert 0 found

end TextTemplate.Replacement
