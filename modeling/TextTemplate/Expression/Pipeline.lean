/-! A pipeline is text cut at the pipes that stand outside string literals. One
automaton follows the literals: a quote opens one, the same quote closes it, and a
backslash inside it protects the next character. -/
namespace TextTemplate.Expression

def isQuote (c : Char) : Bool := c == '\x27' || c == '"'

/-- Where a reader stands with respect to string literals. -/
inductive Quoting where
  | outside
  | inside (quote : Char)
  | escaping (quote : Char)
deriving DecidableEq

namespace Quoting

def step : Quoting → Char → Quoting
  | .outside, c => if isQuote c then .inside c else .outside
  | .inside quote, c =>
    if c = '\\' then .escaping quote else if c = quote then .outside else .inside quote
  | .escaping quote, _ => .inside quote

def run (state : Quoting) (text : List Char) : Quoting := text.foldl step state

theorem run_append (state : Quoting) (first second : List Char) :
    state.run (first ++ second) = (state.run first).run second := List.foldl_append

def cuts (state : Quoting) (c : Char) : Bool := state == .outside && c == '|'

end Quoting

namespace Pipeline

def splitFrom (state : Quoting) : List Char → List Char × List (List Char)
  | [] => ([], [])
  | c :: rest =>
    if state.cuts c then
      let (first, later) := splitFrom .outside rest
      ([], first :: later)
    else
      let (first, later) := splitFrom (state.step c) rest
      (c :: first, later)

/-- The text before the first cut, and the segments behind each cut. -/
def split (content : List Char) : List Char × List (List Char) := splitFrom .outside content

end Pipeline

end TextTemplate.Expression
