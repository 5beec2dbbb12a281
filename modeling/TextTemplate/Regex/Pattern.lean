import TextTemplate.Regex.Anchor

/-! Patterns as trees, with every flag already resolved into classes and anchors. Where
a pattern offers a choice, the order of its parts says which is preferred. -/
namespace TextTemplate.Regex

inductive Pattern where
  | empty
  | set (chars : CharClass)
  | look (anchor : Anchor)
  | group (index : Nat) (body : Pattern)
  | seq (first second : Pattern)
  | alt (first second : Pattern)
  /-- At least `least` and at most `most` rounds; a greedy loop prefers more. -/
  | loop (greedy : Bool) (least : Nat) (most : Option Nat) (body : Pattern)

namespace Pattern

def zeroWidth : Pattern → Bool
  | .empty => true
  | .set _ => false
  | .look _ => true
  | .group _ body => body.zeroWidth
  | .seq first second => first.zeroWidth && second.zeroWidth
  | .alt first second => first.zeroWidth && second.zeroWidth
  | .loop _ _ most body => most == some 0 || body.zeroWidth

/-- A loop in its plainest form: none for no round, the body alone for one, and at most
one round of what takes no room. -/
def repeated (greedy : Bool) (least : Nat) (most : Option Nat) (body : Pattern) : Pattern :=
  let bounds := if body.zeroWidth then (min least 1, some ((most.map (min · 1)).getD 1)) else (least, most)
  match bounds with
  | (0, some 0) => .empty
  | (1, some 1) => body
  | (least, most) => .loop greedy least most body

def seqs : List Pattern → Pattern
  | [] => .empty
  | [only] => only
  | first :: rest => .seq first (seqs rest)

def alts : List Pattern → Pattern
  | [] => .empty
  | [only] => only
  | first :: rest => .alt first (alts rest)

def lastGroup : Pattern → Nat
  | .empty | .set _ | .look _ => 0
  | .group index body => max index body.lastGroup
  | .seq first second => max first.lastGroup second.lastGroup
  | .alt first second => max first.lastGroup second.lastGroup
  | .loop _ _ _ body => body.lastGroup

/-- An estimate of the bytes that a matching machine over UTF-8 takes for a pattern: 32 for
a state and more where it branches. A loop takes a copy of its body for every round that it
must run, and one with a branch for every round that it may run. -/
def weight : Pattern → Nat
  | .empty => 32
  | .set chars =>
    match chars.only? with
    | some c => 32 * c.utf8Size
    | none => 80 + 60 * chars.breadth
  | .look _ => 32
  | .group _ body => 64 + body.weight
  | .seq first second => first.weight + second.weight
  | .alt first second => 48 + first.weight + second.weight
  | .loop _ least none body => 72 + max 1 least * body.weight
  | .loop _ least (some most) body =>
    32 + least * body.weight + (most - least) * (40 + body.weight)

end Pattern

end TextTemplate.Regex
