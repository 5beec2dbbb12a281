import TextTemplate.Regex.Pattern

/-! A program is a pattern laid out as instructions. The code of a pattern is entered at
its first instruction and left by falling through behind its last one. -/
namespace TextTemplate.Regex

inductive Instruction where
  | take (chars : CharClass)
  | look (anchor : Anchor)
  | opens (group : Nat)
  | closes (group : Nat)
  /-- Goes on at the first place, and at the second only if the first leads nowhere. -/
  | fork (first second : Nat)
  | jump (target : Nat)
  | accept

namespace Pattern

def length : Pattern → Nat
  | .empty => 0
  | .set _ => 1
  | .look _ => 1
  | .group _ body => body.length + 2
  | .seq first second => first.length + second.length
  | .alt first second => first.length + second.length + 2
  | .loop _ 0 none body => body.length + 2
  | .loop _ (least + 1) none body => (least + 1) * body.length + 1
  | .loop _ least (some most) body => least * body.length + (most - least) * (body.length + 1)

/-- A fork into a body or past it; a lazy one tries the way past first. -/
def forkInto (greedy : Bool) (body past : Nat) : Instruction :=
  if greedy then .fork body past else .fork past body

/-- Code repeated `count` times, each copy laid out for the place where it stands. -/
def copies (count length base : Nat) (code : Nat → List Instruction) : List Instruction :=
  (List.range count).flatMap fun index => code (base + index * length)

/-- The code of a pattern that is laid out from an address on. A loop without an upper
bound runs its last copy of the body and then chooses between going back and going on;
a loop that may run no round at all chooses once more before it. -/
def code : Pattern → Nat → List Instruction
  | .empty, _ => []
  | .set chars, _ => [.take chars]
  | .look anchor, _ => [.look anchor]
  | .group index body, base => .opens index :: body.code (base + 1) ++ [.closes index]
  | .seq first second, base => first.code base ++ second.code (base + first.length)
  | .alt first second, base =>
    .fork (base + 1) (base + first.length + 2) :: first.code (base + 1) ++
      .jump (base + first.length + second.length + 2) :: second.code (base + first.length + 2)
  | .loop greedy 0 none body, base =>
    let behind := base + body.length + 2
    forkInto greedy (base + 1) behind :: body.code (base + 1) ++ [forkInto greedy (base + 1) behind]
  | .loop greedy (least + 1) none body, base =>
    let last := base + least * body.length
    copies (least + 1) body.length base body.code ++
      [forkInto greedy last (last + body.length + 1)]
  | .loop greedy least (some most) body, base =>
    let optional := base + least * body.length
    let behind := optional + (most - least) * (body.length + 1)
    copies least body.length base body.code ++
      copies (most - least) (body.length + 1) optional fun start =>
        forkInto greedy (start + 1) behind :: body.code (start + 1)

def program (pattern : Pattern) : Array Instruction := (pattern.code 0 ++ [Instruction.accept]).toArray

end Pattern

end TextTemplate.Regex
