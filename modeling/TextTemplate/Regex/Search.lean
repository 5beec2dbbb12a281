import TextTemplate.Regex.Program
import Std.Data.TreeSet

/-! Searching a text for a match. Threads are explored depth first, a fork's preferred
branch before the other, and no place of the program is entered twice at one position;
so the first thread to reach acceptance took the most preferred way, and the work is at
most the length of the program times the length of the text. -/
namespace TextTemplate.Regex

/-- A stretch of a text by the positions of its characters. -/
structure Span where
  start : Nat
  stop : Nat
deriving DecidableEq, Repr

/-- What a thread has captured: where groups were opened, and the spans that were
closed, latest first. -/
structure Trail where
  opened : List (Nat × Nat) := []
  closed : List (Nat × Span) := []
deriving DecidableEq

namespace Trail

def openGroup (trail : Trail) (group position : Nat) : Trail :=
  { trail with opened := (group, position) :: trail.opened }

def closeGroup (trail : Trail) (group position : Nat) : Trail :=
  match trail.opened.lookup group with
  | some start => { trail with closed := (group, ⟨start, position⟩) :: trail.closed }
  | none => trail

def span? (trail : Trail) (group : Nat) : Option Span := trail.closed.lookup group

end Trail

/-- A place of the program and a position of the text, with what was captured on the way. -/
structure Thread where
  address : Nat
  position : Nat
  trail : Trail := {}

/-- What one instruction does with a thread. -/
inductive Move where
  | dies
  | accepts
  | goes (thread : Thread)
  | forks (preferred other : Thread)

namespace Thread

def behind? (text : Array Char) : Nat → Option Char
  | 0 => none
  | position + 1 => text[position]?

def move (program : Array Instruction) (text : Array Char) (thread : Thread) : Move :=
  let next := thread.address + 1
  match program[thread.address]? with
  | none => .dies
  | some .accept => .accepts
  | some (.take chars) =>
    match text[thread.position]? with
    | some c =>
      if chars.has c then .goes { thread with address := next, position := thread.position + 1 }
      else .dies
    | none => .dies
  | some (.look anchor) =>
    if anchor.holds (behind? text thread.position) text[thread.position]? then
      .goes { thread with address := next }
    else .dies
  | some (.opens group) =>
    .goes { thread with address := next, trail := thread.trail.openGroup group thread.position }
  | some (.closes group) =>
    .goes { thread with address := next, trail := thread.trail.closeGroup group thread.position }
  | some (.fork first second) =>
    .forks { thread with address := first } { thread with address := second }
  | some (.jump target) => .goes { thread with address := target }

end Thread

/-- Places below a limit that have been entered. -/
structure Entered where
  limit : Nat
  places : Std.TreeSet Nat
  below : ∀ place ∈ places, place < limit

namespace Entered

def empty (limit : Nat) : Entered := ⟨limit, ∅, by simp⟩

def isFresh (entered : Entered) (place : Nat) : Bool :=
  place < entered.limit && !entered.places.contains place

def left (entered : Entered) : Nat := entered.limit - entered.places.size

def enter (entered : Entered) (place : Nat) (small : place < entered.limit) : Entered :=
  ⟨entered.limit, entered.places.insert place, by
    intro other member
    rcases Std.TreeSet.mem_insert.mp member with same | old
    · exact Std.LawfulEqCmp.eq_of_compare same ▸ small
    · exact entered.below other old⟩

private theorem length_le_of_ascending (list : List Nat) (least limit : Nat)
    (ascending : list.Pairwise fun first second => compare first second = .lt)
    (within : ∀ item ∈ list, least ≤ item ∧ item < limit) : list.length ≤ limit - least := by
  induction list generalizing least with
  | nil => simp
  | cons item rest ih =>
    have ⟨above, ascending⟩ := List.pairwise_cons.mp ascending
    have bounds := within item (by simp)
    have := ih (item + 1) ascending fun other member =>
      ⟨Nat.compare_eq_lt.mp (above other member), (within other (by simp [member])).2⟩
    simp only [List.length_cons]
    omega

theorem size_le_limit (entered : Entered) : entered.places.size ≤ entered.limit := by
  have short := length_le_of_ascending entered.places.toList 0 entered.limit
    Std.TreeSet.ordered_toList fun place member =>
      ⟨Nat.zero_le _, entered.below place (Std.TreeSet.mem_toList.mp member)⟩
  simpa [Std.TreeSet.length_toList] using short

theorem below_of_isFresh {entered : Entered} {place : Nat} (fresh : entered.isFresh place = true) :
    place < entered.limit := by
  simp only [isFresh, Bool.and_eq_true, decide_eq_true_eq] at fresh
  exact fresh.1

theorem enter_left {entered : Entered} {place : Nat} (fresh : entered.isFresh place = true) :
    (entered.enter place (below_of_isFresh fresh)).left < entered.left := by
  have room := (entered.enter place (below_of_isFresh fresh)).size_le_limit
  have absent : entered.places.contains place = false := by
    simpa [isFresh, below_of_isFresh fresh] using fresh
  simp only [enter, left, Std.TreeSet.size_insert, absent, Bool.false_eq_true, if_false] at room ⊢
  omega

end Entered

/-- The places are numbered row by row from the position where the search begins. -/
def Thread.place (program : Array Instruction) (origin : Nat) (thread : Thread) : Nat :=
  (thread.position - origin) * program.size + thread.address

/-- Explores threads, the first of a list before the others, to the first acceptance. -/
def explore (program : Array Instruction) (text : Array Char) (origin : Nat)
    (entered : Entered) (threads : List Thread) : Option Thread × Entered :=
  match threads with
  | [] => (none, entered)
  | thread :: rest =>
    if fresh : entered.isFresh (thread.place program origin) = true ∧
        thread.address < program.size then
      have := Entered.enter_left fresh.1
      let entered' := entered.enter (thread.place program origin) (Entered.below_of_isFresh fresh.1)
      match thread.move program text with
      | .dies => explore program text origin entered' rest
      | .accepts => (some thread, entered')
      | .goes next => explore program text origin entered' (next :: rest)
      | .forks preferred other => explore program text origin entered' (preferred :: other :: rest)
    else explore program text origin entered rest
termination_by 2 * entered.left + threads.length

structure Match where
  span : Span
  trail : Trail
deriving DecidableEq

/-- The span of a group; group zero is the match. -/
def Match.group? (found : Match) (group : Nat) : Option Span :=
  if group = 0 then some found.span else found.trail.span? group

/-- Tries the starting positions in turn; places that led nowhere from an earlier start
are not entered again. -/
def firstFrom (program : Array Instruction) (text : Array Char) (origin : Nat) :
    (tries : Nat) → (start : Nat) → Entered → Option Match
  | 0, _, _ => none
  | tries + 1, start, entered =>
    match explore program text origin entered [{ address := 0, position := start }] with
    | (some thread, _) => some ⟨⟨start, thread.position⟩, thread.trail⟩
    | (none, entered) => firstFrom program text origin tries (start + 1) entered

/-- The leftmost match that begins at a position or behind it, in its preferred form. -/
def find? (program : Array Instruction) (text : Array Char) (origin : Nat) : Option Match :=
  let tries := text.size + 1 - origin
  firstFrom program text origin tries origin (.empty (tries * program.size))

end TextTemplate.Regex
