import TextTemplate.Proofs.Regex.Again
import TextTemplate.Proofs.Regex.Captures

/-! All matches of a text, whatever the program: they are stretches of the text with their
groups inside, each begins farther on than the one before it, and no two overlap. -/
namespace TextTemplate.Regex

variable {program : Array Instruction} {text : Array Char}

/-- A match that begins and ends before another begins. -/
structure Match.Before (first second : Match) : Prop where
  starts : first.span.start < second.span.start
  apart : first.span.stop ≤ second.span.start

theorem Match.Before.trans {first second third : Match} (early : first.Before second) (late : second.Before third) :
    first.Before third :=
  ⟨Nat.lt_trans early.starts late.starts, Nat.le_trans early.apart (Nat.le_of_lt late.starts)⟩

theorem span_of_empty {span : Span} (empty : span.start = span.stop) : span = ⟨span.stop, span.stop⟩ := by
  cases span
  cases empty
  rfl

/-- An empty match would be found again where it ends, and is passed over there. -/
theorem findAfter?_before {origin : Nat} {found later : Match} (success : find? program text origin = some found)
    (next : findAfter? program text found.span.stop = some later) :
    found.Before later ∧ ∃ origin', find? program text origin' = some later := by
  have ordered := (find?_span success).2.1
  unfold findAfter? at next
  split at next
  · rename_i candidate here
    have bounds := find?_span here
    split at next
    · have bounds := find?_span next
      exact ⟨⟨by omega, by omega⟩, _, next⟩
    · rename_i apart
      cases next
      refine ⟨⟨Nat.lt_of_le_of_ne (Nat.le_trans ordered bounds.1) fun same => ?_, bounds.1⟩, _, here⟩
      have empty : found.span.start = found.span.stop := Nat.le_antisymm ordered (same ▸ bounds.1)
      have again := find?_again success
      rw [empty, here] at again
      cases again
      exact apart (span_of_empty empty)
  · cases next

theorem matchesAfter_row {origin : Nat} {found : Match} (success : find? program text origin = some found) :
    (∀ later ∈ matchesAfter program text found.span.stop, found.Before later ∧ later.Proper text.size) ∧
      (matchesAfter program text found.span.stop).Pairwise Match.Before := by
  rw [matchesAfter]
  split
  · exact ⟨fun _ member => (List.not_mem_nil member).elim, .nil⟩
  · rename_i next follows
    have shorter := findAfter?_span follows
    obtain ⟨before, origin', own⟩ := findAfter?_before success follows
    obtain ⟨all, row⟩ := matchesAfter_row own
    refine ⟨List.forall_mem_cons.mpr ⟨⟨before, (find?_proper own).2⟩, fun later member => ?_⟩,
      List.pairwise_cons.mpr ⟨fun later member => (all later member).1, row⟩⟩
    exact ⟨before.trans (all later member).1, (all later member).2⟩
termination_by text.size - found.span.stop

theorem matchesOf_row (program : Array Instruction) (text : Array Char) :
    (∀ found ∈ matchesOf program text, found.Proper text.size) ∧
      (matchesOf program text).Pairwise Match.Before := by
  rw [matchesOf]
  split
  · exact ⟨fun _ member => (List.not_mem_nil member).elim, .nil⟩
  · rename_i found success
    obtain ⟨all, row⟩ := matchesAfter_row success
    exact ⟨List.forall_mem_cons.mpr ⟨(find?_proper success).2, fun later member => (all later member).2⟩,
      List.pairwise_cons.mpr ⟨fun later member => (all later member).1, row⟩⟩

theorem matchesOf_eq_nil : matchesOf program text = [] ↔ find? program text 0 = none := by
  rw [matchesOf]
  split
  · rename_i absent
    simp [absent]
  · rename_i found success
    simp [success]

end TextTemplate.Regex
