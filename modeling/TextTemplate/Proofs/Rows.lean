import Mathlib.Data.List.Forall2

/-! Two lists whose members are related one by one, when one member is looked up or changed;
and the first member of a list that lacks what the members before it have. -/
namespace TextTemplate.Rows

variable {related : α → β → Prop} {first : List α} {second : List β} {index : Nat} {held : β}

theorem forall₂_getElem? (all : List.Forall₂ related first second) (there : second[index]? = some held) :
    ∃ partner, first[index]? = some partner ∧ related partner held := by
  induction all generalizing index with
  | nil => cases there
  | @cons partner _ _ _ own _ ih =>
    cases index with
    | zero =>
      cases there
      exact ⟨partner, rfl, own⟩
    | succ index => exact ih there

/-- One member changes and its partner with it, and the two stay related. -/
theorem forall₂_modify {change : α → α} {next : β} (all : List.Forall₂ related first second)
    (there : second[index]? = some held)
    (kept : ∀ partner, related partner held → related (change partner) next) :
    List.Forall₂ related (first.modify index change) (second.set index next) := by
  induction all generalizing index with
  | nil => cases there
  | cons own rest ih =>
    cases index with
    | zero =>
      cases there
      exact .cons (kept _ own) rest
    | succ index => exact .cons own (ih there)

/-- A member is not good, and all members before it are. -/
def First (good : α → Prop) (items : List α) (item : α) : Prop :=
  ∃ before after, items = before ++ item :: after ∧ (∀ other ∈ before, good other) ∧ ¬ good item

theorem not_first_nil {good : α → Prop} {item : α} : ¬ First good [] item := by
  rintro ⟨before, after, same, _⟩
  simp at same

theorem first_cons {good : α → Prop} {head item : α} {rest : List α} :
    First good (head :: rest) item ↔ ¬ good head ∧ item = head ∨ good head ∧ First good rest item := by
  constructor
  · rintro ⟨before, after, same, earlier, bad⟩
    cases before with
    | nil =>
      obtain ⟨rfl, rfl⟩ := List.cons.inj same
      exact .inl ⟨bad, rfl⟩
    | cons other before =>
      obtain ⟨rfl, rfl⟩ := List.cons.inj same
      obtain ⟨own, earlier⟩ := List.forall_mem_cons.mp earlier
      exact .inr ⟨own, before, after, rfl, earlier, bad⟩
  · rintro (⟨bad, rfl⟩ | ⟨own, before, after, rfl, earlier, bad⟩)
    · exact ⟨[], rest, rfl, by simp, bad⟩
    · exact ⟨head :: before, after, rfl, List.forall_mem_cons.mpr ⟨own, earlier⟩, bad⟩

theorem exists_first {good : α → Prop} {items : List α} :
    (∃ item, First good items item) ↔ ∃ item ∈ items, ¬ good item := by
  constructor
  · rintro ⟨item, before, after, rfl, _, bad⟩
    exact ⟨item, by simp, bad⟩
  · rintro ⟨item, member, bad⟩
    induction items with
    | nil => cases member
    | cons head rest ih =>
      by_cases own : good head
      · rcases List.mem_cons.mp member with rfl | later
        · exact absurd own bad
        · obtain ⟨first, found⟩ := ih later
          exact ⟨first, first_cons.mpr (.inr ⟨own, found⟩)⟩
      · exact ⟨head, first_cons.mpr (.inl ⟨own, rfl⟩)⟩

theorem First.unique {good : α → Prop} {items : List α} {item other : α} (first : First good items item)
    (second : First good items other) : item = other := by
  induction items with
  | nil => exact absurd first not_first_nil
  | cons head rest ih =>
    rcases first_cons.mp first with ⟨bad, rfl⟩ | ⟨own, first⟩
    · rcases first_cons.mp second with ⟨_, rfl⟩ | ⟨own, _⟩
      · rfl
      · exact absurd own bad
    · rcases first_cons.mp second with ⟨bad, _⟩ | ⟨_, second⟩
      · exact absurd own bad
      · exact ih first second

end TextTemplate.Rows
