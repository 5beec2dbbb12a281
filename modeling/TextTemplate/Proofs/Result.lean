/-! When a result that was mapped is a success or a failure. -/
namespace TextTemplate.Result

theorem map_eq_ok {result : Except ε α} {f : α → β} {value : β} :
    result.map f = .ok value ↔ ∃ inner, result = .ok inner ∧ f inner = value := by
  cases result <;> simp [Except.map]

theorem map_eq_error {result : Except ε α} {f : α → β} {error : ε} :
    result.map f = .error error ↔ result = .error error := by
  cases result <;> simp [Except.map]

/-- Results look the same under a function when they are one error, or values that do. -/
theorem map_eq_map {first second : Except ε α} {f : α → β} :
    first.map f = second.map f ↔ (∃ error, first = .error error ∧ second = .error error) ∨
      ∃ value other, first = .ok value ∧ second = .ok other ∧ f value = f other := by
  cases first <;> cases second <;> simp [Except.map, eq_comm]

theorem mapError_eq_ok {result : Except ε α} {f : ε → δ} {value : α} :
    result.mapError f = .ok value ↔ result = .ok value := by
  cases result with
  | error e =>
    constructor
    · intro success
      cases success
    · intro success
      cases success
  | ok inner =>
    constructor
    · intro success
      exact congrArg Except.ok (Except.ok.inj success)
    · intro success
      exact congrArg Except.ok (Except.ok.inj success)

end TextTemplate.Result
