import SpriteScript.Json.Record

namespace SpriteScript

/-! Steps that may be at fault, one after the other. -/

theorem ok_of_bind {ε α β : Type} {first : Except ε α} {next : α → Except ε β} {result : β}
    (done : first >>= next = .ok result) :
    ∃ value, first = .ok value ∧ next value = .ok result := by
  cases first with
  | error fault => cases done
  | ok value => exact ⟨value, rfl, done⟩

theorem bind_of_ok {ε α β : Type} {first : Except ε α} {value : α} (done : first = .ok value)
    (next : α → Except ε β) : first >>= next = next value := by
  rw [done]
  rfl

theorem bind_of_error {ε α β : Type} {first : Except ε α} {fault : ε} (done : first = .error fault)
    (next : α → Except ε β) : first >>= next = .error fault := by
  rw [done]
  rfl

theorem ok_of_toOption {ε α : Type} {outcome : Except ε α} {value : α}
    (found : outcome.toOption = some value) : outcome = .ok value := by
  cases outcome <;> cases found
  rfl

theorem Reading.ofOption_eq_ok {Cause α : Type} {value? : Option α} {value : α} :
    Reading.ofOption value? = (.ok value : Reading Cause α) ↔ value? = some value := by
  cases value? <;> simp [Reading.ofOption]

end SpriteScript
