import Mathlib.Data.String.Basic

/-!
What an HTTP endpoint raises in place of an answer.
-/

namespace VeriPay.Lib

structure HTTPException where
  statusCode : ℕ
  detail : String
  deriving DecidableEq

/-- `if value is None: raise HTTPException(404, ...)`. -/
def found {α : Type} (detail : String) : Option α → Except HTTPException α
  | none => .error ⟨404, detail⟩
  | some value => .ok value

section Found

variable {α β : Type} {detail : String} {make : α → β} {value : Option α}

/-- The endpoint answers with what is there. -/
theorem found_map_eq_ok_iff (hmake : Function.Injective make) (answer : α) :
    (found detail value).map make = .ok (make answer) ↔ value = some answer := by
  cases value with
  | none => simp [found, Except.map]
  | some held =>
    rw [Option.some.injEq]
    show Except.ok (make held) = .ok (make answer) ↔ _
    rw [Except.ok.injEq, hmake.eq_iff]

theorem found_map_eq_error_iff :
    (found detail value).map make = .error ⟨404, detail⟩ ↔ value = none := by
  cases value with
  | none => exact iff_of_true rfl rfl
  | some held => exact iff_of_false (by rintro ⟨⟩) (by rintro ⟨⟩)

end Found

end VeriPay.Lib
