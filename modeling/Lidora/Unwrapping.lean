import Mathlib

/-! # Code that unwraps by force

Swift's `!` takes the value out of an optional, and ends the program where there is none.
Code that does so is an `Except ForcedNil`: it comes to a result (`Survives`), or it ends
with the property that was `nil`.  The rules take a sequence of unwraps apart, one after
the other, as it is executed.
-/
namespace Unwrapping
variable {α β : Type}

/-- A property that was unwrapped by force and was `nil`. -/
structure ForcedNil where
  property : String
  deriving DecidableEq

/-- `property!`. -/
def force (property : String) : Option α → Except ForcedNil α
  | some a => .ok a
  | none => .error ⟨property⟩

/-- The code comes to its end. -/
def Survives (x : Except ForcedNil α) : Prop := ∃ a, x = .ok a

@[simp] theorem survives_pure (a : α) : Survives (pure a : Except ForcedNil α) := ⟨a, rfl⟩

@[simp] theorem survives_force {property : String} {o : Option α} :
    Survives (force property o) ↔ o.isSome := by
  cases o with
  | none => exact iff_of_false (by rintro ⟨a, ha⟩; cases ha) (by simp)
  | some a => exact iff_of_true ⟨a, rfl⟩ rfl

/-- Code survives if its first part does, and the rest does with what that has come to. -/
theorem survives_bind {x : Except ForcedNil α} {f : α → Except ForcedNil β} :
    Survives (x >>= f) ↔ ∃ a, x = .ok a ∧ Survives (f a) := by
  cases x with
  | error e =>
    refine iff_of_false ?_ ?_
    · rintro ⟨b, hb⟩
      cases hb
    · rintro ⟨a, ha, -⟩
      cases ha
  | ok a =>
    constructor
    · exact fun h => ⟨a, rfl, h⟩
    · rintro ⟨a', ha', h⟩
      cases ha'
      exact h

/-- After an unwrap: the property was there, and the rest survives with its value. -/
theorem survives_force_bind {property : String} {o : Option α} {f : α → Except ForcedNil β} :
    Survives (force property o >>= f) ↔ ∃ a, o = some a ∧ Survives (f a) := by
  rw [survives_bind]
  cases o with
  | none => simp [force]
  | some a => simp [force]

/-- One unwrap, and nothing to fail after it. -/
@[simp] theorem survives_force_return {property : String} {o : Option α} {f : α → β} :
    Survives (do let a ← force property o; return f a) ↔ o.isSome := by
  rw [survives_force_bind, Option.isSome_iff_exists]
  exact exists_congr fun a => and_iff_left (survives_pure _)

/-- What is there can be unwrapped. -/
@[simp] theorem survives_force_some {property : String} {a : α} {f : α → Except ForcedNil β} :
    Survives (force property (some a) >>= f) ↔ Survives (f a) := Iff.rfl

instance decidableSurvives (x : Except ForcedNil α) : Decidable (Survives x) :=
  match x with
  | .ok a => isTrue ⟨a, rfl⟩
  | .error _ => isFalse (by rintro ⟨a, ha⟩; cases ha)

end Unwrapping
