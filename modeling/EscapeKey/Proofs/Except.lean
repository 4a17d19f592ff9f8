import Mathlib.Data.List.Forall2

/-! Computations that may fail. A composed one succeeds exactly if its parts do, and else it fails
with the error of the first part that fails.
-/

namespace Except

variable {ε ε' α β : Type}

theorem bind_eq_ok_iff {x : Except ε α} {f : α → Except ε β} {b : β}
    : x >>= f = .ok b ↔ ∃ a, x = .ok a ∧ f a = .ok b := by
  constructor
  · intro succeeds
    cases x with
    | error => contradiction
    | ok a => exact ⟨a, rfl, succeeds⟩
  · rintro ⟨a, rfl, later⟩
    exact later

/-- What follows a computation matters only where it succeeds. -/
theorem bind_congr_ok {x : Except ε α} {f g : α → Except ε β}
    (same : ∀ a, x = .ok a → f a = g a)
    : x >>= f = x >>= g := by
  cases x with
  | error => rfl
  | ok a => exact same a rfl

theorem map_eq_ok_iff {x : Except ε α} {f : α → β} {b : β}
    : f <$> x = .ok b ↔ ∃ a, x = .ok a ∧ f a = b := by
  rw [← bind_pure_comp, bind_eq_ok_iff]
  simp [pure, Except.pure]

theorem mapError_eq_ok_iff {x : Except ε α} {f : ε → ε'} {a : α}
    : x.mapError f = .ok a ↔ x = .ok a := by
  cases x <;> simp [Except.mapError]

theorem toOption_eq_some_iff {x : Except ε α} {a : α} : x.toOption = some a ↔ x = .ok a := by
  cases x <;> simp [Except.toOption]

/-- A value that is let through on a condition. -/
theorem ite_eq_ok_iff {p : Prop} [Decidable p] {a b : α} {e : ε}
    : (if p then .ok a else .error e : Except ε α) = .ok b ↔ p ∧ a = b := by
  by_cases holds : p <;> simp [holds]

/-- A list is read item by item, by induction on the list. -/
theorem forall₂_of_mapM_eq_ok {f : α → Except ε β} {l : List α} {results : List β}
    (succeeds : l.mapM f = .ok results)
    : l.Forall₂ (fun a b => f a = .ok b) results := by
  induction l generalizing results with
  | nil =>
      obtain rfl : [] = results := Except.ok.inj succeeds
      exact .nil
  | cons a rest ih =>
      rw [List.mapM_cons] at succeeds
      obtain ⟨b, first, succeeds⟩ := bind_eq_ok_iff.mp succeeds
      obtain ⟨later, tail, same⟩ := bind_eq_ok_iff.mp succeeds
      obtain rfl : b :: later = results := Except.ok.inj same
      exact .cons first (ih tail)

/-- A list is read if each of its items is, by induction on the items read. -/
theorem mapM_eq_ok_of_forall₂ {f : α → Except ε β} {l : List α} {results : List β}
    (each : l.Forall₂ (fun a b => f a = .ok b) results)
    : l.mapM f = .ok results := by
  induction each with
  | nil => rfl
  | cons first _ ih =>
      rw [List.mapM_cons, first, ih]
      rfl

-----------------------------------------------------------------------------------------
-- Errors
-----------------------------------------------------------------------------------------

/-- The error of a computation, if it fails. -/
def error? : Except ε α → Option ε
  | .ok _ => none
  | .error e => some e

theorem error?_eq_some_iff {x : Except ε α} {e : ε} : x.error? = some e ↔ x = .error e := by
  cases x <;> simp [error?]

theorem error?_eq_none_iff {x : Except ε α} : x.error? = none ↔ ∃ a, x = .ok a := by
  cases x <;> simp [error?]

/-- The error of the first part comes first, and the later part matters only where the first one
succeeds.
-/
theorem error?_bind {x : Except ε α} {f : α → Except ε β} {later : Option ε}
    (rest : ∀ a, x = .ok a → (f a).error? = later)
    : (x >>= f).error? = x.error?.or later := by
  cases x with
  | error => rfl
  | ok a => exact rest a rfl

theorem error?_bind_pure (x : Except ε α) (f : α → β)
    : (x >>= fun a => pure (f a)).error? = x.error? := by
  cases x <;> rfl

theorem error?_ite {p : Prop} [Decidable p] (a : α) (e : ε)
    : (if p then .ok a else .error e : Except ε α).error? = if p then none else some e := by
  by_cases holds : p <;> simp [holds, error?]

@[simp]
theorem error?_map (f : α → β) (x : Except ε α) : (x.map f).error? = x.error? := by
  cases x <;> rfl

@[simp]
theorem error?_mapError (f : ε → ε') (x : Except ε α)
    : (x.mapError f).error? = x.error?.map f := by
  cases x <;> rfl

/-- A list that is read item by item fails at the first item that fails, by induction on it. -/
theorem error?_mapM (f : α → Except ε β) (l : List α)
    : (l.mapM f).error? = l.findSome? (fun a => (f a).error?) := by
  induction l with
  | nil => rfl
  | cons a rest ih =>
      have first (b : β)
          : (rest.mapM f >>= fun later => pure (b :: later)).error?
            = rest.findSome? (fun a => (f a).error?) := by
        rw [error?_bind_pure, ih]
      rw [List.mapM_cons, error?_bind fun b _ => first b, List.findSome?_cons]
      cases (f a).error? <;> rfl

end Except
