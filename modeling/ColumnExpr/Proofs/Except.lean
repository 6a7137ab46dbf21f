/-
# The error monad

Every stage of the language reports failure in `Except`: lexing, parsing and evaluation.
Their results are compared through the same few facts about `Except`: what a bind, a map or a
functor map does on a success or a failure, and when a bind succeeds or fails.
-/
namespace ColumnExpr

variable {ε α β : Type}

@[simp] theorem Except.ok_bind' (a : α) (f : α → Except ε β) : (Except.ok a >>= f) = f a := rfl

@[simp] theorem Except.error_bind' (e : ε) (f : α → Except ε β) :
    (Except.error e >>= f) = Except.error e := rfl

@[simp] theorem Except.map_ok' (a : α) (f : α → β) :
    (Except.ok a : Except ε α).map f = .ok (f a) := rfl

@[simp] theorem Except.map_error' (e : ε) (f : α → β) :
    (Except.error e : Except ε α).map f = .error e := rfl

@[simp] theorem Except.fmap_ok (a : α) (f : α → β) : (f <$> Except.ok a : Except ε β) = .ok (f a) :=
  rfl

@[simp] theorem Except.fmap_error (e : ε) (f : α → β) :
    (f <$> (Except.error e : Except ε α)) = .error e := rfl

/-- A map fails exactly where the mapped computation does. -/
theorem Except.map_eq_error' {f : α → β} {x : Except ε α} {e : ε} :
    x.map f = .error e ↔ x = .error e := by
  cases x <;> simp

/-- A map succeeds exactly where the mapped computation does. -/
theorem Except.map_eq_ok' {f : α → β} {x : Except ε α} {b : β} :
    x.map f = .ok b ↔ ∃ a, x = .ok a ∧ f a = b := by
  cases x <;> simp

/-- A bind succeeds when its first step does and the rest succeeds on that value. -/
theorem Except.bind_eq_ok' {x : Except ε α} {f : α → Except ε β} {b : β} :
    x >>= f = .ok b ↔ ∃ a, x = .ok a ∧ f a = .ok b := by
  cases x <;> simp

/-- A bind fails when its first step fails, or succeeds and the rest fails. -/
theorem Except.bind_eq_error' {x : Except ε α} {f : α → Except ε β} {e : ε} :
    x >>= f = .error e ↔ x = .error e ∨ ∃ a, x = .ok a ∧ f a = .error e := by
  cases x <;> simp

/-- Mapping the result and mapping the error commute. -/
theorem Except.map_mapError' {ε' : Type} (f : α → β) (g : ε → ε') (x : Except ε α) :
    (x.mapError g).map f = (x.map f).mapError g := by
  cases x <;> rfl

end ColumnExpr
