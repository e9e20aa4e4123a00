/-!
# Outcomes

A computation gives a result or fails with an error. It may also stop: a step that
relies on a result to fit its type meets one that does not, and the program ends
there with neither. No caller can catch a stop, so it ends whatever called for the
computation too.
-/

namespace PodCache

/-- What a computation comes to. -/
inductive Outcome (ε α : Type) where
  | ok (a : α)
  | error (e : ε)
  | stop
  deriving DecidableEq, Repr

namespace Outcome

variable {ε ε' α β : Type}

/-- Goes on with the result, if there is one. -/
def bind (o : Outcome ε α) (f : α → Outcome ε β) : Outcome ε β :=
  match o with
  | ok a => f a
  | error e => error e
  | stop => stop

instance : Monad (Outcome ε) where
  pure := ok
  bind := bind

/-- The outcome of a computation that never stops. -/
def ofExcept : Except ε α → Outcome ε α
  | .ok a => ok a
  | .error e => error e

/-- The same outcome with another error. -/
def mapError (f : ε → ε') : Outcome ε α → Outcome ε' α
  | ok a => ok a
  | error e => error (f e)
  | stop => stop

/-- The result, if there is one. -/
def toOption : Outcome ε α → Option α
  | ok a => some a
  | _ => none

/-- Whether there is a result. -/
def isOk : Outcome ε α → Bool
  | ok _ => true
  | _ => false

/-- Whether the computation stops. -/
def isStop : Outcome ε α → Bool
  | stop => true
  | _ => false

@[simp] theorem pure_eq (a : α) : (pure a : Outcome ε α) = ok a := rfl

@[simp] theorem ok_bind (a : α) (f : α → Outcome ε β) : ok a >>= f = f a := rfl

@[simp] theorem error_bind (e : ε) (f : α → Outcome ε β) : error e >>= f = error e := rfl

@[simp] theorem stop_bind (f : α → Outcome ε β) : stop >>= f = stop := rfl

@[simp] theorem map_ok (f : α → β) (a : α) : f <$> (ok a : Outcome ε α) = ok (f a) := rfl

@[simp] theorem map_error (f : α → β) (e : ε) : f <$> (error e : Outcome ε α) = error e := rfl

@[simp] theorem map_stop (f : α → β) : f <$> (stop : Outcome ε α) = stop := rfl

@[simp] theorem mapError_ok (f : ε → ε') (a : α) : (ok a).mapError f = ok a := rfl

@[simp] theorem mapError_error (f : ε → ε') (e : ε) :
    (error e : Outcome ε α).mapError f = error (f e) := rfl

@[simp] theorem mapError_stop (f : ε → ε') : (stop : Outcome ε α).mapError f = stop := rfl

instance : LawfulMonad (Outcome ε) := LawfulMonad.mk' (Outcome ε)
  (by rintro α (a | e | _) <;> rfl)
  (fun _ _ => rfl)
  (by rintro α β γ (a | e | _) f g <;> rfl)

theorem bind_eq_ok_iff {o : Outcome ε α} {f : α → Outcome ε β} {b : β} :
    o >>= f = ok b ↔ ∃ a, o = ok a ∧ f a = ok b := by
  cases o <;> simp

/-- A check comes first, and the rest is taken up if it succeeds. -/
theorem check_bind_eq_ok_iff {o : Outcome ε Unit} {f : Unit → Outcome ε β} {b : β} :
    o >>= f = ok b ↔ o = ok () ∧ f () = ok b := by
  cases o <;> simp

theorem bind_eq_stop_iff {o : Outcome ε α} {f : α → Outcome ε β} :
    o >>= f = stop ↔ o = stop ∨ ∃ a, o = ok a ∧ f a = stop := by
  cases o <;> simp

theorem ofExcept_eq_error_iff {x : Except ε α} {e : ε} : ofExcept x = error e ↔ x = .error e := by
  cases x <;> simp [ofExcept]

@[simp] theorem isOk_ofExcept (x : Except ε α) : (ofExcept x).isOk = x.isOk := by
  cases x <;> rfl

@[simp] theorem ofExcept_ne_stop (x : Except ε α) : ofExcept x ≠ stop := by
  cases x <;> simp [ofExcept]

theorem toOption_eq_some_iff {o : Outcome ε α} {a : α} : o.toOption = some a ↔ o = ok a := by
  cases o <;> simp [toOption]

theorem isStop_iff {o : Outcome ε α} : o.isStop = true ↔ o = stop := by
  cases o <;> simp [isStop]

end Outcome

end PodCache
