import Switchboard.Host.Listening

/-!
# Actions on a host

What is done with a host is put together from actions that look at it, change
it, or fail. `Host.perform` takes such an action apart: two actions in a row are
the second after the first unless the first fails (`perform_bind`), and each
primitive has one outcome.
-/

namespace Switchboard.Host

variable {ε α β : Type} {h h' : Host}

/-- **Two actions in a row** are the first, and the second if the first succeeds. -/
theorem perform_bind (h : Host) (x : Action ε α) (f : α → Action ε β) :
    h.perform (x >>= f) = match h.perform x with
      | (.ok a, h₁) => h₁.perform (f a)
      | (.error e, h₁) => (.error e, h₁) := by
  simp only [perform, ExceptT.run_bind, StateT.run_bind]
  rcases x.run.run h with ⟨_ | a, h₁⟩ <;> simp <;> rfl

/-- Two actions in a row succeed exactly if the first does and then the second. -/
theorem perform_bind_eq_ok {x : Action ε α} {f : α → Action ε β} {b : β} :
    h.perform (x >>= f) = (.ok b, h')
      ↔ ∃ a h₁, h.perform x = (.ok a, h₁) ∧ h₁.perform (f a) = (.ok b, h') := by
  rw [perform_bind]
  rcases h.perform x with ⟨_ | a, h₁⟩ <;> simp [and_assoc]

theorem perform_pure (h : Host) (a : α) : h.perform (pure a : Action ε α) = (.ok a, h) := rfl

/-- Nothing is done where a value is returned. -/
theorem perform_pure_eq_ok {a b : α} :
    h.perform (pure a : Action ε α) = (.ok b, h') ↔ a = b ∧ h = h' := by
  rw [perform_pure]
  simp

theorem perform_throw (h : Host) (e : ε) : h.perform (throw e : Action ε α) = (.error e, h) := rfl

/-- What is refused does not succeed. -/
theorem perform_throw_ne_ok {e : ε} {a : α} : h.perform (throw e : Action ε α) ≠ (.ok a, h') := by
  rw [perform_throw]
  simp

/-- A failure is reported otherwise, and nothing else is different. -/
theorem perform_bindError (h : Host) (address : Address) (x : Action HostError α) :
    h.perform (bindError address x) = match h.perform x with
      | (.ok a, h₁) => (.ok a, h₁)
      | (.error e, h₁) => (.error (SetupError.bind address.text e.message), h₁) := rfl

/-- Reporting a failure otherwise makes no difference where there is none. -/
theorem perform_bindError_eq_ok {address : Address} {x : Action HostError α} {a : α} :
    h.perform (bindError address x) = (.ok a, h') ↔ h.perform x = (.ok a, h') := by
  rw [perform_bindError]
  rcases h.perform x with ⟨_ | a, h₁⟩ <;> simp

/-- **An attempt** changes the host or leaves it as it was. -/
theorem perform_attempt (h : Host) (act : Host → Except HostError (α × Host)) :
    h.perform (attempt act) = match act h with
      | .ok (a, h₁) => (.ok a, h₁)
      | .error e => (.error e, h) := rfl

/-- An attempt succeeds exactly if it changes the host. -/
theorem perform_attempt_eq_ok {act : Host → Except HostError (α × Host)} {a : α} :
    h.perform (attempt act) = (.ok a, h') ↔ act h = .ok (a, h') := by
  rw [perform_attempt]
  cases act h with
  | error e => simp
  | ok r => simp [Prod.ext_iff]

end Switchboard.Host
