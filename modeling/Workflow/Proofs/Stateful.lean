import Workflow.Failure

/-!
# Operations on a state that may fail

What each of the steps an operation is written with gives in a state: its outcome, and the state
that it leaves behind.
-/

namespace Workflow

theorem Outcome.bind_eq_ok {α β : Type} {r : Outcome α} {k : α → Outcome β} {b : β} :
    (r >>= k) = .ok b ↔ ∃ a, r = .ok a ∧ k a = .ok b := by
  cases r <;> simp [bind, Except.bind]

theorem Outcome.map_eq_ok {α β : Type} {r : Outcome α} {f : α → β} {b : β} :
    r.map f = .ok b ↔ ∃ a, r = .ok a ∧ f a = b := by
  cases r <;> simp [Except.map]

namespace Stateful

variable {ε σ α β : Type}

theorem bind_ok {m : ExceptT ε (StateM σ) α} {k : α → ExceptT ε (StateM σ) β} {s s' : σ}
    {a : α} (h : m s = (.ok a, s')) : (m >>= k) s = k a s' := by
  simp only [bind, ExceptT.bind, ExceptT.mk, StateT.bind, h, ExceptT.bindCont]

theorem bind_error {m : ExceptT ε (StateM σ) α} {k : α → ExceptT ε (StateM σ) β}
    {s s' : σ} {f : ε} (h : m s = (.error f, s')) : (m >>= k) s = (.error f, s') := by
  simp only [bind, ExceptT.bind, ExceptT.mk, StateT.bind, h, ExceptT.bindCont]
  rfl

@[simp] theorem bind_apply (m : ExceptT ε (StateM σ) α)
    (k : α → ExceptT ε (StateM σ) β) (s : σ) :
    (m >>= k) s =
      match m s with
      | (.ok a, s') => k a s'
      | (.error f, s') => (.error f, s') := by
  rcases h : m s with ⟨_ | _, s'⟩
  · exact bind_error h
  · exact bind_ok h

@[simp] theorem pure_apply (a : α) (s : σ) :
    (pure a : ExceptT ε (StateM σ) α) s = (.ok a, s) := rfl

@[simp] theorem get_apply (s : σ) : (get : ExceptT ε (StateM σ) σ) s = (.ok s, s) := rfl

@[simp] theorem set_apply (s t : σ) :
    (set t : ExceptT ε (StateM σ) PUnit) s = (.ok ⟨⟩, t) := rfl

@[simp] theorem modify_apply (f : σ → σ) (s : σ) :
    (modify f : ExceptT ε (StateM σ) PUnit) s = (.ok ⟨⟩, f s) := rfl

@[simp] theorem ofExcept_apply (r : Except ε α) (s : σ) :
    (MonadExcept.ofExcept r : ExceptT ε (StateM σ) α) s = (r, s) := by
  cases r <;> rfl

@[simp] theorem tryCatch_apply (m : ExceptT ε (StateM σ) α)
    (k : ε → ExceptT ε (StateM σ) α) (s : σ) :
    (tryCatch m k) s =
      match m s with
      | (.ok a, s') => (.ok a, s')
      | (.error f, s') => k f s' := by
  rcases h : m s with ⟨_ | _, s'⟩ <;>
    simp only [tryCatch, tryCatchThe, MonadExceptOf.tryCatch, ExceptT.tryCatch, ExceptT.mk, bind,
      StateT.bind, h]
  rfl

@[simp] theorem map_apply (f : α → β) (m : ExceptT ε (StateM σ) α) (s : σ) :
    (f <$> m) s = ((m s).1.map f, (m s).2) := by
  rcases h : m s with ⟨_ | _, s'⟩ <;>
    simp only [Functor.map, ExceptT.map, ExceptT.mk, bind, StateT.bind, h, Except.map] <;> rfl

theorem map_ok {f : α → β} {m : ExceptT ε (StateM σ) α} {a : α} {s s' : σ} (h : m s = (.ok a, s')) :
    (f <$> m) s = (.ok (f a), s') := by
  rw [map_apply, h]
  rfl

@[simp] theorem discard_apply (m : ExceptT ε (StateM σ) α) (s : σ) :
    (discard m : ExceptT ε (StateM σ) PUnit) s = ((m s).1.map fun _ => ⟨⟩, (m s).2) := by
  exact map_apply _ m s

section Discard

variable {m : ExceptT ε (StateM σ) α} {s s' : σ}

theorem ok_of_discard {u : PUnit} (h : discard m s = (.ok u, s')) : ∃ a, m s = (.ok a, s') := by
  rw [discard_apply] at h
  rcases hm : m s with ⟨_ | a, t⟩ <;> rw [hm] at h <;> cases h
  exact ⟨a, rfl⟩

theorem error_of_discard {f : ε} (h : discard m s = (.error f, s')) : m s = (.error f, s') := by
  rw [discard_apply] at h
  rcases hm : m s with ⟨_ | a, t⟩ <;> rw [hm] at h <;> cases h
  rfl

end Discard

end Stateful

end Workflow
