import Stencil.Error

/-!
# Runs of actions

`x.run store` is what an action gives in a store, with the store that it leaves. An action that
fails leaves a store too: what it has done before the failure stays done.

The `run_*` lemmas take a run apart along the operations of the monad, and `run_bind_ok` and
`run_bind_error` do it for a run of which the first part is known.
-/

namespace Stencil.Action

variable {α β : Type}

/-- What an action gives in a store, and the store that it leaves. -/
def run (x : Action α) (store : Store) : Except Error α × Store := (ExceptT.run x).run store

@[simp] theorem run_pure (a : α) (store : Store) : run (pure a) store = (.ok a, store) := rfl

@[simp] theorem run_throw (e : Error) (store : Store) :
    run (throw e : Action α) store = (.error e, store) := rfl

@[simp] theorem run_get (store : Store) : run (get : Action Store) store = (.ok store, store) := rfl

@[simp] theorem ofExcept_ok (a : α) : (ofExcept (.ok a : Except Error α) : Action α) = pure a := rfl

theorem run_bind (x : Action α) (f : α → Action β) (store : Store) :
    run (x >>= f) store =
      match run x store with
      | (.ok a, store) => run (f a) store
      | (.error e, store) => (.error e, store) := by
  show (ExceptT.run (x >>= f)).run store = _
  simp only [ExceptT.run_bind, StateT.run_bind, run]
  rcases (ExceptT.run x).run store with ⟨_ | a, after⟩ <;> rfl

theorem run_bind_ok {x : Action α} {f : α → Action β} {store after : Store} {a : α}
    (h : run x store = (.ok a, after)) : run (x >>= f) store = run (f a) after := by
  rw [run_bind, h]

theorem run_bind_error {x : Action α} {f : α → Action β} {store after : Store} {e : Error}
    (h : run x store = (.error e, after)) : run (x >>= f) store = (.error e, after) := by
  rw [run_bind, h]

theorem run_map (f : α → β) (x : Action α) (store : Store) :
    run (f <$> x) store = ((run x store).1.map f, (run x store).2) := by
  rw [map_eq_pure_bind, run_bind]
  rcases run x store with ⟨_ | a, after⟩ <;> rfl

/-- A computation that cannot fail, as an action. -/
theorem run_lift {x : StateM Store α} {store after : Store} {a : α}
    (h : x.run store = (a, after)) : run (liftM x : Action α) store = (.ok a, after) := by
  show (do let a ← x; pure (Except.ok a) : StateM Store (Except Error α)).run store = _
  rw [StateT.run_bind, h]
  rfl

/-- Both parts of a computation without a store succeed if the whole does. -/
theorem exists_of_bind_eq_ok {x : Except Error α} {f : α → Except Error β} {b : β}
    (h : x >>= f = .ok b) : ∃ a, x = .ok a ∧ f a = .ok b := by
  cases x with
  | ok a => exact ⟨a, rfl, h⟩
  | error e => cases h

end Stencil.Action
