import VeriPay.Lib.PyError

/-!
Methods that read and change a store and may raise. A raise keeps what was
changed before it, as in the source, so that a failed call leaves its store
untouched is a theorem and not a property of the monad.
-/

namespace VeriPay.Lib

abbrev Effect (S α : Type) := ExceptT PyErr (StateM S) α

namespace Effect

variable {S α β : Type}

/-- The answer of the method and the store it leaves. -/
def exec (x : Effect S α) (s : S) : Py α × S := (ExceptT.run x).run s

@[simp] theorem exec_pure (a : α) (s : S) : exec (pure a) s = (.ok a, s) := rfl

@[simp] theorem exec_throw (e : PyErr) (s : S) :
    exec (throw e : Effect S α) s = (.error e, s) := rfl

@[simp] theorem exec_get (s : S) : exec (get : Effect S S) s = (.ok s, s) := rfl

@[simp] theorem exec_modify (f : S → S) (s : S) :
    exec (modify f : Effect S Unit) s = (.ok (), f s) := rfl

/-- A computation that does not touch the store. -/
@[simp] theorem exec_lift (a : Py α) (s : S) : exec (liftM a : Effect S α) s = (a, s) := rfl

theorem exec_bind (x : Effect S α) (f : α → Effect S β) (s : S) :
    exec (x >>= f) s =
      match exec x s with
      | (.ok a, s') => exec (f a) s'
      | (.error e, s') => (.error e, s') := by
  simp only [exec, ExceptT.run_bind, StateT.run_bind]
  cases h : (ExceptT.run x).run s with
  | mk answer s' => cases answer <;> rfl

theorem exec_bind_ok {x : Effect S α} {f : α → Effect S β} {s s' : S} {a : α}
    (h : exec x s = (.ok a, s')) : exec (x >>= f) s = exec (f a) s' := by
  rw [exec_bind, h]

theorem exec_bind_error {x : Effect S α} {f : α → Effect S β} {s s' : S} {e : PyErr}
    (h : exec x s = (.error e, s')) : exec (x >>= f) s = (.error e, s') := by
  rw [exec_bind, h]

/-- A sequence that returns went through both of its parts. -/
theorem exec_bind_eq_ok {x : Effect S α} {f : α → Effect S β} {s s'' : S} {b : β}
    (h : exec (x >>= f) s = (.ok b, s'')) :
    ∃ a s', exec x s = (.ok a, s') ∧ exec (f a) s' = (.ok b, s'') := by
  rw [exec_bind] at h
  cases hx : exec x s with
  | mk answer s' =>
    rw [hx] at h
    cases answer with
    | ok a => exact ⟨a, s', rfl, h⟩
    | error e => cases h

theorem exec_bind_fst_ok {x : Effect S α} {f : α → Effect S β} {s : S} {b : β}
    (h : (exec (x >>= f) s).1 = .ok b) :
    ∃ a, (exec x s).1 = .ok a ∧ (exec (f a) (exec x s).2).1 = .ok b := by
  obtain ⟨a, s', hx, hf⟩ := exec_bind_eq_ok (Prod.ext h rfl)
  rw [hx]
  exact ⟨a, rfl, congrArg Prod.fst hf⟩

theorem exec_lift_eq_ok {a : Py α} {b : α} {s s' : S} :
    exec (liftM a : Effect S α) s = (.ok b, s') ↔ a = .ok b ∧ s = s' := by
  rw [exec_lift, Prod.mk.injEq]

@[simp] theorem exec_ite (c : Prop) [Decidable c] (x y : Effect S α) (s : S) :
    exec (if c then x else y) s = if c then exec x s else exec y s := by
  split_ifs <;> rfl

/-- A method of a part of the store. -/
def onPart {W : Type} (part : S → W) (put : W → S → S) (x : Effect W α) : Effect S α :=
  ExceptT.mk (fun s => ((exec x (part s)).1, put (exec x (part s)).2 s))

@[simp] theorem exec_onPart {W : Type} (part : S → W) (put : W → S → S) (x : Effect W α) (s : S) :
    exec (onPart part put x) s = ((exec x (part s)).1, put (exec x (part s)).2 s) := rfl

/-- `try: ... except Exception`: the answer, whether it is a value or a raise. -/
def attempt (x : Effect S α) : Effect S (Py α) :=
  ExceptT.mk (fun s => (.ok (exec x s).1, (exec x s).2))

@[simp] theorem exec_attempt (x : Effect S α) (s : S) :
    exec (attempt x) s = (.ok (exec x s).1, (exec x s).2) := rfl

/-- `try: ... finally: cleanup`, for a cleanup that cannot raise. -/
def ensure (cleanup : S → S) (x : Effect S α) : Effect S α :=
  ExceptT.mk (fun s => ((exec x s).1, cleanup (exec x s).2))

@[simp] theorem exec_ensure (cleanup : S → S) (x : Effect S α) (s : S) :
    exec (ensure cleanup x) s = ((exec x s).1, cleanup (exec x s).2) := rfl

/-- The method never changes the store. -/
def ReadOnly (x : Effect S α) : Prop := ∀ s, (exec x s).2 = s

/-- The method changes nothing when it raises. -/
def Clean (x : Effect S α) : Prop := ∀ s e, (exec x s).1 = .error e → (exec x s).2 = s

theorem ReadOnly.pure (a : α) : ReadOnly (pure a : Effect S α) := fun _ => rfl

theorem ReadOnly.throw (e : PyErr) : ReadOnly (throw e : Effect S α) := fun _ => rfl

theorem ReadOnly.get : ReadOnly (get : Effect S S) := fun _ => rfl

theorem ReadOnly.lift (a : Py α) : ReadOnly (liftM a : Effect S α) := fun _ => rfl

theorem ReadOnly.clean {x : Effect S α} (h : ReadOnly x) : Clean x := fun s _ _ => h s

/-- Nothing is undone after a change, so what follows the reads must be clean. -/
theorem Clean.bind {x : Effect S α} {f : α → Effect S β} (hx : ReadOnly x)
    (hf : ∀ a, Clean (f a)) : Clean (x >>= f) := by
  intro s e he
  have hs := hx s
  rw [exec_bind] at he ⊢
  cases h : exec x s with
  | mk answer s' =>
    rw [h] at hs he
    simp only at hs
    subst hs
    cases answer with
    | ok a => exact hf a s' e he
    | error e' => rfl

/-- A change after which the method can only return. -/
theorem Clean.modify_pure (f : S → S) (a : α) :
    Clean (do modify f; pure a : Effect S α) := by
  intro s e he
  cases he

end Effect

end VeriPay.Lib
