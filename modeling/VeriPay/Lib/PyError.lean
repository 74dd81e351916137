import Mathlib.Data.String.Basic

/-!
Exceptions of the Python services. A raising call is an `Except` error, so a
model function returns exactly when the source function returns. The
constructors are the exception classes the services distinguish.
-/

namespace VeriPay.Lib

/-- `validationError` is pydantic's, a subclass of `ValueError`. -/
inductive PyErr
  | valueError (message : String)
  | validationError (field : String)
  | keyError (message : String)
  | typeError (message : String)
  | attributeError (message : String)
  | overflowError (message : String)
  | other (kind : String)
  deriving DecidableEq, Repr

namespace PyErr

/-- `str(exc)` of the classes whose text a caller reads. -/
def message : PyErr → String
  | valueError message => message
  | validationError field => field
  | keyError message => message
  | typeError message => message
  | attributeError message => message
  | overflowError message => message
  | other kind => kind

/-- What `except ValueError` catches. -/
def isValueError : PyErr → Bool
  | valueError _ => true
  | validationError _ => true
  | _ => false

/-- What `except TypeError` catches. -/
def isTypeError : PyErr → Bool
  | typeError _ => true
  | _ => false

end PyErr

abbrev Py (α : Type*) := Except PyErr α

@[simp] theorem Py.ok_bind {α β : Type} (a : α) (f : α → Py β) : (Except.ok a >>= f) = f a := rfl

@[simp] theorem Py.error_bind {α β : Type} (e : PyErr) (f : α → Py β) :
    ((Except.error e : Py α) >>= f) = .error e := rfl

theorem Py.bind_eq_ok {α β : Type} {x : Py α} {f : α → Py β} {b : β} :
    (x >>= f) = .ok b ↔ ∃ a, x = .ok a ∧ f a = .ok b := by
  cases x with
  | ok a =>
    constructor
    · intro h
      exact ⟨a, rfl, h⟩
    · intro h
      obtain ⟨_, h, hf⟩ := h
      cases h
      exact hf
  | error e =>
    constructor
    · intro h
      cases h
    · intro h
      obtain ⟨_, h, _⟩ := h
      cases h

/-- A call that returns one value under a condition, and raises without it. -/
theorem Py.returns_iff {α : Type} {x : Py α} {a : α} {e : PyErr} {condition : Prop}
    (hok : condition → x = .ok a) (herror : ¬ condition → x = .error e) (P : α → Prop) :
    (∃ b, x = .ok b ∧ P b) ↔ condition ∧ P a := by
  by_cases hcondition : condition
  · rw [hok hcondition, and_iff_right hcondition]
    constructor
    · intro h
      obtain ⟨b, hb, hP⟩ := h
      cases hb
      exact hP
    · intro hP
      exact ⟨a, rfl, hP⟩
  · refine iff_of_false ?_ fun h => hcondition h.1
    intro h
    obtain ⟨b, hb, -⟩ := h
    rw [herror hcondition] at hb
    cases hb

/-- A loop whose body returns on every item returns. -/
theorem Py.mapM_ok {α β : Type} {f : α → Py β} {items : List α}
    (h : ∀ item ∈ items, ∃ b, f item = .ok b) : ∃ results, items.mapM f = .ok results := by
  induction items with
  | nil => exact ⟨[], rfl⟩
  | cons item rest ih =>
    obtain ⟨first, hfirst⟩ := h item List.mem_cons_self
    obtain ⟨others, hothers⟩ := ih (fun other hother => h other (List.mem_cons_of_mem _ hother))
    refine ⟨first :: others, ?_⟩
    rw [List.mapM_cons, hfirst, Py.ok_bind, hothers, Py.ok_bind]
    rfl

/-- `[x for x in items if p(x)]` for a test that may raise. -/
def filterPy {α : Type} (p : α → Py Bool) : List α → Py (List α)
  | [] => return []
  | x :: rest => do
    let keep ← p x
    let kept ← filterPy p rest
    return if keep then x :: kept else kept

theorem filterPy_ok {α : Type} {p : α → Py Bool} {q : α → Bool} {items : List α}
    (h : ∀ x ∈ items, p x = .ok (q x)) : filterPy p items = .ok (items.filter q) := by
  induction items with
  | nil => rfl
  | cons x rest ih =>
    have hfirst := h x List.mem_cons_self
    have hrest := ih (fun y hy => h y (List.mem_cons_of_mem x hy))
    rw [filterPy, hfirst, Py.ok_bind, hrest, Py.ok_bind, List.filter_cons]
    rfl

/-- The comprehension returns exactly when every test does. -/
theorem test_ok_of_filterPy_ok {α : Type} {p : α → Py Bool} {items kept : List α}
    (h : filterPy p items = .ok kept) : ∀ x ∈ items, ∃ keep, p x = .ok keep := by
  induction items generalizing kept with
  | nil => simp
  | cons x rest ih =>
    rw [filterPy] at h
    obtain ⟨keep, hkeep, h⟩ := Py.bind_eq_ok.mp h
    obtain ⟨others, hothers, -⟩ := Py.bind_eq_ok.mp h
    intro y hy
    rcases List.mem_cons.mp hy with rfl | hy
    · exact ⟨keep, hkeep⟩
    · exact ih hothers y hy

/-- A search loop over a test that may raise, left at the first hit. -/
def anyPy {α : Type} (p : α → Py Bool) : List α → Py Bool
  | [] => return false
  | x :: rest => do
    if ← p x then return true
    anyPy p rest

theorem anyPy_ok {α : Type} {p : α → Py Bool} {q : α → Bool} {items : List α}
    (h : ∀ x ∈ items, p x = .ok (q x)) : anyPy p items = .ok (items.any q) := by
  induction items with
  | nil => rfl
  | cons x rest ih =>
    have hfirst := h x List.mem_cons_self
    have hrest := ih (fun y hy => h y (List.mem_cons_of_mem x hy))
    rw [anyPy, hfirst, Py.ok_bind, List.any_cons]
    cases hx : q x with
    | true => rfl
    | false => exact hrest

/-- A pydantic `str` field with `min_length=1`. -/
abbrev NonEmptyStr := {s : String // s ≠ ""}

def NonEmptyStr.validate (field s : String) : Py NonEmptyStr :=
  if h : s ≠ "" then .ok ⟨s, h⟩ else .error (.validationError field)

/-- A pydantic `str` field with `min_length=3, max_length=3`. -/
abbrev Str3 := {s : String // s.length = 3}

def Str3.validate (field s : String) : Py Str3 :=
  if h : s.length = 3 then .ok ⟨s, h⟩ else .error (.validationError field)

theorem NonEmptyStr.validate_ok {field s : String} {checked : NonEmptyStr}
    (h : NonEmptyStr.validate field s = .ok checked) : checked.val = s := by
  unfold NonEmptyStr.validate at h
  split_ifs at h
  cases h
  rfl

end VeriPay.Lib
