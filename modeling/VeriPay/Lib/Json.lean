import Mathlib.Data.Rat.Floor
import VeriPay.Lib.FloatValue
import VeriPay.Lib.PyError

/-!
JSON values as the services receive them, and the conversions Python's
constructors apply to them. Numbers are exact, and a float beyond the doubles
stands for the infinity of its sign; reading a number out of a text is left to
the caller.
-/

namespace VeriPay.Lib

inductive Json
  | null
  | bool (value : Bool)
  | int (value : ℤ)
  | float (value : ℚ)
  | str (value : String)
  | arr (items : List Json)
  | obj (fields : List (String × Json))

/-- A JSON object, as the `dict` it loads to. -/
abbrev JsonObj := List (String × Json)

namespace JsonObj

def get? (object : JsonObj) (key : String) : Option Json := object.lookup key

@[simp] theorem get?_nil (key : String) : get? [] key = none := rfl

@[simp] theorem get?_cons (field : String × Json) (object : JsonObj) (key : String) :
    get? (field :: object) key = if key = field.1 then some field.2 else get? object key := by
  unfold get?
  rw [List.lookup_cons]
  by_cases h : key = field.1
  · rw [if_pos h, beq_iff_eq.mpr h]
  · rw [if_neg h, beq_eq_false_iff_ne.mpr h]

/-- `object.get(key, default)`. -/
def getD (object : JsonObj) (key : String) (default : Json) : Json :=
  (object.get? key).getD default

/-- `object[key]`. -/
def item (object : JsonObj) (key : String) : Py Json :=
  match object.get? key with
  | some value => .ok value
  | none => .error (.keyError key)

end JsonObj

namespace Json

/-- `float(value)`, with `parse` for texts. -/
def toFloat (parse : String → Py ℚ) : Json → Py ℚ
  | bool value => .ok (if value then 1 else 0)
  | int value =>
    if FloatValue.overflows value then
      .error (.overflowError "int too large to convert to float")
    else .ok value
  | float value => .ok value
  | str value => parse value
  | null => .error (.typeError "float() argument must be a string or a real number")
  | arr _ => .error (.typeError "float() argument must be a string or a real number")
  | obj _ => .error (.typeError "float() argument must be a string or a real number")

/-- `int(value)`, with `parse` for texts. -/
def toInt (parse : String → Py ℤ) : Json → Py ℤ
  | bool value => .ok (if value then 1 else 0)
  | int value => .ok value
  | float value =>
    if FloatValue.overflows value then
      .error (.overflowError "cannot convert float infinity to integer")
    else .ok (truncate value)
  | str value => parse value
  | null => .error (.typeError "int() argument must be a string or a real number")
  | arr _ => .error (.typeError "int() argument must be a string or a real number")
  | obj _ => .error (.typeError "int() argument must be a string or a real number")

/-- `bool(value)`. -/
def truthy : Json → Bool
  | null => false
  | bool value => value
  | int value => value ≠ 0
  | float value => value ≠ 0
  | str value => value ≠ ""
  | arr items => !items.isEmpty
  | obj fields => !fields.isEmpty

/-- `list(value)`. -/
def toList : Json → Py (List Json)
  | str value => .ok (value.toList.map (fun c => str (String.singleton c)))
  | arr items => .ok items
  | obj fields => .ok (fields.map (fun field => str field.1))
  | null => .error (.typeError "object is not iterable")
  | bool _ => .error (.typeError "object is not iterable")
  | int _ => .error (.typeError "object is not iterable")
  | float _ => .error (.typeError "object is not iterable")

/-- Pydantic's check of a `str` field. -/
def asText (field : String) : Json → Py String
  | str value => .ok value
  | _ => .error (.validationError field)

/-- `Enum(value)` for an enumeration with these members and texts. -/
def toEnum {α : Type} (members : List α) (text : α → String) : Json → Py α
  | str value =>
    match members.find? (fun member => text member = value) with
    | some member => .ok member
    | none => .error (.valueError "not a valid member")
  | _ => .error (.valueError "not a valid member")

/-- A number that `float` can hold. -/
def number? : Json → Option ℚ
  | int value => if FloatValue.overflows value then none else some value
  | float value => some value
  | _ => none

def flag? : Json → Option Bool
  | bool value => some value
  | _ => none

def text? : Json → Option String
  | str value => some value
  | _ => none

def texts? : Json → Option (List String)
  | arr items => items.mapM text?
  | _ => none

def object? : Json → Option JsonObj
  | obj fields => some fields
  | _ => none

section Typed

variable {value : Json}

theorem toFloat_of_number {parse : String → Py ℚ} {q : ℚ} (h : value.number? = some q) :
    value.toFloat parse = .ok q := by
  cases value with
  | int n =>
    rw [number?] at h
    split_ifs at h with hoverflow
    cases h
    exact if_neg hoverflow
  | float x =>
    cases h
    rfl
  | null => cases h
  | bool flag => cases h
  | str text => cases h
  | arr items => cases h
  | obj fields => cases h

theorem truthy_of_flag {b : Bool} (h : value.flag? = some b) : value.truthy = b := by
  cases value <;> cases h
  rfl

theorem eq_of_object {fields : JsonObj} (h : value.object? = some fields) : value = obj fields := by
  cases value <;> cases h
  rfl

theorem eq_of_mapM_text {items : List Json} {texts : List String}
    (h : items.mapM text? = some texts) : items = texts.map str := by
  induction items generalizing texts with
  | nil =>
    cases h
    rfl
  | cons item rest ih =>
    rw [List.mapM_cons] at h
    obtain ⟨text, htext, h⟩ := Option.bind_eq_some_iff.mp h
    obtain ⟨others, hothers, h⟩ := Option.bind_eq_some_iff.mp h
    cases h
    rw [List.map_cons, ← ih hothers]
    cases item <;> cases htext
    rfl

theorem toList_of_texts {texts : List String} (h : value.texts? = some texts) :
    value.toList = .ok (texts.map str) := by
  cases value with
  | arr items => rw [toList, eq_of_mapM_text h]
  | null => cases h
  | bool flag => cases h
  | int n => cases h
  | float q => cases h
  | str text => cases h
  | obj fields => cases h

end Typed

end Json

namespace JsonObj

/-- The field of an object, where it is of its type or is not there. -/
def typed {α : Type} (object : JsonObj) (key : String) (read : Json → Option α) (default : α) :
    Option α :=
  match object.get? key with
  | none => some default
  | some value => read value

/-- A typed field is also what `get` gives, with a default that reads as the field's own. -/
theorem read_getD_of_typed {α : Type} {object : JsonObj} {key : String} {read : Json → Option α}
    {default a : α} (h : object.typed key read default = some a) {fallback : Json}
    (hfallback : read fallback = some default) : read (object.getD key fallback) = some a := by
  unfold typed at h
  unfold getD
  cases hget : object.get? key with
  | none =>
    rw [hget] at h
    cases h
    exact hfallback
  | some value =>
    rw [hget] at h
    exact h

end JsonObj

end VeriPay.Lib
