import Parley.Error
import Parley.Value

/-!
# Hosts

What the codec asks of the environment that dynamic values live in. `Host V` lists the capabilities
as operations on a type `V` of handles; everything else is derived from them here.

Two hosts are given: `Value` itself, and `Host.Blobless`, whose objects hold no binary values.
-/

namespace Parley

/-- An environment with dynamic values. -/
class Host (V : Type) where
  undefined : V
  null : V
  ofBool : Bool → V
  ofNumber : Double → V
  ofString : String → V
  ofItems : List V → V
  /-- An object without properties. -/
  emptyObject : V
  ofBlob : Blob → V
  isUndefined : V → Bool
  isNull : V → Bool
  bool? : V → Option Bool
  /-- The number, in whichever way the host stores it. -/
  number? : V → Option Double
  string? : V → Option String
  isArray : V → Bool
  items? : V → Option (List V)
  /-- Not null, no array and no binary object. -/
  isObject : V → Bool
  blob? : V → Option Blob
  get? : V → String → Option V
  /-- The object with the property set, or the reason why it is not. -/
  set : V → String → V → Except HostError V
  /-- The keys of an object in order of enumeration. -/
  keys : V → List String
  /-- Whether there is a truth value. Here, and for numbers and strings, a host may have a shorter
  way to tell than to read the value. -/
  isBool : V → Bool := fun v => (bool? v).isSome
  isNumber : V → Bool := fun v => (number? v).isSome
  isString : V → Bool := fun v => (string? v).isSome

namespace Host

variable {V : Type} [Host V]

/-- The name of a value's type, as error messages give it. -/
def typeName (v : V) : String :=
  if isUndefined v then "undefined"
  else if isNull v then "null"
  else if isBool v then "boolean"
  else if isNumber v then "number"
  else if isString v then "string"
  else if isArray v then "array"
  else if (blob? v).isSome then "binary"
  else "object"

/-- A property; one that is not there reads as undefined. -/
def property (v : V) (key : String) : V := (get? v key).getD undefined

end Host

/-! ### Values as a host -/

namespace Value

/-- The items of an array. -/
def items? : Value → Option (List Value)
  | array items => some items
  | _ => none

/-- The entries of an object. -/
def entries? : Value → Option (List (String × Value))
  | object entries => some entries
  | _ => none

/-- The binary object. -/
def blob? : Value → Option Blob
  | blob b => some b
  | _ => none

/-- The text of a string. -/
def string? : Value → Option String
  | string s => some s
  | _ => none

/-- The truth value. -/
def bool? : Value → Option Bool
  | bool b => some b
  | _ => none

/-- The value is a truth value. -/
def isBool : Value → Bool
  | bool _ => true
  | _ => false

/-- The value is a number, in whichever representation. -/
def isNumber : Value → Bool
  | int _ | double _ => true
  | _ => false

/-- The value is a string. -/
def isString : Value → Bool
  | string _ => true
  | _ => false

/-- The null value. -/
def isNull : Value → Bool
  | null => true
  | _ => false

/-- A property of an object. -/
def get? (v : Value) (key : String) : Option Value := v.entries?.bind (Entries.get? · key)

/-- The keys of an object, none for other values. -/
def keys (v : Value) : List String := (v.entries?.getD []).map Prod.fst

/-- The name of a value's type. -/
def typeName : Value → String
  | undefined => "undefined"
  | null => "null"
  | bool _ => "boolean"
  | int _ | double _ => "number"
  | string _ => "string"
  | array _ => "array"
  | object _ => "object"
  | blob _ => "binary"

/-- Sets a property of an object. -/
def set (v : Value) (key : String) (x : Value) : Except HostError Value :=
  match v with
  | object entries => .ok (object (Entries.insert entries key x))
  | other => .error (.notAnObject key other.typeName)

instance : Host Value where
  undefined := undefined
  null := null
  ofBool := bool
  ofNumber := number
  ofString := string
  ofItems := array
  emptyObject := object []
  ofBlob := blob
  isUndefined := isUndefined
  isNull := isNull
  bool? := bool?
  number? := number?
  string? := string?
  isArray v := v.items?.isSome
  items? := items?
  isObject v := v.entries?.isSome
  blob? := blob?
  get? := get?
  set := set
  keys := keys
  isBool := isBool
  isNumber := isNumber
  isString := isString

/-! What dynamic values tell by their constructor is what reading them tells. -/

theorem host_isBool (v : Value) : Host.isBool v = (Host.bool? v).isSome := by
  cases v <;> rfl

theorem host_isNumber (v : Value) : Host.isNumber v = (Host.number? v).isSome := by
  cases v <;> rfl

theorem host_isString (v : Value) : Host.isString v = (Host.string? v).isSome := by
  cases v <;> rfl

/-- The name that the host's capabilities determine is the one read off the constructor. -/
theorem host_typeName (v : Value) : Host.typeName v = v.typeName := by
  cases v <;> rfl

theorem host_isUndefined (v : Value) : Host.isUndefined v = v.isUndefined := rfl

theorem host_get?_object (entries : List (String × Value)) (key : String) :
    Host.get? (object entries) key = Entries.get? entries key := rfl

theorem host_keys_object (entries : List (String × Value)) :
    Host.keys (object entries) = Entries.keys entries := rfl

/-- Only objects have properties. -/
theorem get?_eq_some {v x : Value} {key : String} :
    v.get? key = some x ↔ ∃ entries, v = object entries ∧ Entries.get? entries key = some x := by
  cases v <;> simp [get?, entries?]

/-- What is not a key has no property. -/
theorem get?_eq_none {v : Value} {key : String} : v.get? key = none ↔ key ∉ v.keys := by
  cases v with
  | object entries => exact Entries.get?_eq_none_iff
  | _ => exact iff_of_true rfl List.not_mem_nil

theorem host_isObject_iff {v : Value} : Host.isObject v = true ↔ ∃ entries, v = object entries := by
  cases v with
  | object entries => exact iff_of_true rfl ⟨entries, rfl⟩
  | _ => exact iff_of_false Bool.false_ne_true (by simp)

/-- A property of an object is the entry of its key, or undefined. -/
theorem property_object (entries : List (String × Value)) (key : String) :
    Host.property (object entries) key = (Entries.get? entries key).getD undefined := rfl

end Value

end Parley
