import Monitoring.Text.Character

namespace Monitoring

inductive ValidationError
  | missing (field : String)
  | tooLong (field : String) (max : Nat)
  | tooManyItems (field : String) (max : Nat)
  | notUnique (field : String)
  | mutuallyExclusive (first second : String)
  | unsupported (field value : String)
  | superfluous (field operator : String)
  deriving DecidableEq, Repr

namespace ValidationError

def message : ValidationError → String
  | missing field => s!"{field} is missing"
  | tooLong field max => s!"{field} not valid; maximum length of {field} is {max} characters"
  | tooManyItems field max => s!"too many {field}; maximum number of {field} is {max}"
  | notUnique field => s!"{field} must be unique"
  | mutuallyExclusive first second => s!"either {first} or {second} must be configured"
  | unsupported field value => s!"{value} is not a supported {field}"
  | superfluous field operator => s!"{field} not valid; operator {operator} does not accept a value"

end ValidationError

namespace Validation

abbrev Check := Except ValidationError Unit

def ensure (condition : Bool) (e : ValidationError) : Check :=
  if condition then .ok () else .error e

theorem ensure_eq_ok_iff {condition : Bool} {e : ValidationError} :
    ensure condition e = .ok () ↔ condition = true := by
  cases condition with
  | false => exact ⟨nofun, nofun⟩
  | true => exact ⟨fun _ => rfl, fun _ => rfl⟩

def nonBlank (field value : String) : Check := ensure (!Text.isBlank value) (.missing field)

theorem nonBlank_eq (field value : String) :
    nonBlank field value = if Text.isBlank value then .error (.missing field) else .ok () := by
  cases h : Text.isBlank value <;> simp [nonBlank, ensure, h]

def maxLength (field value : String) (max : Nat) : Check :=
  ensure (value.length ≤ max) (.tooLong field max)

def notEmpty {α : Type} (field : String) (items : List α) : Check :=
  ensure (!items.isEmpty) (.missing field)

def maxItems {α : Type} (field : String) (items : List α) (max : Nat) : Check :=
  ensure (items.length ≤ max) (.tooManyItems field max)

def unique (field : String) (items : List String) : Check :=
  ensure (decide items.Nodup) (.notUnique field)

def exactlyOne (first : String) (firstUsed : Bool) (second : String) (secondUsed : Bool) : Check :=
  ensure (firstUsed != secondUsed) (.mutuallyExclusive first second)

def supported (field value : String) (values : List String) : Check :=
  ensure (values.contains value) (.unsupported field value)

theorem supported_eq (field value : String) (values : List String) :
    supported field value values =
      if value ∈ values then .ok () else .error (.unsupported field value) := by
  simp [supported, ensure]

def supportedIgnoringCase (field value : String) (values : List String) : Check :=
  ensure (values.any fun v => Text.equalsIgnoringCase v value) (.unsupported field value)

end Validation

end Monitoring
