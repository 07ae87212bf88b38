import ApplianceConfig.Json.Basic

/-!
# Parts of values

A part of a value is reached by steps, each to a field of an object or to an item of a list
(`Json.follow?`). A sequence of steps can be taken in two portions (`Json.follow_append`). A
scalar has no parts.
-/

set_option autoImplicit false

namespace ApplianceConfig

/-- One step into a value: to a field of an object or to an item of a list. -/
inductive Step where
  | field (name : String)
  | item (index : Nat)

/-- The value that a step leads to. -/
def Step.next? (value : Json) : Step → Option Json
  | field name => value.field? name
  | item index => value.items?.bind fun items => items[index]?

namespace Json

/-- Whether a value is neither a list nor an object. -/
def isScalar : Json → Bool
  | array _ => false
  | object _ => false
  | _ => true

theorem isScalar_iff {value : Json} :
    value.isScalar = true ↔ value.kind ≠ .array ∧ value.kind ≠ .object := by
  cases value <;> simp [isScalar, kind]

/-- The value that a sequence of steps leads to. -/
def follow? : List Step → Json → Option Json
  | [], value => some value
  | step :: rest, value => (step.next? value).bind (follow? rest)

theorem follow_append (steps others : List Step) (value : Json) :
    follow? (steps ++ others) value = (follow? steps value).bind (follow? others) := by
  induction steps generalizing value with
  | nil => rfl
  | cons step rest hypothesis =>
      rw [List.cons_append, follow?, follow?, Option.bind_assoc]
      exact congrArg _ (funext hypothesis)

theorem follow_step {steps : List Step} {step : Step} {document value part : Json}
    (there : follow? steps document = some value) (further : step.next? value = some part) :
    follow? (steps ++ [step]) document = some part := by
  rw [follow_append, there, Option.bind_some, follow?, further]
  rfl

end Json

end ApplianceConfig
