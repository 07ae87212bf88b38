import ApplianceConfig.Proofs.Appliance.SingleCalls
import ApplianceConfig.Proofs.Json.Equality
import ApplianceConfig.Proofs.Text.EncodedText

/-!
# Bodies given by their texts

A body is decoded before it is read. A text comes back as it was encoded (`Text.decodeLossy_utf8`),
so what such a body stands for is what its text says (`Message.value_utf8`). Two appliances that
answer every address with such a text make a world (`Effect.recited`) in which it can be worked out
what a session comes to.
-/

set_option autoImplicit false

namespace ApplianceConfig

/-- **An encoded body stands for what its text says.** -/
theorem Message.value_utf8 (text : String) :
    value (Text.utf8 text) =
      if text.toList.all Text.isBlank then .null else (Json.read? text).getD (.string text) := by
  rw [value, Text.decodeLossy_utf8]

/-- A body that can be seen to stand for a value stands for that value. -/
theorem Message.value_eq {text : String} {expected : Json} (free : expected.zeroFree = true)
    (reads : (expected == if text.toList.all Text.isBlank then .null
      else (Json.read? text).getD (.string text)) = true) :
    value (Text.utf8 text) = expected := by
  rw [value_utf8]
  exact (Json.eq_of_same _ _ free reads).symm

/-! ## Appliances that answer with fixed texts -/

/-- What two appliances answer that have one text for each address; there are no files, and nothing
is remembered of the facts. -/
def Effect.recited (texts : Side → String → String) : (effect : Effect) → effect.Answer
  | .exchange side request => .ok ⟨⟨200⟩, .ok (Text.utf8 (texts side request.target))⟩
  | .recallFacts _ => none
  | .rememberFacts _ _ => ()
  | .load _ => .error .missing
  | .makeDirectories _ => .error .missing
  | .store _ _ => .error .missing
  | .clock => ⟨2000, 1, 1, 0, 0, 0⟩

/-- A request brings the value of the text for its address. -/
theorem Client.document_recited (texts : Side → String → String) (side : Side) (request : Request) :
    Client.document (Effect.recited texts (.exchange side request)) =
      .ok (Message.value (Text.utf8 (texts side request.target))) := rfl

end ApplianceConfig
