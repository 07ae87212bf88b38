import ApplianceConfig.Address.Label

/-!
# Domain names

A domain name is read character by character (`mapChar?`), brought into normal
form and taken apart into labels; each label is then written in ASCII, with its
code if it needs one.  A domain name without a form is refused: because of a
character that none holds, or because of a label that is not well formed.
-/

set_option autoImplicit false

namespace ApplianceConfig.Address

/-- Whether a character may not stand in a host. -/
def isForbidden (c : Char) : Bool :=
  c.toNat ≤ 0x20 || c.toNat == 0x7F
    || ['%', '#', '/', ':', '<', '>', '?', '@', '[', '\\', ']', '^', '|'].contains c

/-- The text that a domain name stands for. -/
def domainText? (domain : List Char) : Option (List Char) := do
  let mapped ← domain.mapM mapChar?
  let text := Text.normalForm mapped.flatten
  if text.any isForbidden then none else some text

/-- A domain name in ASCII. -/
def asciiDomain? (domain : List Char) : Option (List Char) := do
  let text ← domainText? domain
  let labels ← (text.splitOn '.').mapM Label.text?
  if Label.areWellFormed labels then some (List.intercalate ['.'] (labels.map Label.form))
  else none

end ApplianceConfig.Address
