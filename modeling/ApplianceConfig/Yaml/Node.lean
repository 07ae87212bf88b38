import ApplianceConfig.Yaml.Token

/-!
# Nodes of YAML

A node is a text, a list, a mapping or an alias.  A mapping keeps its entries in
the order of the text, with repeated keys.

An anchor gives its node a number and an alias names the number, so that a node
is a tree without sharing.  A document is such a tree with the nodes that have
numbers.  An alias is followed when it is read (`Node.follow`), and only then:
one that no reader comes to costs nothing, and may stand inside the node that it
names.  Each alias that is followed takes one unit from an allowance, so that a
short text cannot stand for a tree that is too large to be read.
-/

set_option autoImplicit false

namespace ApplianceConfig.Yaml

/-! ## Tags -/

/-- What a tag says of its node: it has one of four known types, another type, or one of the text's
own kinds, given by name.  A kind whose name is no text says nothing. -/
inductive Tag where
  | boolean
  | integer
  | float
  | null
  | otherType
  | kind (name : String)
  | unreadable
  deriving DecidableEq, Repr

/-- What the bytes of a tag say.  Those of a kind start with an exclamation mark; a lone one is its
own name. -/
def Tag.ofBytes (bytes : List UInt8) : Tag :=
  if bytes = Text.utf8 "tag:yaml.org,2002:bool" then boolean
  else if bytes = Text.utf8 "tag:yaml.org,2002:int" then integer
  else if bytes = Text.utf8 "tag:yaml.org,2002:float" then float
  else if bytes = Text.utf8 "tag:yaml.org,2002:null" then null
  else
    match bytes with
    | 0x21 :: name => ((Text.decode? (if name.isEmpty then bytes else name)).map kind).getD unreadable
    | _ => otherType

/-! ## Nodes -/

/-- A node: a text with the way it was written, a list, a mapping, or an alias of the node with a
number.  The tag is there if the text gives one. -/
inductive Node where
  | scalar (text : String) (style : Style) (tag : Option Tag)
  | sequence (items : List Node) (tag : Option Tag)
  | mapping (entries : List (Node × Node)) (tag : Option Tag)
  | reference (number : Nat)

namespace Node

instance : Inhabited Node := ⟨reference 0⟩

/-- The node that is left out. -/
def empty (tag : Option Tag) : Node := scalar "" .plain tag

mutual
/-- How many marks of the text make a node: one for a text or an alias, and two for the bounds of
a list or mapping. -/
def size : Node → Nat
  | scalar _ _ _ => 1
  | sequence items _ => 2 + sizeOfItems items
  | mapping entries _ => 2 + sizeOfEntries entries
  | reference _ => 1

/-- How many marks make the items of a list. -/
def sizeOfItems : List Node → Nat
  | [] => 0
  | item :: rest => item.size + sizeOfItems rest

/-- How many marks make the entries of a mapping. -/
def sizeOfEntries : List (Node × Node) → Nat
  | [] => 0
  | (key, value) :: rest => key.size + value.size + sizeOfEntries rest
end

end Node

/-! ## Documents -/

/-- The nodes of a document that have numbers. -/
abbrev Anchored : Type := List (Nat × Node)

/-- A document: its tree and the nodes that its aliases name. -/
structure Document where
  root : Node
  anchored : Anchored := []

/-- A reading of a document, which knows the nodes with numbers and may run out of its
allowance. -/
abbrev Reading (α : Type) : Type := ReaderT Anchored (StateT Nat Option) α

/-- Takes one unit from the allowance. -/
def spend : Reading Unit := do
  match ← get with
  | 0 => failure
  | left + 1 => set left

/-- The node that an alias stands for, or the node itself. -/
def Node.follow : Node → Reading Node
  | .reference number => do
    spend
    match (← read).lookup number with
    | some target => pure target
    | none => failure
  | node => pure node

/-- What a reading makes of a document, if it follows at most a hundred aliases for each mark of
the text. -/
def Document.read? {α : Type} (document : Document) (reading : Node → Reading α) : Option α :=
  ((reading document.root).run document.anchored).run' (100 * document.root.size)

end ApplianceConfig.Yaml
