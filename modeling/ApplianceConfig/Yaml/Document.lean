import ApplianceConfig.Yaml.Node

/-!
# Documents of YAML

The tokens of a text are joined to a tree of texts, lists and mappings; a node
that is left out is an empty plain text.

An anchor numbers its node by the names that are known before it, and a name that
comes back is known once.  So when a name is given to a second node, that node
and the next one with a new name share a number; a number belongs to the last
node that was begun with it, and every alias of the number stands for that node.

A text holds one document.  `Document.parse?` gives it, or nothing if the text is
malformed or holds more than one; a text without any stands for a node that is
left out.
-/

set_option autoImplicit false

namespace ApplianceConfig.Yaml

namespace Node

/-! ## Reading tokens -/

/-- What a reader of tokens holds: the tokens that are left, the numbers of the anchors by name,
the nodes that are finished by number, and the handles of tags. -/
structure Input where
  tokens : List Token
  anchors : List (String × Nat) := []
  anchored : Anchored := []
  handles : List (String × List UInt8) := []

/-- The next token. -/
def Input.head (input : Input) : Token := input.tokens.head?.getD .streamEnd

/-- The input after the next token. -/
def Input.next (input : Input) : Input := { input with tokens := input.tokens.tail }

/-- The number of a node with an anchor, and the input in which the node begins. -/
def Input.enter (input : Input) (anchor : Option String) : Option Nat × Input :=
  match anchor with
  | some name =>
    let number := input.anchors.length
    (some number, { input with
      anchors := (name, number) :: input.anchors.filter fun entry => entry.1 != name
      anchored := input.anchored.filter fun entry => entry.1 != number })
  | none => (none, input)

/-- The input after a node with a number; one inside the node that took the number keeps it. -/
def Input.leave (input : Input) (number : Option Nat) (node : Node) : Input :=
  match number with
  | some number =>
    if (input.anchored.lookup number).isSome then input
    else { input with anchored := (number, node) :: input.anchored }
  | none => input

/-- The tag for a handle and a suffix. -/
def resolveTag? (input : Input) (handle : String) (suffix : List UInt8) : Option Tag :=
  if handle.isEmpty then some (.ofBytes suffix)
  else
    match input.handles.lookup handle with
    | some leading => some (.ofBytes (leading ++ suffix))
    | none =>
      if handle = "!" then some (.ofBytes (Text.utf8 "!" ++ suffix))
      else if handle = "!!" then some (.ofBytes (Text.utf8 "tag:yaml.org,2002:" ++ suffix))
      else none

/-- The anchor and the tag before a node, in either order. -/
def properties? (input : Input) : Option (Option String × Option Tag × Input) :=
  match input.head with
  | .anchor name =>
    let input := input.next
    match input.head with
    | .tag handle suffix =>
      (resolveTag? input handle suffix).map fun tag => (some name, some tag, input.next)
    | _ => some (some name, none, input)
  | .tag handle suffix =>
    match resolveTag? input handle suffix with
    | none => none
    | some tag =>
      let input := input.next
      match input.head with
      | .anchor name => some (some name, some tag, input.next)
      | _ => some (none, some tag, input)
  | _ => some (none, none, input)

mutual
/-- A node.  In a block, collections by indentation may stand here; as a key or value, a list whose
items are not indented may as well. -/
def node? : Nat → Bool → Bool → Input → Option (Node × Input)
  | 0, _, _, _ => none
  | fuel + 1, block, unindented, input =>
    match input.head with
    | .alias name =>
      (input.anchors.lookup name).map fun number => (reference number, input.next)
    | _ =>
      match properties? input with
      | none => none
      | some (anchor, tag, input) =>
        let (number, input) := input.enter anchor
        let close := fun (result : Option (Node × Input)) =>
          result.map fun (node, input) => (node, input.leave number node)
        match input.head with
        | .scalar text style => close (some (scalar text style tag, input.next))
        | .flowSequenceStart =>
          close ((flowItems? fuel true input.next).map fun (items, input) =>
            (sequence items tag, input))
        | .flowMappingStart =>
          close ((flowEntries? fuel true input.next).map fun (entries, input) =>
            (mapping entries tag, input))
        | .blockSequenceStart =>
          if block then
            close ((blockItems? fuel input.next).map fun (items, input) =>
              (sequence items tag, input))
          else none
        | .blockMappingStart =>
          if block then
            close ((blockEntries? fuel input.next).map fun (entries, input) =>
              (mapping entries tag, input))
          else none
        | .blockEntry =>
          if unindented then
            close ((unindentedItems? fuel input).map fun (items, input) =>
              (sequence items tag, input))
          else if anchor.isSome || tag.isSome then close (some (empty tag, input))
          else none
        | _ =>
          if anchor.isSome || tag.isSome then close (some (empty tag, input)) else none

/-- The items of an indented list up to its end. -/
def blockItems? : Nat → Input → Option (List Node × Input)
  | 0, _ => none
  | fuel + 1, input =>
    match input.head with
    | .blockEntry =>
      let input := input.next
      let item :=
        match input.head with
        | .blockEntry => some (empty none, input)
        | .blockEnd => some (empty none, input)
        | _ => node? fuel true false input
      match item with
      | none => none
      | some (item, input) =>
        (blockItems? fuel input).map fun (items, input) => (item :: items, input)
    | .blockEnd => some ([], input.next)
    | _ => none

/-- The items of a list that is not indented; it ends at any other token. -/
def unindentedItems? : Nat → Input → Option (List Node × Input)
  | 0, _ => none
  | fuel + 1, input =>
    match input.head with
    | .blockEntry =>
      let input := input.next
      let item :=
        match input.head with
        | .blockEntry => some (empty none, input)
        | .key => some (empty none, input)
        | .value => some (empty none, input)
        | .blockEnd => some (empty none, input)
        | _ => node? fuel true false input
      match item with
      | none => none
      | some (item, input) =>
        (unindentedItems? fuel input).map fun (items, input) => (item :: items, input)
    | _ => some ([], input)

/-- The key or value in an indented mapping behind its indicator. -/
def blockPart? : Nat → Input → Option (Node × Input)
  | 0, _ => none
  | fuel + 1, input =>
    match input.head with
    | .key => some (empty none, input)
    | .value => some (empty none, input)
    | .blockEnd => some (empty none, input)
    | _ => node? fuel true true input

/-- The entries of an indented mapping up to its end. -/
def blockEntries? : Nat → Input → Option (List (Node × Node) × Input)
  | 0, _ => none
  | fuel + 1, input =>
    match input.head with
    | .key =>
      match blockPart? fuel input.next with
      | none => none
      | some (key, input) =>
        let value :=
          match input.head with
          | .value => blockPart? fuel input.next
          | _ => some (empty none, input)
        match value with
        | none => none
        | some (value, input) =>
          (blockEntries? fuel input).map fun (entries, input) => ((key, value) :: entries, input)
    | .blockEnd => some ([], input.next)
    | _ => none

/-- A single entry that stands in brackets, behind its key indicator. -/
def flowPair? : Nat → Input → Option (Node × Input)
  | 0, _ => none
  | fuel + 1, input =>
    let key :=
      match input.head with
      | .value => some (empty none, input.next)
      | .flowEntry => some (empty none, input.next)
      | .flowSequenceEnd => some (empty none, input.next)
      | _ => node? fuel false false input
    match key with
    | none => none
    | some (key, input) =>
      let value :=
        match input.head with
        | .value =>
          let input := input.next
          match input.head with
          | .flowEntry => some (empty none, input)
          | .flowSequenceEnd => some (empty none, input)
          | _ => node? fuel false false input
        | _ => some (empty none, input)
      value.map fun (value, input) => (mapping [(key, value)] none, input)

/-- The items in brackets up to the closing one; the first needs no comma before it. -/
def flowItems? : Nat → Bool → Input → Option (List Node × Input)
  | 0, _, _ => none
  | fuel + 1, isFirst, input =>
    match input.head with
    | .flowSequenceEnd => some ([], input.next)
    | head =>
      if !isFirst && head ≠ .flowEntry then none
      else
        let input := if isFirst then input else input.next
        match input.head with
        | .flowSequenceEnd => some ([], input.next)
        | .key =>
          match flowPair? fuel input.next with
          | none => none
          | some (item, input) =>
            (flowItems? fuel false input).map fun (items, input) => (item :: items, input)
        | _ =>
          match node? fuel false false input with
          | none => none
          | some (item, input) =>
            (flowItems? fuel false input).map fun (items, input) => (item :: items, input)

/-- The value in braces behind a key, if a colon stands there. -/
def flowValue? : Nat → Input → Option (Node × Input)
  | 0, _ => none
  | fuel + 1, input =>
    match input.head with
    | .value =>
      let input := input.next
      match input.head with
      | .flowEntry => some (empty none, input)
      | .flowMappingEnd => some (empty none, input)
      | _ => node? fuel false false input
    | _ => some (empty none, input)

/-- The entries in braces up to the closing one; the first needs no comma before it. -/
def flowEntries? : Nat → Bool → Input → Option (List (Node × Node) × Input)
  | 0, _, _ => none
  | fuel + 1, isFirst, input =>
    match input.head with
    | .flowMappingEnd => some ([], input.next)
    | head =>
      if !isFirst && head ≠ .flowEntry then none
      else
        let input := if isFirst then input else input.next
        match input.head with
        | .flowMappingEnd => some ([], input.next)
        | .key =>
          let input := input.next
          let key :=
            match input.head with
            | .value => some (empty none, input)
            | .flowEntry => some (empty none, input)
            | .flowMappingEnd => some (empty none, input)
            | _ => node? fuel false false input
          match key with
          | none => none
          | some (key, input) =>
            match flowValue? fuel input with
            | none => none
            | some (value, input) =>
              (flowEntries? fuel false input).map fun (entries, input) =>
                ((key, value) :: entries, input)
        | _ =>
          match node? fuel false false input with
          | none => none
          | some (key, input) =>
            (flowEntries? fuel false input).map fun (entries, input) =>
              ((key, empty none) :: entries, input)
end

/-! ## Documents -/

/-- The directives before a document: at most one version, which has to be 1.1 or 1.2, and at most
one handle of each name. -/
def directives? : Bool → Input → List Token → Option Input
  | _, input, [] => some { input with tokens := [] }
  | versioned, input, token :: rest =>
    match token with
    | .versionDirective major minor =>
      if versioned || major ≠ 1 || (minor ≠ 1 && minor ≠ 2) then none
      else directives? true input rest
    | .tagDirective handle leading =>
      if (input.handles.lookup handle).isSome then none
      else directives? versioned { input with handles := (handle, leading) :: input.handles } rest
    | token => some { input with tokens := token :: rest }

/-- The input without markers of the end of a document. -/
def skipEnds (tokens : List Token) : List Token := tokens.dropWhile (· == .documentEnd)

/-- The node of a document, which may be left out behind a marker of its start. -/
def content? (fuel : Nat) (input : Input) : Option (Node × Input) :=
  match input.head with
  | .versionDirective _ _ => some (empty none, input)
  | .tagDirective _ _ => some (empty none, input)
  | .documentStart => some (empty none, input)
  | .documentEnd => some (empty none, input)
  | .streamEnd => some (empty none, input)
  | _ => node? fuel true false input

/-- The first document of a text. -/
def document? (fuel : Nat) (tokens : List Token) : Option (Node × Input) :=
  match tokens.head? with
  | some .streamEnd => some (empty none, { tokens := tokens })
  | some (.versionDirective _ _) | some (.tagDirective _ _) | some .documentStart =>
    match directives? false { tokens := tokens } tokens with
    | none => none
    | some input => if input.head = .documentStart then content? fuel input.next else none
  | _ => node? fuel true false { tokens := tokens }

end Node

/-- The document of a text. -/
def Document.parse? (text : String) : Option Document := do
  let tokens ← scan? text
  let (root, input) ← Node.document? (4 * tokens.length + 8) tokens
  if Node.skipEnds input.tokens = [.streamEnd] then pure ⟨root, input.anchored⟩ else none

end ApplianceConfig.Yaml
