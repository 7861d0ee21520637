import ScalingTrials.Yaml.Tokens

/-!
The documents of a YAML text as trees. A node that was given an anchor carries its number, and a
reference is the number of the latest anchor of that name at its place.
-/

namespace ScalingTrials.Yaml

inductive Node where
  | scalar (anchor : Option Nat) (tag : Option (String × String)) (plain : Bool) (text : String)
  | reference (anchor : Nat)
  | seq (anchor : Option Nat) (items : List Node)
  | map (anchor : Option Nat) (entries : List (Node × Node))
  deriving Repr, Inhabited

/-- A node left out where one could stand. -/
def Node.omitted : Node := .scalar none none true "~"

/-- The tokens still to be read, and the anchors given so far, the latest first. -/
structure Feed where
  tokens : List Token
  anchors : List (String × Nat)
  given : Nat

/-- Reading of a part of a document, which fails where the tokens do not fit. -/
abbrev Grammar := StateT Feed Option

namespace Grammar

def peek? : Grammar (Option Token) := fun f => some (f.tokens.head?, f)

def skip : Grammar Unit := fun f => some ((), { f with tokens := f.tokens.drop 1 })

/-- Skips the next token and returns a value. -/
def skipTo {α : Type} (a : α) : Grammar α := do
  skip
  return a

/-- Gives the next number to an anchor. -/
def giveAnchor (name : String) : Grammar Nat := fun f =>
  some (f.given + 1, { f with anchors := (name, f.given + 1) :: f.anchors, given := f.given + 1 })

def anchorOf (name : String) : Grammar Nat := fun f => (f.anchors.lookup name).map fun n => (n, f)

/-- An anchor at the next token. -/
def anchor? : Grammar (Option Nat) := do
  match ← peek? with
  | some (.anchor name) =>
    skip
    return some (← giveAnchor name)
  | _ => return none

/-- A tag at the next token. -/
def tag? : Grammar (Option (String × String)) := do
  match ← peek? with
  | some (.tag handle suffix) => skipTo (some (handle, suffix))
  | _ => return none

/-- An anchor and a tag in either order, each of which may be missing. -/
def properties : Grammar (Option Nat × Option (String × String)) := do
  match ← tag? with
  | some tag => return (← anchor?, some tag)
  | none =>
    match ← anchor? with
    | some n => return (some n, ← tag?)
    | none => return (none, none)

mutual

/-- A node. Within a flow collection no block may start, and a sequence may do without indentation
only in a block mapping. -/
def node : Nat → Bool → Bool → Grammar Node
  | 0, _, _ => failure
  | fuel + 1, inBlock, unindented => do
    match ← peek? with
    | some (.reference name) =>
      skip
      return .reference (← anchorOf name)
    | _ =>
      let (anchor, tag) ← properties
      match ← peek? with
      | some (.scalar plain text) => skipTo (.scalar anchor tag plain text)
      | some .flowSequenceStart =>
        skip
        return .seq anchor (← flowItems fuel true)
      | some .flowMappingStart =>
        skip
        return .map anchor (← flowEntries fuel true)
      | some .blockSequenceStart =>
        if inBlock then
          skip
          return .seq anchor (← blockItems fuel)
        else omittedUnless anchor tag
      | some .blockMappingStart =>
        if inBlock then
          skip
          return .map anchor (← blockEntries fuel)
        else omittedUnless anchor tag
      | some .blockEntry =>
        if unindented then return .seq anchor (← unindentedItems fuel)
        else omittedUnless anchor tag
      | _ => omittedUnless anchor tag

/-- An anchor or a tag alone makes an empty scalar. -/
def omittedUnless : Option Nat → Option (String × String) → Grammar Node
  | none, none => failure
  | anchor, tag => return .scalar anchor tag true ""

/-- The items of a block sequence up to its end. -/
def blockItems : Nat → Grammar (List Node)
  | 0 => failure
  | fuel + 1 => do
    match ← peek? with
    | some .blockEnd => skipTo []
    | some .blockEntry =>
      skip
      let item ← match ← peek? with
        | some .blockEntry | some .blockEnd => pure Node.omitted
        | _ => node fuel true false
      return item :: (← blockItems fuel)
    | _ => failure

/-- The items of a sequence that ends with the first token that is no entry. -/
def unindentedItems : Nat → Grammar (List Node)
  | 0 => failure
  | fuel + 1 => do
    match ← peek? with
    | some .blockEntry =>
      skip
      let item ← match ← peek? with
        | some .blockEntry | some .key | some .value | some .blockEnd => pure Node.omitted
        | _ => node fuel true false
      return item :: (← unindentedItems fuel)
    | _ => return []

/-- A key or a value of a block mapping behind its mark. -/
def blockPart : Nat → Grammar Node
  | 0 => failure
  | fuel + 1 => do
    match ← peek? with
    | some .key | some .value | some .blockEnd => return Node.omitted
    | _ => node fuel true true

/-- The value of a block mapping's entry. -/
def blockValue : Nat → Grammar Node
  | 0 => failure
  | fuel + 1 => do
    match ← peek? with
    | some .value =>
      skip
      blockPart fuel
    | _ => return Node.omitted

/-- The entries of a block mapping up to its end. -/
def blockEntries : Nat → Grammar (List (Node × Node))
  | 0 => failure
  | fuel + 1 => do
    match ← peek? with
    | some .key =>
      skip
      let key ← blockPart fuel
      let value ← blockValue fuel
      return (key, value) :: (← blockEntries fuel)
    | some .value =>
      let value ← blockValue fuel
      return (Node.omitted, value) :: (← blockEntries fuel)
    | some .blockEnd => skipTo []
    | _ => failure

/-- The items of a flow sequence up to its end; between two of them stands a comma. -/
def flowItems : Nat → Bool → Grammar (List Node)
  | 0, _ => failure
  | fuel + 1, first => do
    match ← peek? with
    | some .flowSequenceEnd => skipTo []
    | t =>
      if !first then
        if t = some .flowEntry then skip else failure
      match ← peek? with
      | some .flowSequenceEnd => skipTo []
      | some .key =>
        skip
        let pair ← flowPair fuel
        return .map none [pair] :: (← flowItems fuel false)
      | _ =>
        let item ← node fuel false false
        return item :: (← flowItems fuel false)

/-- A mapping of one entry within a flow sequence, behind the mark of its key. -/
def flowPair : Nat → Grammar (Node × Node)
  | 0 => failure
  | fuel + 1 => do
    let key ← match ← peek? with
      | some .value | some .flowEntry | some .flowSequenceEnd => skipTo Node.omitted
      | _ => node fuel false false
    match ← peek? with
    | some .value =>
      skip
      match ← peek? with
      | some .flowEntry | some .flowSequenceEnd => return (key, Node.omitted)
      | _ => return (key, ← node fuel false false)
    | _ => return (key, Node.omitted)

/-- The value of a flow mapping's entry. -/
def flowValue : Nat → Grammar Node
  | 0 => failure
  | fuel + 1 => do
    match ← peek? with
    | some .value =>
      skip
      match ← peek? with
      | some .flowEntry | some .flowMappingEnd => return Node.omitted
      | _ => node fuel false false
    | _ => return Node.omitted

/-- The entries of a flow mapping up to its end; between two of them stands a comma. -/
def flowEntries : Nat → Bool → Grammar (List (Node × Node))
  | 0, _ => failure
  | fuel + 1, first => do
    match ← peek? with
    | some .flowMappingEnd => skipTo []
    | t =>
      if !first then
        if t = some .flowEntry then skip else failure
      match ← peek? with
      | some .flowMappingEnd => skipTo []
      | some .key =>
        skip
        let key ← match ← peek? with
          | some .value | some .flowEntry | some .flowMappingEnd => pure Node.omitted
          | _ => node fuel false false
        let value ← flowValue fuel
        return (key, value) :: (← flowEntries fuel false)
      | some .value =>
        let value ← flowValue fuel
        return (Node.omitted, value) :: (← flowEntries fuel false)
      | _ =>
        let key ← node fuel false false
        return (key, Node.omitted) :: (← flowEntries fuel false)

end

/-- Skips directives. -/
def skipDirectives : Nat → Grammar Unit
  | 0 => pure ()
  | fuel + 1 => do
    if (← peek?) = some .directive then
      skip
      skipDirectives fuel

/-- Skips marks that end a document. -/
def skipDocumentEnds : Nat → Grammar Unit
  | 0 => pure ()
  | fuel + 1 => do
    if (← peek?) = some .documentEnd then
      skip
      skipDocumentEnds fuel

/-- A document behind directives and its mark. -/
def explicitDocument (fuel : Nat) : Grammar Node := do
  skipDirectives fuel
  if (← peek?) = some .documentStart then
    skip
    match ← peek? with
    | none | some .directive | some .documentStart | some .documentEnd => return Node.omitted
    | _ => node fuel true false
  else failure

/-- The documents of a text; only the first may do without a mark. Anchors are names of one
document. -/
def documents (fuel : Nat) : Nat → Bool → Grammar (List Node)
  | 0, _ => failure
  | more + 1, first => do
    if !first then skipDocumentEnds fuel
    match ← peek? with
    | none => return []
    | t =>
      modify fun f => { f with anchors := [] }
      let explicit := !first || t = some .directive || t = some .documentStart
      let document ← if explicit then explicitDocument fuel else node fuel true false
      if (← peek?) = some .documentEnd then skip
      return document :: (← documents fuel more false)

end Grammar

/-- The documents of a text. -/
def documents (text : String) : Except Error (List Node) := do
  let ts ← tokens text
  match Grammar.documents (2 * ts.length + 2) (ts.length + 1) true ⟨ts, [], 0⟩ with
  | some (nodes, _) => .ok nodes
  | none => .error .malformed

namespace Node

mutual

/-- The number of marks that a node takes: one for a scalar or reference, and two around the parts
of a collection. -/
def weight : Node → Nat
  | scalar _ _ _ _ => 1
  | reference _ => 1
  | seq _ items => weights items + 2
  | map _ entries => entryWeights entries + 2

def weights : List Node → Nat
  | [] => 0
  | n :: rest => n.weight + weights rest

def entryWeights : List (Node × Node) → Nat
  | [] => 0
  | (k, v) :: rest => k.weight + v.weight + entryWeights rest

end

def anchor? : Node → Option Nat
  | scalar anchor _ _ _ => anchor
  | reference _ => none
  | seq anchor _ => anchor
  | map anchor _ => anchor

/-- A node in front of those found before if it has an anchor. -/
def consAnchored (n : Node) (found : List (Nat × Node)) : List (Nat × Node) :=
  match n.anchor? with
  | some k => (k, n) :: found
  | none => found

mutual

/-- The nodes with an anchor, by its number. -/
def anchored : Node → List (Nat × Node)
  | seq anchor items => consAnchored (seq anchor items) (anchoredItems items)
  | map anchor entries => consAnchored (map anchor entries) (anchoredEntries entries)
  | n => consAnchored n []

def anchoredItems : List Node → List (Nat × Node)
  | [] => []
  | n :: rest => n.anchored ++ anchoredItems rest

def anchoredEntries : List (Node × Node) → List (Nat × Node)
  | [] => []
  | (k, v) :: rest => k.anchored ++ v.anchored ++ anchoredEntries rest

end

end Node

end ScalingTrials.Yaml
