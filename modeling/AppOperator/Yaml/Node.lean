import AppOperator.Yaml.Token

/-!
# The document of a YAML text

The tokens of a text form a tree of scalars, lists and maps. A node may be
given an anchor, and later nodes may stand for it by a reference; references
are left in the tree, because the node they stand for may enclose them.

A text holds one document here. Nodes may be left out in most places, and
what is left out is a plain scalar without text.
-/

namespace AppOperator.Yaml

/-- **A node of a document.** -/
inductive Node where
  | scalar (tag : Option String) (style : ScalarStyle) (text : String)
  | list (tag : Option String) (items : List Node)
  | map (tag : Option String) (entries : List (Node × Node))
  /-- The node with an anchor, by the anchor's number. -/
  | reference (anchor : Nat)
deriving Inhabited

namespace Node

/-- The node that is not there. -/
def empty : Node := .scalar none .plain ""

mutual
/-- The number of steps that walking a node takes. -/
def size : Node → Nat
  | .scalar .. => 1
  | .list _ items => 2 + sizes items
  | .map _ entries => 2 + entrySizes entries
  | .reference _ => 1
/-- The steps for some nodes. -/
def sizes : List Node → Nat
  | [] => 0
  | n :: rest => n.size + sizes rest
/-- The steps for some entries. -/
def entrySizes : List (Node × Node) → Nat
  | [] => 0
  | (k, v) :: rest => k.size + v.size + entrySizes rest
end

end Node

/-- **A document**: its tree, and the nodes with anchors by their numbers. -/
structure Document where
  /-- The tree. -/
  root : Node
  /-- The nodes with anchors. -/
  anchors : Nat → Option Node

/-- **How far a document has been built.** -/
structure Builder where
  /-- The tokens that are left. -/
  tokens : List Token
  /-- The short forms of tags. -/
  handles : List (String × String) := []
  /-- The numbers of anchors by their names, each name once. -/
  names : List (String × Nat) := []
  /-- The numbers given to anchored nodes, in the order in which they begin, the latest first. -/
  begun : List Nat := []
  /-- The anchored nodes that are complete, by their place in that order. -/
  complete : List (Nat × Node) := []

namespace Builder

/-- Drops the next token. -/
def skip (b : Builder) : Builder := { b with tokens := b.tokens.tail }

/-- The next token. -/
def peek? (b : Builder) : Option Token := b.tokens.head?

/-- Whether the next token is one of some. -/
def sees (b : Builder) (ts : List Token) : Bool := b.peek?.any ts.contains

/-- The tag that a handle and a suffix stand for. -/
def tag? (b : Builder) (handle suffix : String) : Option String :=
  if handle.isEmpty then some suffix else (b.handles.lookup handle).map (· ++ suffix)

/-- Begins a node, numbering its anchor: a name that was not used before gets
the number of names used so far. -/
def begin (b : Builder) : Option String → Builder × Option Nat
  | none => (b, none)
  | some name =>
    let number := b.names.length
    ({ b with
        names := (name, number) :: b.names.filter (·.1 ≠ name)
        begun := number :: b.begun }, some b.begun.length)

/-- Completes a node. -/
def finish (b : Builder) (place : Option Nat) (n : Node) : Node × Builder :=
  match place with
  | none => (n, b)
  | some p => (n, { b with complete := (p, n) :: b.complete })

/-- The anchored node of a number: the latest to have begun with it. -/
def anchored (b : Builder) (number : Nat) : Option Node := do
  let later ← b.begun.findIdx? (· = number)
  b.complete.lookup (b.begun.length - 1 - later)

/-- The anchor and the tag before a node. -/
def properties (b : Builder) : Option (Option String × Option String × Builder) :=
  match b.tokens with
  | .anchor name :: .tag handle suffix :: rest
  | .tag handle suffix :: .anchor name :: rest =>
    (b.tag? handle suffix).map fun tag => (some name, some tag, { b with tokens := rest })
  | .anchor name :: rest => some (some name, none, { b with tokens := rest })
  | .tag handle suffix :: rest =>
    (b.tag? handle suffix).map fun tag => (none, some tag, { b with tokens := rest })
  | _ => some (none, none, b)

mutual
/-- Builds a node. Blocks may begin here if `block`, and the entries of a
list may stand at the column of the map around it if `flush`. -/
def node : (fuel : Nat) → (block flush : Bool) → Builder → Option (Node × Builder)
  | 0, _, _, _ => none
  | fuel + 1, block, flush, b =>
    match b.peek? with
    | some (.alias name) => (b.names.lookup name).map fun number => (.reference number, b.skip)
    | _ => do
      let (anchor, tag, b) ← b.properties
      let (b, place) := b.begin anchor
      match b.peek? with
      | some (.scalar style text) =>
        return b.skip.finish place (.scalar (tag.filter (· ≠ "!")) style text)
      | some .flowSequence =>
        let (items, b) ← flowItems fuel true b.skip
        return b.finish place (.list tag items)
      | some .flowMapping =>
        let (entries, b) ← flowEntries fuel true b.skip
        return b.finish place (.map tag entries)
      | next =>
        if flush && next = some .blockEntry then
          let (items, b) ← flushItems fuel b
          return b.finish place (.list tag items)
        else if block && next = some .blockSequence then
          let (items, b) ← blockItems fuel b.skip
          return b.finish place (.list tag items)
        else if block && next = some .blockMapping then
          let (entries, b) ← blockEntries fuel b.skip
          return b.finish place (.map tag entries)
        else if anchor.isSome || tag.isSome then
          return b.finish place (.scalar tag .plain "")
        else none
/-- Builds a node unless one of some tokens follows, which shows that it was left out. -/
def nodeUnless : (fuel : Nat) → List Token → (block flush : Bool) → Builder →
    Option (Node × Builder)
  | 0, _, _, _, _ => none
  | fuel + 1, ends, block, flush, b =>
    if b.sees ends then some (.empty, b) else node fuel block flush b
/-- Builds the entries of a list in a block of its own. -/
def blockItems : (fuel : Nat) → Builder → Option (List Node × Builder)
  | 0, _ => none
  | fuel + 1, b =>
    match b.peek? with
    | some .blockEntry => do
      let (n, b) ← nodeUnless fuel [.blockEntry, .blockEnd] true false b.skip
      let (rest, b) ← blockItems fuel b
      return (n :: rest, b)
    | some .blockEnd => some ([], b.skip)
    | _ => none
/-- Builds the entries of a list at the column of the map around it. -/
def flushItems : (fuel : Nat) → Builder → Option (List Node × Builder)
  | 0, _ => none
  | fuel + 1, b =>
    match b.peek? with
    | some .blockEntry => do
      let (n, b) ← nodeUnless fuel [.blockEntry, .key, .value, .blockEnd] true false b.skip
      let (rest, b) ← flushItems fuel b
      return (n :: rest, b)
    | _ => some ([], b)
/-- Builds the entries of a map in a block. -/
def blockEntries : (fuel : Nat) → Builder → Option (List (Node × Node) × Builder)
  | 0, _ => none
  | fuel + 1, b =>
    match b.peek? with
    | some .key => do
      let ends := [.key, .value, .blockEnd]
      let (k, b) ← nodeUnless fuel ends true true b.skip
      let (v, b) ← if b.peek? = some .value then nodeUnless fuel ends true true b.skip
        else some (.empty, b)
      let (rest, b) ← blockEntries fuel b
      return ((k, v) :: rest, b)
    | some .blockEnd => some ([], b.skip)
    | _ => none
/-- Builds the items of a list in brackets; an item with a key is a map of one entry. -/
def flowItems : (fuel : Nat) → (first : Bool) → Builder → Option (List Node × Builder)
  | 0, _, _ => none
  | fuel + 1, first, b =>
    if b.peek? = some .flowSequenceEnd then some ([], b.skip)
    else do
      let b ← if first then some b else if b.peek? = some .flowEntry then some b.skip else none
      match b.peek? with
      | some .flowSequenceEnd => return ([], b.skip)
      | some .key =>
        let b := b.skip
        let (k, b) ← if b.sees [.value, .flowEntry, .flowSequenceEnd] then some (.empty, b.skip)
          else node fuel false false b
        let (v, b) ← if b.peek? = some .value
          then nodeUnless fuel [.flowEntry, .flowSequenceEnd] false false b.skip
          else some (.empty, b)
        let (rest, b) ← flowItems fuel false b
        return (.map none [(k, v)] :: rest, b)
      | _ =>
        let (n, b) ← node fuel false false b
        let (rest, b) ← flowItems fuel false b
        return (n :: rest, b)
/-- Builds the entries of a map in braces; an entry may be a key alone. -/
def flowEntries : (fuel : Nat) → (first : Bool) → Builder →
    Option (List (Node × Node) × Builder)
  | 0, _, _ => none
  | fuel + 1, first, b =>
    if b.peek? = some .flowMappingEnd then some ([], b.skip)
    else do
      let b ← if first then some b else if b.peek? = some .flowEntry then some b.skip else none
      match b.peek? with
      | some .flowMappingEnd => return ([], b.skip)
      | some .key =>
        let (k, b) ← nodeUnless fuel [.value, .flowEntry, .flowMappingEnd] false false b.skip
        let (v, b) ← if b.peek? = some .value
          then nodeUnless fuel [.flowEntry, .flowMappingEnd] false false b.skip
          else some (.empty, b)
        let (rest, b) ← flowEntries fuel false b
        return ((k, v) :: rest, b)
      | _ =>
        let (k, b) ← node fuel false false b
        let (rest, b) ← flowEntries fuel false b
        return ((k, .empty) :: rest, b)
end

/-- Reads the directives before a document: one version at most, and each
handle once. -/
def directives : List Token → (versioned : Bool) → (handles : List (String × String)) →
    Option (List (String × String) × List Token)
  | .version major minor :: rest, versioned, handles =>
    if versioned || major ≠ 1 || (minor ≠ 1 && minor ≠ 2) then none
    else directives rest true handles
  | .tagHandle handle lead :: rest, versioned, handles =>
    if (handles.lookup handle).isSome then none
    else directives rest versioned (handles ++ [(handle, lead)])
  | rest, _, handles => some (handles, rest)

/-- The short forms of tags that every document has. -/
def commonHandles : List (String × String) := [("!", "!"), ("!!", "tag:yaml.org,2002:")]

/-- Builds the only document of some tokens. -/
def document (tokens : List Token) : Option (Node × Builder) :=
  let fuel := 3 * tokens.length + 3
  match tokens with
  | [] => some (.empty, { tokens := [] })
  | .version .. :: _ | .tagHandle .. :: _ | .documentStart :: _ => do
    let (handles, rest) ← directives tokens false []
    match rest with
    | .documentStart :: rest =>
      let b : Builder := { tokens := rest, handles := handles ++ commonHandles }
      match rest with
      | [] | .version .. :: _ | .tagHandle .. :: _ | .documentStart :: _ | .documentEnd :: _ =>
        return (.empty, b)
      | _ => node fuel true false b
    | _ => none
  | _ => node fuel true false { tokens, handles := commonHandles }

end Builder

/-- **The document of a text**, if the text holds no more than one. -/
def Document.parse? (text : String) : Option Document := do
  let (root, b) ← Builder.document (← Token.scan? text)
  if (b.tokens.dropWhile (· = .documentEnd)).isEmpty then
    return { root, anchors := b.anchored }
  else none

end AppOperator.Yaml
