import RowSync.Yaml.Token

/-!
The node tree of a YAML stream of one document. Aliases stay in the tree and are looked up in a
table of the anchored nodes.
-/

set_option autoImplicit false

namespace RowSync.Yaml

/-- A node of a document. -/
inductive Node
  | scalar (tag? : Option (List Char)) (style : ScalarStyle) (content : String)
  | sequence (tag? : Option (List Char)) (items : List Node)
  | mapping (tag? : Option (List Char)) (entries : List (Node × Node))
  /-- Stands for the anchored node in that slot. -/
  | alias (slot : Nat)

/-- An anchor that was met: the slot it takes, and its node once that is complete. -/
structure Anchor where
  slot : Nat
  node? : Option Node := none

structure Document where
  root : Node
  anchors : List Anchor

namespace Document

/-- The node that a node stands for; of several anchors in one slot the last one counts. -/
def resolve (d : Document) : Node → Option Node
  | .alias slot => ((d.anchors.reverse.find? (·.slot == slot)).bind (·.node?))
  | node => some node

end Document

/-- Where the building of a tree stands. -/
structure Building where
  tokens : List Token
  /-- Handles of tags with what they stand for. -/
  handles : List (List Char × List Char) := []
  /-- The slots of the anchor names, the latest first. -/
  slots : List (List Char × Nat) := []
  /-- The anchors met so far. -/
  anchors : List Anchor := []

abbrev Build := StateT Building Option

namespace Build

def peek : Build (Option Token) := fun s => some (s.tokens.head?, s)

def advance : Build Unit := fun s => some ((), { s with tokens := s.tokens.drop 1 })

def malformed {α : Type} : Build α := fun _ => none

def sees (among : List Token) : Build Bool := do
  let t? ← peek
  pure (t?.any among.contains)

/-- Passes over the next token if it is the given one. -/
def accept (t : Token) : Build Bool := do
  if ← sees [t] then
    advance
    pure true
  else pure false

/-- A node that is not written. -/
def emptyNode : Node := .scalar none .plain ""

/-- Takes note of an anchor and gives its number among all. -/
def openAnchor (name : List Char) : Build Nat := fun s =>
  let names := (s.slots.map (·.1)).eraseDups
  let slot := names.length
  some (s.anchors.length,
    { s with slots := (name, slot) :: s.slots, anchors := s.anchors ++ [{ slot }] })

/-- Records the node of an anchor. -/
def closeAnchor (number? : Option Nat) (node : Node) : Build Node := fun s =>
  match number? with
  | none => some (node, s)
  | some number =>
    let anchors := s.anchors.modify number fun a => { a with node? := some node }
    some (node, { s with anchors })

def anchor? : Build (Option Nat) := do
  match ← peek with
  | some (.anchor name) =>
    advance
    let number ← openAnchor name
    pure (some number)
  | _ => pure none

/-- A tag in full; its handle must be known. -/
def fullTag (handle suff : List Char) : Build (List Char) := fun s =>
  if handle.isEmpty then some (suff, s)
  else (s.handles.lookup handle).map fun lead => (lead ++ suff, s)

/-- A tag, if one comes next; it is completed later. -/
def tag? : Build (Option (List Char × List Char)) := do
  match ← peek with
  | some (.tag handle suff) =>
    advance
    pure (some (handle, suff))
  | _ => pure none

/-- Anchor and tag of a node, in either order. -/
def properties : Build (Option Nat × Option (List Char)) := do
  let before? ← tag?
  let number? ← anchor?
  let behind? ← if before?.isSome then pure none else tag?
  match before?.or behind? with
  | none => pure (number?, none)
  | some (handle, suff) =>
    let full ← fullTag handle suff
    pure (number?, some full)

/-- The node an alias stands for. -/
def aliasNode (name : List Char) : Build Node := fun s =>
  (s.slots.lookup name).map fun slot => (.alias slot, s)

mutual

def node (inBlock indentless : Bool) : Nat → Build Node
  | 0 => malformed
  | fuel + 1 => do
    match ← peek with
    | some (.alias name) =>
      advance
      aliasNode name
    | _ =>
      let (number?, tag?) ← properties
      let n ← content inBlock indentless (number?.isSome || tag?.isSome) tag? fuel
      closeAnchor number? n

/-- Builds a node behind its properties, without which it must be written. -/
def content (inBlock indentless hasProperties : Bool) (tag? : Option (List Char)) :
    Nat → Build Node
  | 0 => malformed
  | fuel + 1 => do
    match ← peek with
    | some (.scalar style text) =>
      advance
      pure (.scalar tag? style (String.ofList text))
    | some .flowSequenceStart =>
      advance
      let items ← flowItems true fuel
      pure (.sequence tag? items)
    | some .flowMappingStart =>
      advance
      let entries ← flowEntries true fuel
      pure (.mapping tag? entries)
    | some .blockSequenceStart =>
      if inBlock then
        advance
        let items ← blockItems fuel
        pure (.sequence tag? items)
      else unwritten hasProperties tag?
    | some .blockMappingStart =>
      if inBlock then
        advance
        let entries ← blockEntries fuel
        pure (.mapping tag? entries)
      else unwritten hasProperties tag?
    | some .blockEntry =>
      if indentless then
        let items ← indentlessItems fuel
        pure (.sequence tag? items)
      else unwritten hasProperties tag?
    | _ => unwritten hasProperties tag?

/-- A node with nothing behind its properties. -/
def unwritten (hasProperties : Bool) (tag? : Option (List Char)) : Build Node :=
  if hasProperties then pure (.scalar tag? .plain "") else malformed

def blockItems : Nat → Build (List Node)
  | 0 => malformed
  | fuel + 1 => do
    if ← accept .blockEntry then
      let item ← if ← sees [.blockEntry, .blockEnd] then pure emptyNode else node true false fuel
      let items ← blockItems fuel
      pure (item :: items)
    else if ← accept .blockEnd then pure []
    else malformed

/-- The entries of a sequence that is not indented below its key. -/
def indentlessItems : Nat → Build (List Node)
  | 0 => malformed
  | fuel + 1 => do
    if ← accept .blockEntry then
      let item ← if ← sees [.blockEntry, .key, .value, .blockEnd] then pure emptyNode
        else node true false fuel
      let items ← indentlessItems fuel
      pure (item :: items)
    else pure []

def blockEntries : Nat → Build (List (Node × Node))
  | 0 => malformed
  | fuel + 1 => do
    if ← accept .key then
      let k ← if ← sees [.key, .value, .blockEnd] then pure emptyNode else node true true fuel
      let v ← blockValue fuel
      let entries ← blockEntries fuel
      pure ((k, v) :: entries)
    else if ← accept .blockEnd then pure []
    else malformed

def blockValue : Nat → Build Node
  | 0 => malformed
  | fuel + 1 => do
    if ← accept .value then
      if ← sees [.key, .value, .blockEnd] then pure emptyNode else node true true fuel
    else pure emptyNode

def flowItems (first : Bool) : Nat → Build (List Node)
  | 0 => malformed
  | fuel + 1 => do
    if ← accept .flowSequenceEnd then pure []
    else
      let ready ← if first then pure true else accept .flowEntry
      if !ready then malformed
      else if ← accept .key then
        let entry ← flowPair fuel
        let items ← flowItems false fuel
        pure (.mapping none [entry] :: items)
      else if ← accept .flowSequenceEnd then pure []
      else
        let item ← node false false fuel
        let items ← flowItems false fuel
        pure (item :: items)

/-- A key with its value that stands in a flow sequence, from behind the indicator of the key. -/
def flowPair : Nat → Build (Node × Node)
  | 0 => malformed
  | fuel + 1 => do
    let ends : List Token := [.flowEntry, .flowSequenceEnd]
    if ← sees (.value :: ends) then
      advance
      let v ← flowValue ends fuel
      pure (emptyNode, v)
    else
      let k ← node false false fuel
      let v ← flowValue ends fuel
      pure (k, v)

def flowValue (ends : List Token) : Nat → Build Node
  | 0 => malformed
  | fuel + 1 => do
    if ← accept .value then
      if ← sees ends then pure emptyNode else node false false fuel
    else pure emptyNode

def flowEntries (first : Bool) : Nat → Build (List (Node × Node))
  | 0 => malformed
  | fuel + 1 => do
    let ends : List Token := [.flowEntry, .flowMappingEnd]
    if ← accept .flowMappingEnd then pure []
    else
      let ready ← if first then pure true else accept .flowEntry
      if !ready then malformed
      else if ← accept .key then
        let k ← if ← sees (.value :: ends) then pure emptyNode else node false false fuel
        let v ← flowValue ends fuel
        let entries ← flowEntries false fuel
        pure ((k, v) :: entries)
      else if ← accept .flowMappingEnd then pure []
      else
        let k ← node false false fuel
        let entries ← flowEntries false fuel
        pure ((k, emptyNode) :: entries)

end

/-- The handles that need no directive. -/
def commonHandles : List (List Char × List Char) :=
  [(['!'], ['!']), (['!', '!'], "tag:yaml.org,2002:".toList)]

def directives (versioned : Bool) : Nat → Build Unit
  | 0 => malformed
  | fuel + 1 => do
    match ← peek with
    | some (.versionDirective major minor) =>
      if versioned || major != 1 || (minor != 1 && minor != 2) then malformed
      else
        advance
        directives true fuel
    | some (.tagDirective handle lead) =>
      let s ← get
      if s.handles.any (·.1 == handle) then malformed
      else
        set { s with handles := s.handles ++ [(handle, lead)] }
        advance
        directives versioned fuel
    | _ => pure ()

/-- The root of a document behind its start. -/
def explicitRoot (fuel : Nat) : Build Node := do
  match ← peek with
  | none | some (.versionDirective _ _) | some (.tagDirective _ _) | some .documentStart
  | some .documentEnd => pure emptyNode
  | _ => node true false fuel

def document (fuel : Nat) : Build Node := do
  let before ← get
  directives false fuel
  let after ← get
  set { after with handles := after.handles ++ commonHandles }
  if ← accept .documentStart then explicitRoot fuel
  else if after.tokens.length == before.tokens.length then node true false fuel
  else malformed

/-- Passes over the marks behind a document, up to the end of the stream. -/
def streamEnd : Build Unit := do
  let s ← get
  if s.tokens.all (· == .documentEnd) then pure () else malformed

end Build

/-- The only document of a stream; an empty stream holds an empty node. -/
def document? (text : String) : Option Document := do
  let tokens ← tokens? text
  if tokens.isEmpty then some ⟨Build.emptyNode, []⟩
  else
    let fuel := 4 * tokens.length + 8
    let (root, s) ← (do
      let root ← Build.document fuel
      Build.streamEnd
      pure root : Build Node).run { tokens }
    some ⟨root, s.anchors⟩

end RowSync.Yaml
