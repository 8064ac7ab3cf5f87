import CommandConsole.Yaml.Scalar
import CommandConsole.Yaml.Token

set_option autoImplicit false

/-!
The nodes of a YAML document, read from its tokens. A node knows the nodes inside it by their places
in a table, so that an alias is the place of the node that it names, also inside that node.
-/
namespace CommandConsole.Yaml

/-- What a node holds; other nodes stand by their places. -/
inductive Content
  | scalar (text : String)
  | sequence (items : List Nat)
  | mapping (pairs : List (Nat × Nat))
deriving Inhabited

structure Node where
  tag : Tag
  content : Content
deriving Inhabited

def Node.size (node : Node) : Nat :=
  match node.content with
  | .scalar _ => 0
  | .sequence items => items.length
  | .mapping pairs => pairs.length

/-- What reading has come to: the lexer, how many of its tokens have been taken, how many
collections are open, the nodes so far, the places that anchors name and the tag handles. -/
structure Reading where
  lexer : Lexer
  taken : Nat
  depth : Nat
  nodes : Array Node
  anchors : List (String × Nat)
  handles : List (String × String)

abbrev Reader (α : Type) := StateT Reading (Except Fault) α

namespace Node

def standardHandles : List (String × String) :=
  [("!", "!"), ("!!", tagPrefix)]

def peek : Reader (Option Token) := do
  let reading ← get
  let lexer ← reading.lexer.settle reading.taken (reading.lexer.cursor.rest.length + 2)
  set { reading with lexer := lexer }
  return lexer.tokens[reading.taken]?

def drop : Reader Unit :=
  modify fun reading => { reading with taken := reading.taken + 1 }

def isNext (wanted : List Token) : Reader Bool := do
  match ← peek with
  | some token => return wanted.contains token
  | none => return false

def takeIf (wanted : Token) : Reader Bool := do
  if ← isNext [wanted] then
    drop
    return true
  else return false

def expect (wanted : Token) : Reader Unit := do
  if !(← takeIf wanted) then throw .malformed

def add (node : Node) : Reader Nat := do
  let place := (← get).nodes.size
  modify fun reading => { reading with nodes := reading.nodes.push node }
  return place

def fill (place : Nat) (content : Content) : Reader Unit :=
  modify fun reading =>
    { reading with nodes := reading.nodes.modify place fun node => { node with content } }

/-- The full name of a tag. -/
def tagName (handle : Option String) (suffix : String) : Reader String := do
  match handle with
  | none => return suffix
  | some handle =>
    match (← get).handles.find? (·.1 == handle) with
    | some entry => return entry.2 ++ suffix
    | none => throw .malformed

def anchor? : Reader (Option String) := do
  match ← peek with
  | some (.anchor name) =>
    drop
    return some name
  | _ => return none

/-- A tag as it is written: its handle and what follows. -/
def tag? : Reader (Option (Option String × String)) := do
  match ← peek with
  | some (.tag handle suffix) =>
    drop
    return some (handle, suffix)
  | _ => return none

/-- The anchor and the tag before a node, in either order. -/
def properties : Reader (Option String × Option String) := do
  let (anchor, tag) ←
    match ← anchor? with
    | some name => pure (some name, ← tag?)
    | none =>
      match ← tag? with
      | some tag => pure (← anchor?, some tag)
      | none => pure (none, none)
  match tag with
  | some (handle, suffix) => return (anchor, some (← tagName handle suffix))
  | none => return (anchor, none)

def checkAnchor (anchor : Option String) : Reader Unit := do
  let reading ← get
  match anchor with
  | some name => if reading.anchors.any (·.1 == name) then throw .malformed
  | none => return

def bind (anchor : Option String) (place : Nat) : Reader Unit :=
  match anchor with
  | none => return
  | some name => modify fun reading => { reading with anchors := (name, place) :: reading.anchors }

/-- A tag that leaves the type to the form of the node. -/
def isOpenTag (tag : Option String) : Bool :=
  tag == none || tag == some "!"

def collectionTag (tag : Option String) (default : Tag) : Tag :=
  if isOpenTag tag then default else .ofName (tag.getD "")

/-- The type of a scalar: a plain one without a tag, and any with the bare tag, is resolved. -/
def scalarTag (tag : Option String) (text : String) (isPlain : Bool) : Tag :=
  match tag with
  | none => if isPlain then Scalar.plainTag text else .text
  | some "!" => Scalar.plainTag text
  | some name => .ofName name

/-- Where a node stands decides which collections may start there. -/
inductive Place
  | block
  | blockOrIndentless
  | flow
deriving DecidableEq

/-- An absent node has no text and is null. -/
def absent : Reader Nat :=
  add ⟨.null, .scalar ""⟩

def scalar (anchor tag : Option String) (text : String) (isPlain : Bool) : Reader Nat := do
  checkAnchor anchor
  let place ← add ⟨scalarTag tag text isPlain, .scalar text⟩
  bind anchor place
  return place

/-- A node of properties alone is an empty scalar. -/
def bare (anchor tag : Option String) : Reader Nat := do
  if anchor.isNone && tag.isNone then throw .malformed
  scalar anchor tag "" true

/-- How deep collections may be nested. -/
def depthLimit : Nat := 490

def inside {α : Type} (body : Reader α) : Reader α := do
  let depth := (← get).depth
  if depthLimit ≤ depth then throw .tooDeep
  modify fun reading => { reading with depth := depth + 1 }
  let result ← body
  modify fun reading => { reading with depth := depth }
  return result

/-- Reads a sequence under its anchor, which already names it inside. -/
def sequence (anchor tag : Option String) (body : Reader (List Nat)) : Reader Nat := do
  checkAnchor anchor
  let place ← add ⟨collectionTag tag .sequence, .sequence []⟩
  bind anchor place
  fill place (.sequence (← inside body))
  return place

/-- Reads a mapping under its anchor, which already names it inside. -/
def mapping (anchor tag : Option String) (body : Reader (List (Nat × Nat))) : Reader Nat := do
  checkAnchor anchor
  let place ← add ⟨collectionTag tag .mapping, .mapping []⟩
  bind anchor place
  fill place (.mapping (← inside body))
  return place

mutual

def read : Nat → Place → Reader Nat
  | 0, _ => throw .malformed
  | fuel + 1, place => do
    match ← peek with
    | some (.alias name) =>
      drop
      match (← get).anchors.find? (·.1 == name) with
      | some entry => return entry.2
      | none => throw .malformed
    | _ =>
      let (anchor, tag) ← properties
      let block := place != .flow
      match ← peek with
      | some .blockEntry =>
        if place == .blockOrIndentless then sequence anchor tag (indentless fuel)
        else bare anchor tag
      | some (.scalar text isPlain) =>
        drop
        scalar anchor tag text isPlain
      | some .flowSequenceStart =>
        drop
        sequence anchor tag (flowItems fuel true)
      | some .flowMappingStart =>
        drop
        mapping anchor tag (flowPairs fuel true)
      | some .blockSequenceStart =>
        if block then
          drop
          sequence anchor tag (blockItems fuel)
        else bare anchor tag
      | some .blockMappingStart =>
        if block then
          drop
          mapping anchor tag (blockPairs fuel)
        else bare anchor tag
      | _ => bare anchor tag

/-- A node, or an absent one before one of some tokens. -/
def readUnless : Nat → Place → List Token → Reader Nat
  | 0, _, _ => throw .malformed
  | fuel + 1, place, stops => do
    if ← isNext stops then absent else read fuel place

def blockItems : Nat → Reader (List Nat)
  | 0 => throw .malformed
  | fuel + 1 => do
    if ← takeIf .blockEntry then
      let item ← readUnless fuel .block [.blockEntry, .blockEnd]
      return item :: (← blockItems fuel)
    else
      expect .blockEnd
      return []

def indentless : Nat → Reader (List Nat)
  | 0 => throw .malformed
  | fuel + 1 => do
    if ← takeIf .blockEntry then
      let item ← readUnless fuel .block [.blockEntry, .key, .value, .blockEnd]
      return item :: (← indentless fuel)
    else return []

def blockPairs : Nat → Reader (List (Nat × Nat))
  | 0 => throw .malformed
  | fuel + 1 => do
    let stops := [Token.key, .value, .blockEnd]
    if ← takeIf .key then
      let key ← readUnless fuel .blockOrIndentless stops
      let item ←
        if ← takeIf .value then readUnless fuel .blockOrIndentless stops else absent
      return (key, item) :: (← blockPairs fuel)
    else
      expect .blockEnd
      return []

def flowItems : Nat → Bool → Reader (List Nat)
  | 0, _ => throw .malformed
  | fuel + 1, isFirst => do
    if ← takeIf .flowSequenceEnd then return []
    if !isFirst then expect .flowEntry
    if ← takeIf .key then
      let pair ← mapping none none do
        let key ← readUnless fuel .flow [.value, .flowEntry, .flowSequenceEnd]
        let item ←
          if ← takeIf .value then readUnless fuel .flow [.flowEntry, .flowSequenceEnd] else absent
        return [(key, item)]
      return pair :: (← flowItems fuel false)
    else if ← takeIf .flowSequenceEnd then return []
    else
      let item ← read fuel .flow
      return item :: (← flowItems fuel false)

def flowPairs : Nat → Bool → Reader (List (Nat × Nat))
  | 0, _ => throw .malformed
  | fuel + 1, isFirst => do
    if ← takeIf .flowMappingEnd then return []
    if !isFirst then expect .flowEntry
    if ← takeIf .key then
      let key ← readUnless fuel .flow [.value, .flowEntry, .flowMappingEnd]
      let item ←
        if ← takeIf .value then readUnless fuel .flow [.flowEntry, .flowMappingEnd] else absent
      return (key, item) :: (← flowPairs fuel false)
    else if ← takeIf .flowMappingEnd then return []
    else
      let key ← read fuel .flow
      let item ← absent
      return (key, item) :: (← flowPairs fuel false)

end

/-- Reads the directives before a document. -/
def directives (versioned : Bool) (handles : List (String × String)) :
    Nat → Reader (List (String × String))
  | 0 => throw .malformed
  | fuel + 1 => do
    match ← peek with
    | some (.version major) =>
      drop
      if versioned || major != 1 then throw .malformed
      directives true handles fuel
    | some (.handle name expansion) =>
      drop
      if handles.any (·.1 == name) then throw .malformed
      directives versioned (handles ++ [(name, expansion)]) fuel
    | some .otherDirective =>
      drop
      directives versioned handles fuel
    | _ => return handles

def dropDocumentEnds : Nat → Reader Unit
  | 0 => throw .malformed
  | fuel + 1 => do
    if ← takeIf .documentEnd then dropDocumentEnds fuel

/-- The start of a document with directives or a marker. -/
def explicitStart (fuel : Nat) : Reader Unit := do
  let handles ← directives false [] fuel
  modify fun reading => { reading with handles := handles ++ standardHandles }
  expect .documentStart

def isDirective : Token → Bool
  | .version _ | .handle _ _ | .otherDirective => true
  | _ => false

/-- The place of the node of the only document, or nothing when there is no document. What follows
the document is read up to the start of another one, which must not be there. -/
def readDocument (fuel : Nat) : Reader (Option Nat) := do
  let isExplicit := fun (token : Token) => isDirective token || token == .documentStart
  match ← peek with
  | none => return none
  | some token =>
    let node ←
      if isExplicit token then do
        explicitStart fuel
        match ← peek with
        | none => absent
        | some token =>
          if isExplicit token || token == .documentEnd then absent else read fuel .block
      else read fuel .block
    dropDocumentEnds fuel
    match ← peek with
    | none => return some node
    | some _ =>
      explicitStart fuel
      throw .malformed

end Node

/-- The nodes of a text that holds at most one document, and the place of the outermost one. A node
takes a token or stands beside one, and there are at most three tokens for a character. -/
def parse (text : String) : Except Fault (Option (Array Node × Nat)) := do
  let lexer ← Lexer.open? text
  let fuel := 16 * text.length + 64
  let (root, reading) ← (Node.readDocument fuel).run ⟨lexer, 0, 0, #[], [], Node.standardHandles⟩
  return root.map fun place => (reading.nodes, place)

end CommandConsole.Yaml
