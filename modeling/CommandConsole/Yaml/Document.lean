import CommandConsole.Datum
import CommandConsole.Members
import CommandConsole.Yaml.Node

set_option autoImplicit false

/-!
The data that the nodes of a YAML document denote. Each node becomes one cell of a graph, so that
aliases share it. A collection is filled after everything around it: first the outermost one, then
in rounds those that the round before has met, in order.
-/
namespace CommandConsole.Yaml

/-- What building has come to: the nodes, whose merged pairs are put in place on the way, the cells
of those that have one, the first place of the word for the undefined number, and the collections
that are to be filled, the latest first. Cells beyond the nodes are pairs. -/
structure Building where
  nodes : Array Node
  cells : Array (Option Cell)
  undefined : Option Nat
  waiting : List Nat

/-- The datum of a leaf's cell; any other cell counts as null. -/
def Building.leaf (building : Building) (place : Nat) : Data :=
  match building.cells.getD place none with
  | some (.leaf data) => data
  | _ => .null

abbrev Builder (α : Type) := StateT Building (Except Fault) α

namespace Builder

def node (place : Nat) : Builder Node := do
  return (← get).nodes.getD place default

def put (place : Nat) (cell : Cell) : Builder Unit :=
  modify fun building => { building with cells := building.cells.setIfInBounds place (some cell) }

def setPairs (place : Nat) (pairs : List (Nat × Nat)) : Builder Unit :=
  modify fun building =>
    { building with nodes := building.nodes.modify place fun node =>
        { node with content := .mapping pairs } }

/-- Makes a key that only stands for itself an ordinary text. -/
def makeOrdinary (place : Nat) : Builder Unit :=
  modify fun building =>
    { building with nodes := building.nodes.modify place fun node =>
        if node.tag = .standIn then { node with tag := .text } else node }

def pairs (place : Nat) : Builder (List (Nat × Nat)) := do
  match (← node place).content with
  | .mapping pairs => return pairs
  | _ => throw .malformed

/-- The first pair whose key merges, with the pairs before and after it. -/
def findMerge (nodes : Array Node) :
    List (Nat × Nat) → Option (List (Nat × Nat) × Nat × List (Nat × Nat))
  | [] => none
  | (key, item) :: rest =>
    if (nodes.getD key default).tag = .merge then some ([], item, rest)
    else
      match findMerge nodes rest with
      | some (before, found, after) => some ((key, item) :: before, found, after)
      | none => none

/-- Replaces the merging pairs of a mapping by the pairs that they merge, which come first. Merging
may come back to the same mapping, which by then has one merging pair less; that bounds the fuel. -/
def merge : Nat → Nat → List (Nat × Nat) → Builder Unit
  | 0, _, _ => throw .malformed
  | fuel + 1, place, merged => do
    let present ← pairs place
    match findMerge (← get).nodes present with
    | none =>
      present.forM fun pair => makeOrdinary pair.1
      setPairs place (merged ++ present)
    | some (before, item, after) =>
      setPairs place (before ++ after)
      match (← node item).content with
      | .mapping _ =>
        merge fuel item []
        merge fuel place (merged ++ (← pairs item))
      | .sequence items =>
        let parts ← items.mapM fun part => do
          let _ ← pairs part
          merge fuel part []
          pairs part
        merge fuel place (merged ++ parts.reverse.flatten)
      | .scalar _ => throw .malformed

/-- The text of a node that a scalar is wanted of: a mapping gives that of its key `=`. A path
longer than the table has come back to a node. -/
def scalarText : Nat → Nat → Builder String
  | 0, _ => throw .tooDeep
  | fuel + 1, place => do
    match (← node place).content with
    | .scalar text => return text
    | .mapping pairs =>
      let nodes := (← get).nodes
      match pairs.find? fun pair => (nodes.getD pair.1 default).tag = .standIn with
      | some pair => scalarText fuel pair.2
      | none => throw .malformed
    | .sequence _ => throw .malformed

/-- The undefined number that a word denotes. It is one number wherever the word stands, so it bears
the first place as its mark. -/
def undefinedNumber (place : Nat) : Builder Data := do
  let first := (← get).undefined.getD place
  modify fun building => { building with undefined := some first }
  return .marked first (.real .undefined)

/-- The datum of a node under the type of a scalar. A timestamp must be a scalar itself. -/
def scalar (place : Nat) (tag : Tag) : Builder Data := do
  let text ← scalarText ((← get).nodes.size + 1) place
  if tag = .real && Scalar.isUndefinedWord text then undefinedNumber place
  else
    match (← node place).content with
    | .scalar _ => Scalar.data tag text
    | _ => if tag = .timestamp then throw .noText else Scalar.data tag text

/-- Gives a node its cell, unless it has one. A collection is empty until it is filled. -/
def build (place : Nat) : Builder Unit := do
  let wait := modify fun building => { building with waiting := place :: building.waiting }
  if ((← get).cells.getD place none).isSome then return
  match (← node place).tag with
  | .sequence | .orderedPairs => do
    put place (.list [])
    wait
  | .mapping => do
    put place (.mapping [])
    wait
  | .set => do
    put place (.set [])
    wait
  | .merge | .standIn | .unknown => throw .malformed
  | tag => put place (.leaf (← scalar place tag))

def isSameKey (building : Building) (left right : Nat) : Bool :=
  left == right ||
    match building.cells.getD left none, building.cells.getD right none with
    | some (.leaf first), some (.leaf second) => Data.same first second
    | _, _ => false

/-- Puts a pair of cells into a mapping: a known key keeps its place and its first spelling. -/
def insertPair (building : Building) (key item : Nat) : List (Nat × Nat) → List (Nat × Nat)
  | [] => [(key, item)]
  | (known, old) :: rest =>
    if isSameKey building known key then (known, item) :: rest
    else (known, old) :: insertPair building key item rest

/-- The pairs of a mapping, the last item under each key; only a leaf is a key. -/
def mappingPairs (place : Nat) : Builder (List (Nat × Nat)) := do
  let entries := (← get).nodes.foldl (fun count node => count + node.size) 1
  let _ ← pairs place
  merge entries place []
  (← pairs place).foldlM (fun known pair => do
    build pair.1
    match (← get).cells.getD pair.1 none with
    | some (.leaf _) =>
      build pair.2
      return insertPair (← get) pair.1 pair.2 known
    | _ => throw .malformed) []

/-- One pair of an ordered list of pairs, as a cell of its own. -/
def orderedPair (place : Nat) : Builder Nat := do
  match ← pairs place with
  | [(key, item)] =>
    build key
    build item
    let building ← get
    set { building with cells := building.cells.push (some (.tuple [key, item])) }
    return building.cells.size
  | _ => throw .malformed

/-- Fills the cell of a collection. -/
def fill (place : Nat) : Builder Unit := do
  let present ← node place
  match present.tag, present.content with
  | .sequence, .sequence items =>
    items.forM build
    put place (.list items)
  | .orderedPairs, .sequence items => put place (.list (← items.mapM orderedPair))
  | .mapping, _ => put place (.mapping (← mappingPairs place))
  | .set, _ =>
    let members := (← mappingPairs place).map (·.1)
    let building ← get
    put place (.set (Members.inOrder building.leaf members))
  | _, _ => throw .malformed

/-- Fills the collections that wait, round by round. Each node waits once, which bounds the
fuel. -/
def fillAll : Nat → Builder Unit
  | 0 => throw .malformed
  | fuel + 1 => do
    let building ← get
    if building.waiting.isEmpty then return
    set { building with waiting := [] }
    building.waiting.reverse.forM fill
    fillAll fuel

end Builder

/-- The datum of a text that holds at most one document; no document is null. -/
def load (text : String) : Except Fault Datum := do
  match ← parse text with
  | none => return .ofData .null
  | some (nodes, root) =>
    let ((), building) ←
      (do
        Builder.build root
        Builder.fillAll (nodes.size + 1) : Builder Unit).run
        ⟨nodes, nodes.map fun _ => none, none, []⟩
    return ⟨building.cells.map (·.getD (.leaf .null)), root⟩

end CommandConsole.Yaml
