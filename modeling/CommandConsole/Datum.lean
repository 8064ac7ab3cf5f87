import CommandConsole.Data

set_option autoImplicit false

/-!
Data that share parts and may hold themselves: cells of a graph that refer to each other by their
places. A datum is one place of a graph. Its data are what is seen from there, where each part that
may be met again bears the place of its cell as its mark.
-/
namespace CommandConsole

/-- One cell of a graph; a leaf holds no other data. -/
inductive Cell
  | leaf (data : Data)
  | list (items : List Nat)
  | tuple (items : List Nat)
  | mapping (pairs : List (Nat × Nat))
  | set (items : List Nat)
deriving Inhabited

abbrev Graph := Array Cell

structure Datum where
  graph : Graph
  place : Nat

namespace Graph

/-- What stands at a place; there is nothing outside a graph. -/
def cell (graph : Graph) (place : Nat) : Cell :=
  graph.getD place (.leaf .null)

/-- The data seen from a place. A collection on the path to the place is not entered again, so the
path never grows longer than the graph, which bounds the fuel. -/
def unfold (graph : Graph) : Nat → List Nat → Nat → Data
  | 0, _, _ => .null
  | fuel + 1, path, place =>
    let inner := unfold graph fuel (place :: path)
    let isOpen := path.contains place
    match graph.cell place with
    | .leaf (.date day) => .marked place (.date day)
    | .leaf (.moment day clock) => .marked place (.moment day clock)
    | .leaf (.real .undefined) => .marked place (.real .undefined)
    | .leaf data => data
    | .tuple items => .tuple (items.map inner)
    | .list items => if isOpen then .again place false else .marked place (.list (items.map inner))
    | .set items => if isOpen then .again place false else .marked place (.set (items.map inner))
    | .mapping pairs =>
      if isOpen then .again place true
      else .marked place (.mapping (pairs.map fun pair => (inner pair.1, inner pair.2)))

mutual

/-- Adds the cells of a datum and answers the place of its own. -/
def add (graph : Graph) : Data → Graph × Nat
  | .list items =>
    let added := addAll graph items
    (added.1.push (.list added.2), added.1.size)
  | .tuple items =>
    let added := addAll graph items
    (added.1.push (.tuple added.2), added.1.size)
  | .set items =>
    let added := addAll graph items
    (added.1.push (.set added.2), added.1.size)
  | .mapping pairs =>
    let added := addPairs graph pairs
    (added.1.push (.mapping added.2), added.1.size)
  | .marked _ content => add graph content
  | data => (graph.push (.leaf data), graph.size)

def addAll (graph : Graph) : List Data → Graph × List Nat
  | [] => (graph, [])
  | item :: rest =>
    let first := add graph item
    let others := addAll first.1 rest
    (others.1, first.2 :: others.2)

def addPairs (graph : Graph) : List (Data × Data) → Graph × List (Nat × Nat)
  | [] => (graph, [])
  | (key, item) :: rest =>
    let first := add graph key
    let second := add first.1 item
    let others := addPairs second.1 rest
    (others.1, (first.2, second.2) :: others.2)

end

end Graph

namespace Datum

def ofData (data : Data) : Datum :=
  let added := Graph.add #[] data
  ⟨added.1, added.2⟩

def cell (datum : Datum) : Cell :=
  datum.graph.cell datum.place

def data (datum : Datum) : Data :=
  datum.graph.unfold (datum.graph.size + 1) [] datum.place

def isPresent (datum : Datum) : Bool :=
  match datum.cell with
  | .leaf data => data.isPresent
  | .list items | .tuple items | .set items => !items.isEmpty
  | .mapping pairs => !pairs.isEmpty

/-- The items that going through a datum yields, unless it has none to yield. -/
def elements? (datum : Datum) : Option (List Datum) :=
  let inside := fun (place : Nat) => (⟨datum.graph, place⟩ : Datum)
  match datum.cell with
  | .list items | .tuple items | .set items => some (items.map inside)
  | .mapping pairs => some (pairs.map fun pair => inside pair.1)
  | .leaf (.text content) =>
    some (content.toList.map fun char => ofData (.text (String.ofList [char])))
  | .leaf (.bytes content) => some (content.map fun byte => ofData (.integer byte.toNat))
  | .leaf _ => none

def pairs? (datum : Datum) : Option (List (Datum × Datum)) :=
  match datum.cell with
  | .mapping pairs =>
    some (pairs.map fun pair => (⟨datum.graph, pair.1⟩, ⟨datum.graph, pair.2⟩))
  | _ => none

def isText (datum : Datum) (content : String) : Bool :=
  match datum.cell with
  | .leaf (.text found) => found == content
  | _ => false

def lookup? (name : String) (pairs : List (Datum × Datum)) : Option Datum :=
  (pairs.find? fun pair => pair.1.isText name).map (·.2)

end Datum

end CommandConsole
