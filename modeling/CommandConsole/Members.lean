import CommandConsole.Data

set_option autoImplicit false

/-!
The order in which a set holds its members. A set of numbers is a table of slots, and each member
stands in the first free slot of those that its hash leads to; the members are met slot by slot. An
empty text and a moment with an offset have hashes too. Members without a hash make the whole set
keep the order in which they came.
-/
namespace CommandConsole.Members

/-- The hashes of numbers are remainders by this prime. -/
def modulus : Nat :=
  Nat.pow 2 61 - 1

/-- A signed hash as an unsigned word of 64 bits; minus one is no hash and becomes minus two. -/
def word (negative : Bool) (hash : Nat) : Nat :=
  if negative && hash != 0 then Nat.pow 2 64 - max hash 2 else hash

/-- The hash of a sequence of words: each is mixed into what the ones before it have come to, and
the length in the end. -/
def sequenceHash (words : List UInt64) : UInt64 :=
  let start : UInt64 := 2870177450012600261
  let mixed := words.foldl (fun (found word : UInt64) =>
    let sum := found + word * 14029467366897019727
    ((sum <<< 31) ||| (sum >>> 33)) * 11400714785074694791) start
  let hash := mixed + (words.length.toUInt64 ^^^ start ^^^ 3527539)
  if hash + 1 = 0 then 1546275796 else hash

/-- The hash of a moment in universal time, from its days, seconds and microseconds. -/
def instantHash (day : Date) (clock : Clock) : Nat :=
  let instant := (day.ordinal : Int) * 86400000000 + clock.instant
  let seconds := instant / 1000000
  let parts := [seconds / 86400, seconds % 86400, instant % 1000000]
  (sequenceHash (parts.map fun part => part.toNat.toUInt64)).toNat

/-- The hash of data that have one; equal data have one hash. Halving a number is a rotation by the
prime's sixty-one bits. -/
def hash? : Data → Option Nat
  | .moment day clock => if clock.offset.isSome then some (instantHash day clock) else none
  | .text "" | .bytes [] => some 0
  | .boolean truth => some (if truth then 1 else 0)
  | .integer number => some (word (number < 0) (number.natAbs % modulus))
  | .real (.infinite negative) => some (word negative 314159)
  | .real (.finite negative mantissa exponent) =>
    some (word negative (mantissa * Nat.pow 2 (exponent % 61).toNat % modulus))
  | _ => none

/-- How many slots a table for some members has: a power of two, eight at least, and more than twice
as many as members when these are five or more. -/
def slotCount (members : Nat) : Nat :=
  if members < 5 then 8 else Nat.pow 2 ((2 * members).log2 + 1)

/-- How many slots after the first are tried next to it, if as many follow. -/
def neighbours : Nat := 9

/-- The first free slot that a hash leads to. Each turn tries a slot and its neighbours and then
goes on to another, into which more and more of the hash is mixed. -/
def freeSlot? (slots : Nat) (taken : List Nat) : Nat → Nat → Nat → Option Nat
  | 0, _, _ => none
  | turns + 1, slot, rest =>
    let tried := if slot + neighbours < slots then neighbours + 1 else 1
    match ((List.range tried).map (slot + ·)).find? (!taken.contains ·) with
    | some free => some free
    | none =>
      let mixed := rest / 32
      freeSlot? slots taken turns ((slot * 5 + 1 + mixed) % slots) mixed

def placed {α : Type} (slots : Nat) (members : List (α × Nat)) : List (Nat × α) :=
  members.foldl (fun table member =>
    let taken := table.map (·.1)
    match freeSlot? slots taken (slots + 16) (member.2 % slots) member.2 with
    | some slot => (slot, member.1) :: table
    | none => table) []

/-- Members in the order in which a set holds them. -/
def inOrder {α : Type} (data : α → Data) (members : List α) : List α :=
  match members.mapM fun member => (hash? (data member)).map (member, ·) with
  | none => members
  | some hashed =>
    ((placed (slotCount members.length) hashed).mergeSort fun left right =>
      left.1 ≤ right.1).map (·.2)

end CommandConsole.Members
