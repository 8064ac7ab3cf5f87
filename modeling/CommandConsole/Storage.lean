import CommandConsole.Text.Blank

set_option autoImplicit false

/-!
The files that a console can reach: a tree around a working directory. Paths are relative to it and
may leave it by its parents; absolute paths lead nowhere unless the tree has a root.
-/
namespace CommandConsole

inductive Storage.Node
  | directory
  | file (content : ByteArray)
deriving Inhabited

/-- The nodes of the tree, each under its names from the working directory or from the root. -/
structure Storage where
  nodes : List (List String × Storage.Node)

namespace Storage

/-- Why a path does not lead where it should. -/
inductive Fault
  | missing
  | taken
  | isDirectory
  | notDirectory
  | tooLong
  | nullInPath
deriving DecidableEq, Repr

def empty : Storage :=
  ⟨[]⟩

/-- The place from which absolute paths lead. -/
def root : List String :=
  ["/"]

/-- The working directory and its parents are directories. -/
def node? (storage : Storage) (place : List String) : Option Node :=
  if place.all (· == "..") then some .directory
  else (storage.nodes.find? (·.1 == place)).map (·.2)

def put (storage : Storage) (place : List String) (node : Node) : Storage :=
  ⟨(place, node) :: storage.nodes.filter (·.1 != place)⟩

def parent (place : List String) : List String :=
  if place == root then root
  else if place.all (· == "..") then place ++ [".."]
  else place.dropLast

/-- Where a path leads: to a place that must be a directory, or to a name in a directory. -/
inductive Goal
  | directory (place : List String)
  | name (place : List String) (name : String)

/-- Follows names from a directory. Every name but the last must be that of a directory. -/
def follow (storage : Storage) (place : List String) : List String → Except Fault Goal
  | [] => .ok (.directory place)
  | name :: rest =>
    if 255 < name.utf8ByteSize then .error .tooLong
    else if name == "" || name == "." then follow storage place rest
    else if name == ".." then follow storage (parent place) rest
    else if rest.isEmpty then .ok (.name place name)
    else
      match storage.node? (place ++ [name]) with
      | some .directory => follow storage (place ++ [name]) rest
      | some (.file _) => .error .notDirectory
      | none => .error .missing

/-- The names between the slashes of a path. -/
def names (path : String) : List String :=
  (Text.splitBy (· == '/') path.toList).map String.ofList

def locate (storage : Storage) (path : String) : Except Fault Goal :=
  if path.toList.contains '\x00' then .error .nullInPath
  else if path.isEmpty then .error .missing
  else if 4096 ≤ path.utf8ByteSize then .error .tooLong
  else if path.toList.head? == some '/' then
    if (storage.node? root).isSome then storage.follow root (names path)
    else .error .missing
  else storage.follow [] (names path)

def read (storage : Storage) (path : String) : Except Fault ByteArray := do
  match ← storage.locate path with
  | .directory _ => throw .isDirectory
  | .name place name =>
    match storage.node? (place ++ [name]) with
    | some (.file content) => return content
    | some .directory => throw .isDirectory
    | none => throw .missing

/-- Puts content into the file that a path leads to, which is made if it is not there. -/
def write (storage : Storage) (path : String) (content : ByteArray) : Except Fault Storage := do
  match ← storage.locate path with
  | .directory _ => throw .isDirectory
  | .name place name =>
    match storage.node? (place ++ [name]) with
    | some .directory => throw .isDirectory
    | _ => return storage.put (place ++ [name]) (.file content)

/-- A path without the slashes after its last name. -/
def trimmed (path : String) : String :=
  let names := (path.toList.reverse.dropWhile (· == '/')).reverse
  if names.isEmpty then path else String.ofList names

/-- Makes a directory where a path leads, which must be a name that nothing has. -/
def makeDirectory (storage : Storage) (path : String) : Except Fault Storage := do
  match ← storage.locate (trimmed path) with
  | .directory _ => throw .taken
  | .name place name =>
    if (storage.node? (place ++ [name])).isSome then throw .taken
    else return storage.put (place ++ [name]) .directory

def pathTo (place : List String) : String :=
  match place with
  | "/" :: names => "/" ++ "/".intercalate names
  | names => "/".intercalate names

/-- A name below a directory; an absolute name stands for itself. -/
def join (directory name : String) : String :=
  if name.toList.head? == some '/' then name
  else if directory.isEmpty || directory.toList.getLast? == some '/' then directory ++ name
  else directory ++ "/" ++ name

end Storage

end CommandConsole
