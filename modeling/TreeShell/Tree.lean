/-
  TreeShell.Tree — the in-memory tree of directories and files.

  All nodes live in one map from absolute path to node; a directory records only the
  names of its children, in order of creation. Any such map is a `Tree`. Those that hang
  together (every node listed by its parent, every listed name present) are the ones
  without `Tree.problems`; the operations below also answer on the others.

  Lookups and operations normalize the path they are given; `nodes.get?` reads a key as
  it stands. A created node goes to the end of the map and of its parent's names, and
  is reported as a `Creation`.
-/

import TreeShell.OrderedMap
import TreeShell.Path

namespace TreeShell

inductive Kind where
  | directory
  | file
  deriving DecidableEq, Repr

inductive Node where
  | directory (children : List Text)
  | file (content : Text)
  deriving DecidableEq

def Node.kind : Node → Kind
  | .directory _ => .directory
  | .file _ => .file

def Kind.name : Kind → Text
  | .directory => "directory"
  | .file => "file"

structure Tree where
  nodes : OrderedMap Text Node
  deriving DecidableEq

structure Creation where
  kind : Kind
  path : Text
  deriving DecidableEq

/-! ## Errors -/

inductive PathError.Reason where
  | notADirectory
  | noSuchFile
  | alreadyExists
  | isADirectory
  | isRoot
  | parentNotADirectory (parent : Text)
  deriving DecidableEq

structure PathError where
  path : Text
  reason : PathError.Reason
  deriving DecidableEq

def PathError.Reason.message : PathError.Reason → Text
  | .notADirectory => "not a directory"
  | .noSuchFile => "no such file"
  | .alreadyExists => "already exists"
  | .isADirectory => "is a directory"
  | .isRoot => "cannot replace the root directory"
  | .parentNotADirectory parent => "parent " ++ parent ++ " is not a directory"

def PathError.message (e : PathError) : Text := e.path ++ ": " ++ e.reason.message

namespace Tree

/-- The tree of the root directory alone. -/
def bare : Tree := ⟨OrderedMap.empty.insert Path.root (.directory [])⟩

/-! ## Lookup -/

def node? (t : Tree) (path : Text) : Option Node := t.nodes.get? (Path.normalize path)

def isDirectoryAt (t : Tree) (key : Text) : Bool :=
  match t.nodes.get? key with
  | some (.directory _) => true
  | _ => false

def «exists» (t : Tree) (path : Text) : Bool := (t.node? path).isSome

def isDirectory (t : Tree) (path : Text) : Bool := t.isDirectoryAt (Path.normalize path)

def isFile (t : Tree) (path : Text) : Bool :=
  match t.node? path with
  | some (.file _) => true
  | _ => false

/-- The children of a directory in order of creation, each with whether it is a
    directory itself. A recorded name without a node counts as none. -/
def list (t : Tree) (path : Text) : Except PathError (List (Text × Bool)) :=
  let key := Path.normalize path
  match t.nodes.get? key with
  | some (.directory children) =>
    .ok (children.map fun name => (name, t.isDirectoryAt (Path.child key name)))
  | _ => .error ⟨key, .notADirectory⟩

def read (t : Tree) (path : Text) : Except PathError Text :=
  let key := Path.normalize path
  match t.nodes.get? key with
  | some (.file content) => .ok content
  | _ => .error ⟨key, .noSuchFile⟩

/-! ## Change -/

/-- A tree after an operation and the nodes that the operation made, in order. An operation
    gives both also where it fails: what it did before the error stays. -/
structure Grown where
  tree : Tree
  created : List Creation

/-- Adds a node at a normalized key and its leaf to the parent's names. -/
def attach (t : Tree) (key : Text) (node : Node) : Grown × Option PathError :=
  match Path.split key with
  | (none, _) => (⟨t, []⟩, some ⟨key, .isRoot⟩)
  | (some parent, leaf) =>
    match t.nodes.get? parent with
    | some (.directory children) =>
      let names := if children.contains leaf then children else children ++ [leaf]
      (⟨⟨(t.nodes.insert key node).insert parent (.directory names)⟩, [⟨node.kind, key⟩]⟩, none)
    | _ => (⟨t, []⟩, some ⟨key, .parentNotADirectory parent⟩)

def createDirectory (t : Tree) (path : Text) : Grown × Option PathError :=
  let key := Path.normalize path
  if t.nodes.contains key then (⟨t, []⟩, some ⟨key, .alreadyExists⟩)
  else t.attach key (.directory [])

/-- An existing file keeps its place and gets the new content. -/
def createFile (t : Tree) (path content : Text) : Grown × Option PathError :=
  let key := Path.normalize path
  match t.nodes.get? key with
  | some (.directory _) => (⟨t, []⟩, some ⟨key, .isADirectory⟩)
  | some (.file _) => (⟨⟨t.nodes.insert key (.file content)⟩, []⟩, none)
  | none => t.attach key (.file content)

/-- Walks down `names` from the key `above`, making the missing directories. -/
def ensureBelow (t : Tree) (above : Text) : List Text → Grown × Option PathError
  | [] => (⟨t, []⟩, none)
  | name :: names =>
    let key := above ++ '/' :: name
    match t.nodes.get? key with
    | some (.directory _) => t.ensureBelow key names
    | some (.file _) => (⟨t, []⟩, some ⟨key, .notADirectory⟩)
    | none =>
      match t.attach key (.directory []) with
      | (grown, some e) => (grown, some e)
      | (grown, none) =>
        let (further, e) := grown.tree.ensureBelow key names
        (⟨further.tree, grown.created ++ further.created⟩, e)

/-- Makes the directory at `path` and its missing ancestors. -/
def ensureDirectory (t : Tree) (path : Text) : Grown × Option PathError :=
  t.ensureBelow [] (Path.segments path)

/-- Ensures the directories one after another, up to the first error. -/
def ensureAll (t : Tree) : List Text → Grown × Option PathError
  | [] => (⟨t, []⟩, none)
  | path :: paths =>
    match t.ensureDirectory path with
    | (grown, some e) => (grown, some e)
    | (grown, none) =>
      let (further, e) := grown.tree.ensureAll paths
      (⟨further.tree, grown.created ++ further.created⟩, e)

/-- The root and the given directories with their ancestors. -/
def seeded (directories : List Text) : Tree := (bare.ensureAll directories).1.tree

/-! ### Raw edits: the key as given, the parent not told -/

def put (t : Tree) (key : Text) (node : Node) : Tree := ⟨t.nodes.insert key node⟩

def delete (t : Tree) (key : Text) : Tree := ⟨t.nodes.erase key⟩

/-! ## Views -/

/-- Every node with its key, ascending by code point. -/
def snapshot (t : Tree) : List (Text × Node) :=
  t.nodes.entries.mergeSort fun a b => Text.le a.1 b.1

def counted (n : Nat) (one many : Text) : Text := Text.ofNat n ++ ' ' :: (if n = 1 then one else many)

def summary (t : Tree) : Text :=
  let directories := t.nodes.entries.countP fun e => decide (e.2.kind = .directory)
  counted directories "directory" "directories" ++ ", " ++
    counted (t.nodes.size - directories) "file" "files"

end Tree

end TreeShell
