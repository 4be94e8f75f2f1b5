/-
  TreeShell.Tree.Problem — what can be wrong with a tree.

  `Tree.problems` goes through the nodes in their order. A key that is not normalized is
  reported once and not looked at further; any other must be listed by an existing
  parent directory, and the names that a directory lists must have nodes.
-/

import TreeShell.Tree

namespace TreeShell

inductive Tree.Problem where
  | noRoot
  | notNormalized (path : Text)
  | noParent (path parent : Text)
  | unlisted (path parent : Text)
  | noNode (path child : Text)
  deriving DecidableEq

namespace Tree

def Problem.message : Problem → Text
  | .noRoot => "root directory is missing"
  | .notNormalized path => path ++ ": path is not normalized"
  | .noParent path parent => path ++ ": parent " ++ parent ++ " is not a directory"
  | .unlisted path parent => path ++ ": not registered in " ++ parent
  | .noNode path child => path ++ ": child '" ++ child ++ "' has no node"

def rootProblems (t : Tree) : List Problem := if t.isDirectoryAt Path.root then [] else [.noRoot]

def parentProblems (t : Tree) (key : Text) : List Problem :=
  match Path.split key with
  | (none, _) => []
  | (some parent, leaf) =>
    match t.nodes.get? parent with
    | some (.directory children) => if children.contains leaf then [] else [.unlisted key parent]
    | _ => [.noParent key parent]

def childProblems (t : Tree) (key : Text) : Node → List Problem
  | .directory children =>
    (children.filter fun name => !t.nodes.contains (Path.child key name)).map (.noNode key)
  | .file _ => []

def nodeProblems (t : Tree) (key : Text) (node : Node) : List Problem :=
  if key = Path.normalize key then t.parentProblems key ++ t.childProblems key node
  else [.notNormalized key]

def problems (t : Tree) : List Problem :=
  t.rootProblems ++ t.nodes.entries.flatMap fun (key, node) => t.nodeProblems key node

end Tree

end TreeShell
