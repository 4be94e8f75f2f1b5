/-
  TreeShell.Tree.Schema — trees and nodes as JSON.

  A node is an object whose `node_type` tells its kind; what a node lacks is empty. A
  snapshot written by `Node.toJson` is read back by `Node.read`.
-/

import TreeShell.Schema
import TreeShell.Tree

namespace TreeShell

open Schema

def Node.fields : Node → List (Text × Json)
  | .directory children => [("node_type", .str "directory"), ("children", Json.texts children)]
  | .file content => [("node_type", .str "file"), ("content", .str content)]

def Node.toJson (node : Node) : Json := .obj node.fields

/-- The fields of a node of the given kind; their problems are located below its name. -/
def Node.readFields (kind : Kind) (fields : List (Text × Json)) : Checked Node :=
  Checked.under (.key kind.name) <|
    match kind with
    | .directory => Node.directory <$> fieldD fields "children" (list text) []
    | .file => Node.file <$> fieldD fields "content" text []

def Node.read : Reading Node
  | x@(.obj fields) =>
    match Json.get? fields "node_type" with
    | none => Checked.fault (.untagged "node_type") x
    | some tag =>
      let unknown := Checked.fault (.unknownTag "node_type" tag ["directory", "file"]) x
      match tag with
      | .str name =>
        if name = Kind.directory.name then Node.readFields .directory fields
        else if name = Kind.file.name then Node.readFields .file fields
        else unknown
      | _ => unknown
  | x => Checked.fault .notRecord x

/-- A tree from pairs of key and node, none left out and nothing added. Of several pairs
    with one key the last counts, at the first one's place. -/
def Tree.ofPairs (pairs : List (Text × Json)) : Checked Tree :=
  (fun nodes => ⟨OrderedMap.ofList nodes⟩) <$>
    Checked.under (.key "nodes") (entries Node.read (OrderedMap.ofList pairs).entries)

end TreeShell
