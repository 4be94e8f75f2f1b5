/-
  TreeShell.Command — what a command word stands for.

  Builtins always win. Any other word is looked up below each directory of the search
  path in turn; the path looked up is the directory's normal form, a slash and the word
  as it was typed, so "." and ".." never name the directory itself.
-/

import TreeShell.Tree

namespace TreeShell

inductive Builtin where
  | cd
  | path
  | exit
  | ls
  | pwd
  | echo
  | env
  | mkdir
  | touch
  | cat
  | clear
  deriving DecidableEq, Repr

namespace Builtin

def all : List Builtin := [cd, path, exit, ls, pwd, echo, env, mkdir, touch, cat, clear]

def name : Builtin → Text
  | cd => "cd"
  | path => "path"
  | exit => "exit"
  | ls => "ls"
  | pwd => "pwd"
  | echo => "echo"
  | env => "env"
  | mkdir => "mkdir"
  | touch => "touch"
  | cat => "cat"
  | clear => "clear"

def names : List Text := all.map name

def ofName? (word : Text) : Option Builtin := all.find? fun b => b.name == word

end Builtin

namespace Command

inductive Reference where
  | builtin (name : Text)
  | external (name path : Text)
  deriving DecidableEq

/-- The first entry of the search path that holds `word`. -/
def locate (word : Text) (searchPath : List Text) (tree : Tree) : Option Text :=
  (searchPath.map fun dir => Path.child (Path.normalize dir) word).find? tree.nodes.contains

/-- Resolution with `builtins` as the builtin names. The empty word names nothing. -/
def resolveWith (builtins : List Text) (word : Text) (searchPath : List Text) (tree : Tree) :
    Option Reference :=
  if builtins.contains word then some (.builtin word)
  else if word = [] then none
  else (locate word searchPath tree).map (.external word)

def resolve (word : Text) (searchPath : List Text) (tree : Tree) : Option Reference :=
  resolveWith Builtin.names word searchPath tree

end Command

end TreeShell
