/-
  TreeShell.Path — slash-separated paths: normal forms, resolution against a directory,
  and the split into parent and leaf.

  A path is absolute or read from the root; "." and ".." are ordinary names. The normal
  form has one slash before each segment and none after the last (`segments_normalize`,
  `normalize_normalize`).
-/

import TreeShell.Text

namespace TreeShell.Path

open Text

def root : Text := ['/']

/-! ## Normal form -/

/-- The non-empty names between the slashes. -/
def segments (path : Text) : List Text := (splitOn '/' path).filter (· ≠ [])

def ofSegments (names : List Text) : Text := '/' :: join ['/'] names

def normalize (path : Text) : Text := ofSegments (segments path)

def isAbsolute (path : Text) : Bool := path.head? == some '/'

/-- A name that can stand between two slashes. -/
def IsName (name : Text) : Prop := name ≠ [] ∧ '/' ∉ name

theorem isName_of_mem_segments {path name : Text} (h : name ∈ segments path) : IsName name := by
  simp only [segments, List.mem_filter, decide_eq_true_eq] at h
  exact ⟨h.2, not_mem_of_mem_splitOn h.1⟩

theorem segments_ofSegments {names : List Text} (h : ∀ name ∈ names, IsName name) :
    segments (ofSegments names) = names := by
  cases names with
  | nil => decide
  | cons name rest =>
    have hs : splitOn '/' (join ['/'] (name :: rest)) = name :: rest :=
      splitOn_join (by simp) fun n hn => (h n hn).2
    have hf : (name :: rest).filter (· ≠ []) = name :: rest :=
      List.filter_eq_self.2 fun n hn => by simpa using (h n hn).1
    simp only [segments, ofSegments, splitOn, if_true, hs]
    rw [List.filter_cons]
    simpa using hf

theorem segments_normalize (path : Text) : segments (normalize path) = segments path :=
  segments_ofSegments fun _ => isName_of_mem_segments

theorem normalize_normalize (path : Text) : normalize (normalize path) = normalize path :=
  congrArg ofSegments (segments_normalize path)

/-! ## Against a directory -/

/-- `target` as a normalized absolute path, read from `cwd` when it is relative. -/
def resolve (target cwd : Text) : Text :=
  if isAbsolute target then normalize target else normalize (cwd ++ '/' :: target)

/-- The path without its trailing slashes; empty for the root. -/
def stem (path : Text) : Text := dropEndWhile (· == '/') path

/-- The path of `name` in the directory at `path`. -/
def child (path name : Text) : Text := stem path ++ '/' :: name

/-- Parent and leaf, cut at the last slash. The root has no parent and an empty leaf; a
    text without a slash hangs below the root. -/
def split (path : Text) : Option Text × Text :=
  if path = root then (none, [])
  else
    let leaf := (path.reverse.takeWhile (· != '/')).reverse
    let parent := ((path.reverse.dropWhile (· != '/')).drop 1).reverse
    (some (if parent = [] then root else parent), leaf)

end TreeShell.Path
