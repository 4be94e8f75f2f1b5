/-
  TreeShell.Proofs.Tree.Seed — seeding a tree with directories.

  Where there are no files nothing is in the way of a directory: making directories with
  their ancestors raises no error, adds no file, and leaves each of them a directory
  (`ensureAll_noFiles`).
-/

import TreeShell.Proofs.Tree.Change

namespace TreeShell.Tree

open TreeShell.Path

def NoFiles (t : Tree) : Prop := ∀ key content, t.nodes.get? key ≠ some (.file content)

theorem noFiles_bare : bare.NoFiles := by
  intro key content
  rw [get?_bare]
  split <;> simp

theorem NoFiles.hang {t : Tree} (h : t.NoFiles) (dir name : Text) (children : List Text) :
    (t.hang dir name children (.directory [])).NoFiles := by
  intro key content
  rw [get?_hang]
  split
  · simp
  · split
    · simp
    · exact h key content

theorem ensureBelow_noFiles {names : List Text} {t : Tree} (ht : t.NoFiles) {dir : Text} (hd : IsNormal dir)
    (hdir : t.isDirectoryAt dir = true) (hn : ∀ n ∈ names, IsName n) :
    (t.ensureBelow (stem dir) names).2 = none ∧ (t.ensureBelow (stem dir) names).1.tree.NoFiles ∧
      (t.ensureBelow (stem dir) names).1.tree.isDirectoryAt (names.foldl child dir) = true := by
  induction names generalizing t dir with
  | nil => exact ⟨rfl, ht, hdir⟩
  | cons name names ih =>
    obtain ⟨hname, hrest⟩ := List.forall_mem_cons.mp hn
    have hchild : IsNormal (child dir name) := isNormal_child hd hname
    obtain ⟨children, hchildren⟩ := isDirectoryAt_iff.mp hdir
    rw [List.foldl_cons]
    cases hc : t.nodes.get? (child dir name) with
    | none =>
      have hhung : t.Hung (child dir name) (.directory []) (t.hang dir name children (.directory [])) :=
        .below dir name children hd hname rfl hchildren hc
      rw [ensureBelow_missing hd hname hchildren hc]
      exact ih (ht.hang dir name children) hchild (isDirectoryAt_iff.mpr ⟨[], hhung.get?_self⟩) hrest
    | some node =>
      cases node with
      | file content => exact absurd hc (ht _ content)
      | directory below =>
        have hthere : t.isDirectoryAt (child dir name) = true := isDirectoryAt_iff.mpr ⟨below, hc⟩
        rw [ensureBelow_directory hname hthere]
        exact ih ht hchild hthere hrest

theorem ensureDirectory_noFiles {t : Tree} (ht : t.NoFiles) (hroot : t.isDirectoryAt root = true) (path : Text) :
    (t.ensureDirectory path).2 = none ∧ (t.ensureDirectory path).1.tree.NoFiles ∧
      (t.ensureDirectory path).1.tree.isDirectoryAt (normalize path) = true := by
  have hn : ∀ n ∈ segments path, IsName n := fun _ => isName_of_mem_segments
  have h := ensureBelow_noFiles ht isNormal_root hroot hn
  rwa [stem_root, foldl_child_root] at h

theorem ensureAll_noFiles {t : Tree} (ht : t.NoFiles) (hroot : t.isDirectoryAt root = true) (paths : List Text) :
    (t.ensureAll paths).2 = none ∧
      ∀ path ∈ paths, (t.ensureAll paths).1.tree.isDirectoryAt (normalize path) = true := by
  induction paths generalizing t with
  | nil => exact ⟨rfl, by simp⟩
  | cons path paths ih =>
    obtain ⟨hnone, hno, hpath⟩ := ensureDirectory_noFiles ht hroot path
    have hchanges := ensureDirectory_changes t path
    unfold ensureAll
    split
    · rename_i grown e he
      rw [he] at hnone; cases hnone
    · rename_i grown he
      rw [he] at hno hpath hchanges
      obtain ⟨hrest, hall⟩ := ih hno (hchanges.isDirectoryAt hroot)
      refine ⟨hrest, fun p hp => ?_⟩
      rcases List.mem_cons.mp hp with rfl | hp
      · exact (ensureAll_changes grown.tree paths).isDirectoryAt hpath
      · exact hall p hp

/-- Seeding raises no error. -/
theorem ensureAll_bare_none (paths : List Text) : (bare.ensureAll paths).2 = none :=
  (ensureAll_noFiles noFiles_bare rfl paths).1

theorem isDirectoryAt_seeded {path : Text} {paths : List Text} (h : path ∈ paths) :
    (seeded paths).isDirectoryAt (normalize path) = true :=
  (ensureAll_noFiles noFiles_bare rfl paths).2 path h

end TreeShell.Tree
