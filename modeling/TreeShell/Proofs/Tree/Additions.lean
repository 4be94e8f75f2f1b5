/-
  TreeShell.Proofs.Tree.Additions — the nodes that a tree has got.

  One tree adds creations to another (`Adds`) if their paths stand behind the old keys, in
  their order, with the kind of node that each names, and else the tree has only grown.
  Making a directory adds the one creation that it reports, making a file that or none
  (`createDirectory_adds`, `createFile_nil_adds`), and additions follow one another
  (`Adds.trans`): a node made earlier keeps its place and its kind.

  Main statement: the creations are the entries behind the old ones, with their kinds
  (`Adds.drop_entries`).
-/

import TreeShell.Proofs.Tree.Growth

namespace TreeShell.Tree

open TreeShell.Path

structure Adds (t : Tree) (created : List Creation) (u : Tree) : Prop where
  grows : t.Grows u
  keys : u.nodes.keys = t.nodes.keys ++ created.map Creation.path
  kind : ∀ c ∈ created, ∃ node, u.nodes.get? c.path = some node ∧ node.kind = c.kind

theorem Adds.refl (t : Tree) : t.Adds [] t where
  grows := .refl t
  keys := (List.append_nil _).symm
  kind _ hc := absurd hc List.not_mem_nil

theorem Adds.trans {t u v : Tree} {first later : List Creation} (h : t.Adds first u) (h' : u.Adds later v) :
    t.Adds (first ++ later) v where
  grows := h.grows.trans h'.grows
  keys := by rw [h'.keys, h.keys, List.map_append, List.append_assoc]
  kind := by
    intro c hc
    rcases List.mem_append.mp hc with hfirst | hlater
    · obtain ⟨node, hnode, hkind⟩ := h.kind c hfirst
      obtain ⟨node', hnode', hsame⟩ := h'.grows.kind hnode
      exact ⟨node', hnode', hsame.trans hkind⟩
    · exact h'.kind c hlater

/-! ## Creations as additions -/

theorem Hung.keys {t u : Tree} {key : Text} {node : Node} (h : t.Hung key node u) :
    u.nodes.keys = t.nodes.keys ++ [key] := by
  cases h with
  | below dir name children hd hn hkey hdir hfresh =>
    subst hkey
    exact keys_hang hdir hfresh

theorem Hung.adds {t u : Tree} {key : Text} {node : Node} (h : t.Hung key node u) (hgrows : t.Grows u) :
    t.Adds [⟨node.kind, key⟩] u where
  grows := hgrows
  keys := h.keys
  kind c hc := by
    obtain rfl := List.mem_singleton.mp hc
    exact ⟨node, h.get?_self, rfl⟩

theorem attach_created {t : Tree} {key : Text} {node : Node} {grown : Grown}
    (h : t.attach key node = (grown, none)) : grown.created = [⟨node.kind, key⟩] := by
  unfold attach at h
  split at h
  · cases h
  · split at h
    · cases h; rfl
    · cases h

section

variable {t : Tree} {path : Text} {grown : Grown}

theorem createDirectory_adds (h : t.createDirectory path = (grown, none)) : t.Adds grown.created grown.tree := by
  have hcreated : grown.created = [⟨.directory, normalize path⟩] := by
    unfold createDirectory at h
    simp only at h
    split at h
    · cases h
    · exact attach_created h
  rw [hcreated]
  exact (createDirectory_hung h).adds (createDirectory_grows h)

/-- An existing file is no addition. -/
theorem createFile_nil_adds (h : t.createFile path [] = (grown, none)) : t.Adds grown.created grown.tree := by
  have hgrows := createFile_nil_grows h
  unfold createFile at h
  simp only at h
  split at h
  · cases h
  · rename_i old hold
    cases h
    refine ⟨hgrows, ?_, fun _ hc => absurd hc List.not_mem_nil⟩
    rw [List.map_nil, List.append_nil]
    exact keys_put hold
  · rename_i hfresh
    rw [attach_created h]
    exact (attach_hung (isNormal_normalize path) hfresh h).adds hgrows

end

/-! ## Additions as entries -/

theorem map_creation_eq {entries : List (Text × Node)} {created : List Creation}
    (hpaths : entries.map Prod.fst = created.map Creation.path)
    (hkinds : ∀ e ∈ entries, ∀ c ∈ created, e.1 = c.path → e.2.kind = c.kind) :
    entries.map (fun e => (⟨e.2.kind, e.1⟩ : Creation)) = created := by
  induction entries generalizing created with
  | nil => exact (List.map_eq_nil_iff.mp hpaths.symm).symm
  | cons e entries ih =>
    cases created with
    | nil => cases hpaths
    | cons c created =>
      obtain ⟨hpath, hrest⟩ := List.cons.inj hpaths
      have htail := ih hrest fun d hd b hb => hkinds d (List.mem_cons_of_mem _ hd) b (List.mem_cons_of_mem _ hb)
      have hkind := hkinds e (List.mem_cons_self ..) c (List.mem_cons_self ..) hpath
      rw [List.map_cons, htail, hkind, hpath]

/-- A tree has one node at a key, so an entry and a creation of one path are of one kind. -/
theorem Adds.drop_entries {t u : Tree} {created : List Creation} (h : t.Adds created u) :
    (u.nodes.entries.drop t.nodes.size).map (fun e => (⟨e.2.kind, e.1⟩ : Creation)) = created := by
  have hpaths : (u.nodes.entries.drop t.nodes.size).map Prod.fst = created.map Creation.path := by
    rw [List.map_drop]
    show u.nodes.keys.drop t.nodes.size = _
    rw [h.keys, ← t.nodes.length_keys, List.drop_left]
  refine map_creation_eq hpaths ?_
  rintro ⟨key, node⟩ hentry c hc rfl
  obtain ⟨node', hnode', hkind⟩ := h.kind c hc
  have hnode := (u.nodes.get?_eq_some_iff c.path node).mpr (List.mem_of_mem_drop hentry)
  rw [hnode] at hnode'
  exact Option.some.inj hnode' ▸ hkind

end TreeShell.Tree
