/-
  TreeShell.Proofs.Tree.Ancestors — directories made with all that is missing above them.

  The prefixes of a path are made on the way down, before the longer ones have been looked
  at. That nothing is left half done rests on the tree: below a path that is missing there is
  nothing (`Sound.nothing_below`), so a file can be in the way only before anything was made
  (`ensureBelow_cases`). What is made hangs below one directory that was there, and only that
  one changes (`Extended`).

  Main statement: in a consistent tree the call fails exactly if a prefix is a file, and then
  leaves the tree as it was; otherwise it makes the missing prefixes and nothing else. So the
  keys of a seeded tree are the root and the prefixes of the given paths
  (`ensureDirectory_all_or_nothing`).
-/

import Mathlib.Data.List.Infix
import TreeShell.Proofs.Tree.Consistent
import TreeShell.Proofs.Tree.Seed

namespace TreeShell

namespace Path

/-- The paths of the first segment, of the first two and so on, up to the path itself. -/
def prefixes (path : Text) : List Text := (segments path).inits.tail.map ofSegments

/-- The paths on the way down from `dir`, name by name. -/
def way (dir : Text) : List Text → List Text
  | [] => []
  | name :: names => child dir name :: way (child dir name) names

theorem way_eq_map_inits {names : List Text} {dir : Text} (hd : IsNormal dir) (hn : ∀ n ∈ names, IsName n) :
    way dir names = names.inits.tail.map fun before => ofSegments (segments dir ++ before) := by
  induction names generalizing dir with
  | nil => rfl
  | cons name names ih =>
    obtain ⟨hname, hrest⟩ := List.forall_mem_cons.mp hn
    have hinits : names.inits = [] :: names.inits.tail := by cases names <;> simp
    rw [way, ih (isNormal_child hd hname) hrest, segments_child hd hname, List.inits_cons, List.tail_cons, hinits]
    simp [child_eq_ofSegments hd, Function.comp_def]

theorem prefixes_eq_way (path : Text) : prefixes path = way root (segments path) := by
  rw [way_eq_map_inits isNormal_root fun _ => isName_of_mem_segments]
  rfl

theorem isNormal_of_mem_way {names : List Text} {dir key : Text} (hd : IsNormal dir) (hn : ∀ n ∈ names, IsName n)
    (h : key ∈ way dir names) : IsNormal key := by
  induction names generalizing dir with
  | nil => cases h
  | cons name names ih =>
    obtain ⟨hname, hrest⟩ := List.forall_mem_cons.mp hn
    rcases List.mem_cons.mp h with rfl | h
    · exact isNormal_child hd hname
    · exact ih (isNormal_child hd hname) hrest h

end Path

namespace Tree

open TreeShell.Path

/-- Making the directories `keys` one after another, each call succeeding, turns `t` into the
    last tree. -/
inductive Makes : Tree → List Text → Tree → Prop
  | nil {t : Tree} : Makes t [] t
  | cons {t u : Tree} {key : Text} {keys : List Text} {grown : Grown} : t.createDirectory key = (grown, none) →
      Makes grown.tree keys u → Makes t (key :: keys) u

theorem Makes.changes {t u : Tree} {keys : List Text} (h : Makes t keys u) : Changes t u := by
  induction h with
  | nil => exact .refl
  | cons hc _ ih => exact .head (createDirectory_change hc) ih

theorem Makes.isDirectory {t u : Tree} {keys : List Text} (h : Makes t keys u) :
    ∀ key ∈ keys, u.isDirectory key = true := by
  induction h with
  | nil => simp
  | cons hc hrest ih =>
    rintro key hkey
    rcases List.mem_cons.mp hkey with rfl | hkey
    · exact hrest.changes.isDirectoryAt (isDirectoryAt_iff.mpr ⟨[], (createDirectory_hung hc).get?_self⟩)
    · exact ih key hkey

/-- `grown` is `t` with directories of these names below `dir`, one below the other. -/
structure Extended (t : Tree) (grown : Grown) (dir : Text) (names : List Text) : Prop where
  made : Makes t (way dir names) grown.tree
  created : grown.created = (way dir names).map fun key => ⟨.directory, key⟩
  keys : grown.tree.nodes.keys = t.nodes.keys ++ way dir names
  /-- The directory that was there has gained the first of the names. -/
  gained : ∃ children, t.nodes.get? dir = some (.directory children) ∧
    grown.tree.nodes.get? dir = some (.directory (children ++ names.head?.toList))
  kept : ∀ key ∈ t.nodes.keys, key ≠ dir → grown.tree.nodes.get? key = t.nodes.get? key

theorem Extended.refl {t : Tree} {dir : Text} (hdir : t.isDirectoryAt dir = true) : t.Extended ⟨t, []⟩ dir [] := by
  obtain ⟨children, hc⟩ := isDirectoryAt_iff.mp hdir
  exact ⟨.nil, rfl, by simp [way], ⟨children, hc, by simpa using hc⟩, fun _ _ _ => rfl⟩

/-- What is on the way was not there before. -/
theorem Extended.fresh {t : Tree} {grown : Grown} {dir key : Text} {names : List Text} (h : t.Extended grown dir names)
    (hkey : key ∈ way dir names) : key ∉ t.nodes.keys := by
  have hnodup := grown.tree.nodes.nodup_keys
  rw [h.keys] at hnodup
  exact fun hold => (List.nodup_append.mp hnodup).2.2 key hold key hkey rfl

/-! ## One step down -/

section

variable {t : Tree} {dir name : Text} {names children : List Text} (hd : IsNormal dir) (hn : IsName name)
  (hdir : t.nodes.get? dir = some (.directory children)) (hfresh : t.nodes.get? (child dir name) = none)

include hd hn hdir hfresh

/-- A directory hung below `dir`, and more below that one. -/
theorem Extended.hang (h : t.Consistent) {grown : Grown}
    (hext : (t.hang dir name children (.directory [])).Extended grown (child dir name) names) :
    t.Extended ⟨grown.tree, ⟨.directory, child dir name⟩ :: grown.created⟩ dir (name :: names) := by
  have hnew : ∀ key ∈ t.nodes.keys, key ≠ child dir name := by
    rintro _ hkey rfl
    exact (t.nodes.get?_eq_none_iff _).mp hfresh hkey
  have hkept : ∀ key ∈ t.nodes.keys,
      grown.tree.nodes.get? key = (t.hang dir name children (.directory [])).nodes.get? key := by
    intro key hkey
    refine hext.kept key ?_ (hnew key hkey)
    rw [keys_hang hdir hfresh]
    exact List.mem_append_left _ hkey
  refine ⟨.cons (createDirectory_child hd hn hdir hfresh) hext.made, ?_, ?_, ⟨children, hdir, ?_⟩, ?_⟩
  · rw [way, List.map_cons, ← hext.created]
  · rw [way, hext.keys, keys_hang hdir hfresh, List.append_assoc]
    rfl
  · have hnot : name ∉ children := h.not_mem_of_fresh hdir hfresh
    rw [hkept dir (OrderedMap.mem_keys_of_get? hdir), get?_hang, if_pos rfl, if_neg (by simpa using hnot)]
    rfl
  · intro key hkey hother
    rw [hkept key hkey, get?_hang, if_neg (Ne.symm hother), if_neg (Ne.symm (hnew key hkey))]

end

/-! ## The whole way -/

section

variable {t : Tree} {dir : Text} {names : List Text}

/-- Where nothing is listed nothing is below. -/
theorem Sound.nothing_below (h : t.Sound) (hd : IsNormal dir) (hn : ∀ n ∈ names, IsName n)
    (hbare : ∀ children, t.nodes.get? dir = some (.directory children) → children = []) :
    ∀ key ∈ way dir names, t.nodes.get? key = none := by
  induction names generalizing dir with
  | nil => simp [way]
  | cons name names ih =>
    obtain ⟨hname, hrest⟩ := List.forall_mem_cons.mp hn
    have hnone : t.nodes.get? (child dir name) = none := by
      rw [OrderedMap.get?_eq_none_iff]
      intro hkey
      obtain ⟨children, hdir, hm⟩ := h.listed dir name hd hname hkey
      rw [hbare children hdir] at hm
      cases hm
    intro key hkey
    rcases List.mem_cons.mp hkey with rfl | hkey
    · exact hnone
    · refine ih (isNormal_child hd hname) hrest (fun children hc => ?_) key hkey
      rw [hnone] at hc
      cases hc

/-- The first name is missing, and what is to be made below it will be. -/
theorem ensureBelow_fresh {name : Text} {children : List Text} (h : t.Consistent) (hd : IsNormal dir) (hn : IsName name)
    (hdir : t.nodes.get? dir = some (.directory children)) (hfresh : t.nodes.get? (child dir name) = none)
    (hbelow : ∀ u : Tree, u.Consistent → u.nodes.get? (child dir name) = some (.directory []) →
      (u.ensureBelow (stem (child dir name)) names).2 = none ∧
        u.Extended (u.ensureBelow (stem (child dir name)) names).1 (child dir name) names) :
    (t.ensureBelow (stem dir) (name :: names)).2 = none ∧
      t.Extended (t.ensureBelow (stem dir) (name :: names)).1 dir (name :: names) := by
  have hhung : t.Hung (child dir name) (.directory []) (t.hang dir name children (.directory [])) :=
    .below dir name children hd hn rfl hdir hfresh
  obtain ⟨hnone, hext⟩ := hbelow _ (h.change (hhung.change rfl)) hhung.get?_self
  rw [ensureBelow_missing hd hn hdir hfresh]
  exact ⟨hnone, hext.hang hd hn hdir hfresh h⟩

/-- Below a directory without children all that is on the way is made. -/
theorem ensureBelow_bare (h : t.Consistent) (hd : IsNormal dir) (hdir : t.nodes.get? dir = some (.directory []))
    (hn : ∀ n ∈ names, IsName n) :
    (t.ensureBelow (stem dir) names).2 = none ∧ t.Extended (t.ensureBelow (stem dir) names).1 dir names := by
  induction names generalizing t dir with
  | nil => exact ⟨rfl, .refl (isDirectoryAt_iff.mpr ⟨[], hdir⟩)⟩
  | cons name names ih =>
    obtain ⟨hname, hrest⟩ := List.forall_mem_cons.mp hn
    have hbare : ∀ children, t.nodes.get? dir = some (.directory children) → children = [] := by
      intro children hc
      rw [hdir] at hc
      cases hc; rfl
    have hfresh := h.nothing_below hd hn hbare (child dir name) (List.mem_cons_self ..)
    exact ensureBelow_fresh h hd hname hdir hfresh fun u hu hmade => ih hu (isNormal_child hd hname) hmade hrest

/-- The way down from a directory leads through directories to a file, and nothing was made;
    or through directories to one below which the rest of it was missing and was made. -/
theorem ensureBelow_cases (h : t.Consistent) (hd : IsNormal dir) (hdir : t.isDirectoryAt dir = true)
    (hn : ∀ n ∈ names, IsName n) :
    (∃ key ∈ way dir names, (∃ content, t.nodes.get? key = some (.file content)) ∧
      t.ensureBelow (stem dir) names = (⟨t, []⟩, some ⟨key, .notADirectory⟩)) ∨
    (∃ there last rest, way dir names = there ++ way last rest ∧ (∀ key ∈ there, t.isDirectoryAt key = true) ∧
      (t.ensureBelow (stem dir) names).2 = none ∧ t.Extended (t.ensureBelow (stem dir) names).1 last rest) := by
  induction names generalizing dir with
  | nil => exact .inr ⟨[], dir, [], rfl, by simp, rfl, .refl hdir⟩
  | cons name names ih =>
    obtain ⟨hname, hrest⟩ := List.forall_mem_cons.mp hn
    have hchild : IsNormal (child dir name) := isNormal_child hd hname
    cases hc : t.nodes.get? (child dir name) with
    | none =>
      obtain ⟨children, hchildren⟩ := isDirectoryAt_iff.mp hdir
      obtain ⟨hnone, hext⟩ := ensureBelow_fresh h hd hname hchildren hc fun u hu hmade =>
        ensureBelow_bare hu hchild hmade hrest
      exact .inr ⟨[], dir, name :: names, rfl, by simp, hnone, hext⟩
    | some node =>
      cases node with
      | file content => exact .inl ⟨child dir name, List.mem_cons_self .., ⟨content, hc⟩, ensureBelow_file hname hc⟩
      | directory children =>
        have hthrough : t.isDirectoryAt (child dir name) = true := isDirectoryAt_iff.mpr ⟨children, hc⟩
        rw [ensureBelow_directory hname hthrough]
        rcases ih hchild hthrough hrest with ⟨key, hkey, hfile, herror⟩ | ⟨there, last, rest, hway, hthere, hmade⟩
        · exact .inl ⟨key, List.mem_cons_of_mem _ hkey, hfile, herror⟩
        · refine .inr ⟨child dir name :: there, last, rest, congrArg (child dir name :: ·) hway,
            fun key hkey => ?_, hmade⟩
          rcases List.mem_cons.mp hkey with rfl | hkey
          · exact hthrough
          · exact hthere key hkey

theorem ensureBelow_there (hd : IsNormal dir) (hn : ∀ n ∈ names, IsName n)
    (hthere : ∀ key ∈ way dir names, t.isDirectoryAt key = true) :
    t.ensureBelow (stem dir) names = (⟨t, []⟩, none) := by
  induction names generalizing dir with
  | nil => rfl
  | cons name names ih =>
    obtain ⟨hname, hrest⟩ := List.forall_mem_cons.mp hn
    obtain ⟨hfirst, hlater⟩ := List.forall_mem_cons.mp hthere
    rw [ensureBelow_directory hname hfirst]
    exact ih (isNormal_child hd hname) hrest hlater

end

/-! ## Paths -/

/-- The prefixes of the path that are missing. -/
def missing (t : Tree) (path : Text) : List Text := (prefixes path).filter (· ∉ t.nodes.keys)

/-- A path whose prefixes are directories is left at that. -/
theorem ensureDirectory_there {t : Tree} {path : Text} (hthere : ∀ key ∈ prefixes path, t.isDirectoryAt key = true) :
    t.ensureDirectory path = (⟨t, []⟩, none) := by
  rw [prefixes_eq_way] at hthere
  have hway := ensureBelow_there isNormal_root (fun _ => isName_of_mem_segments) hthere
  rwa [stem_root] at hway

section

variable {t : Tree} (h : t.Consistent)

include h

theorem ensureDirectory_cases (path : Text) :
    (∃ key ∈ prefixes path, (∃ content, t.nodes.get? key = some (.file content)) ∧
      t.ensureDirectory path = (⟨t, []⟩, some ⟨key, .notADirectory⟩)) ∨
    (∃ there dir names, prefixes path = there ++ way dir names ∧ (∀ key ∈ there, t.isDirectoryAt key = true) ∧
      (t.ensureDirectory path).2 = none ∧ t.Extended (t.ensureDirectory path).1 dir names) := by
  have hcases := ensureBelow_cases h isNormal_root h.root fun _ (hn : _ ∈ segments path) => isName_of_mem_segments hn
  rwa [stem_root, ← prefixes_eq_way] at hcases

theorem ensureDirectory_fails_iff {path : Text} :
    (t.ensureDirectory path).2 ≠ none ↔ ∃ key ∈ prefixes path, ∃ content, t.nodes.get? key = some (.file content) := by
  rcases ensureDirectory_cases h path with ⟨key, hkey, hfile, herror⟩ | ⟨there, dir, names, hway, hthere, hnone, hext⟩
  · rw [herror]
    exact iff_of_true (Option.some_ne_none _) ⟨key, hkey, hfile⟩
  · refine iff_of_false (fun hne => hne hnone) ?_
    rintro ⟨key, hkey, content, hfile⟩
    rw [hway] at hkey
    rcases List.mem_append.mp hkey with hkey | hkey
    · obtain ⟨children, hdir⟩ := isDirectoryAt_iff.mp (hthere key hkey)
      rw [hfile] at hdir
      cases hdir
    · exact hext.fresh hkey (OrderedMap.mem_keys_of_get? hfile)

/-- The error names the file that is in the way. -/
theorem ensureDirectory_failed {path : Text} {e : PathError} (he : (t.ensureDirectory path).2 = some e) :
    (t.ensureDirectory path).1 = ⟨t, []⟩ ∧ e.path ∈ prefixes path ∧
      (∃ content, t.nodes.get? e.path = some (.file content)) ∧ e.reason = .notADirectory := by
  rcases ensureDirectory_cases h path with ⟨key, hkey, hfile, herror⟩ | ⟨_, _, _, _, _, hnone, _⟩
  · rw [herror] at he ⊢
    cases he
    exact ⟨rfl, hkey, hfile, rfl⟩
  · rw [hnone] at he
    cases he

section

variable {path : Text} (hnone : (t.ensureDirectory path).2 = none)

include hnone

/-- What a call that succeeds has made are the missing prefixes. -/
theorem ensureDirectory_extended :
    ∃ dir names, t.missing path = way dir names ∧ t.Extended (t.ensureDirectory path).1 dir names := by
  rcases ensureDirectory_cases h path with ⟨_, _, _, herror⟩ | ⟨there, dir, names, hway, hthere, -, hext⟩
  · rw [herror] at hnone
    cases hnone
  · refine ⟨dir, names, ?_, hext⟩
    have hold : there.filter (· ∉ t.nodes.keys) = [] := by
      refine List.filter_eq_nil_iff.mpr fun key hkey => ?_
      obtain ⟨children, hdir⟩ := isDirectoryAt_iff.mp (hthere key hkey)
      simp [OrderedMap.mem_keys_of_get? hdir]
    have hnew : (way dir names).filter (· ∉ t.nodes.keys) = way dir names :=
      List.filter_eq_self.mpr fun key hkey => decide_eq_true (hext.fresh hkey)
    unfold missing
    rw [hway, List.filter_append, hold, hnew, List.nil_append]

theorem isDirectoryAt_ensureDirectory :
    ∀ key ∈ prefixes path, (t.ensureDirectory path).1.tree.isDirectoryAt key = true := by
  intro key hkey
  have hnormal : IsNormal key := by
    rw [prefixes_eq_way] at hkey
    exact isNormal_of_mem_way isNormal_root (fun _ => isName_of_mem_segments) hkey
  rcases ensureDirectory_cases h path with ⟨_, _, _, herror⟩ | ⟨there, dir, names, hway, hthere, -, hext⟩
  · rw [herror] at hnone
    cases hnone
  · rw [hway] at hkey
    rcases List.mem_append.mp hkey with hkey | hkey
    · exact hext.made.changes.isDirectoryAt (hthere key hkey)
    · have hdir := hext.made.isDirectory key hkey
      unfold isDirectory at hdir
      rwa [hnormal] at hdir

theorem mem_keys_ensureDirectory {key : Text} :
    key ∈ (t.ensureDirectory path).1.tree.nodes.keys ↔ key ∈ t.nodes.keys ∨ key ∈ prefixes path := by
  obtain ⟨dir, names, hmissing, hext⟩ := ensureDirectory_extended h hnone
  rw [hext.keys, List.mem_append, ← hmissing, missing, List.mem_filter, decide_eq_true_eq]
  by_cases hold : key ∈ t.nodes.keys <;> simp [hold]

end

theorem mem_keys_ensureAll (hno : t.NoFiles) {paths : List Text} {key : Text} :
    key ∈ (t.ensureAll paths).1.tree.nodes.keys ↔ key ∈ t.nodes.keys ∨ ∃ path ∈ paths, key ∈ prefixes path := by
  induction paths generalizing t with
  | nil => simp [ensureAll]
  | cons path paths ih =>
    obtain ⟨hnone, hnext, -⟩ := ensureDirectory_noFiles hno h.root path
    have hconsistent := h.changes (ensureDirectory_changes t path)
    have hkeys : key ∈ (t.ensureDirectory path).1.tree.nodes.keys ↔ key ∈ t.nodes.keys ∨ key ∈ prefixes path :=
      mem_keys_ensureDirectory h hnone
    unfold ensureAll
    split
    · rename_i grown e he
      rw [he] at hnone
      cases hnone
    · rename_i grown he
      rw [he] at hnext hconsistent hkeys
      simp only
      rw [ih hconsistent hnext, hkeys]
      simp [or_assoc]

end

/-- In a consistent tree, making a directory with its ancestors fails exactly if a prefix of
    the path is a file, and then changes nothing and names that file. Otherwise all prefixes
    are directories afterwards; the missing ones, and nothing else, were made as by one call
    after another, the shortest first, below one directory that was there and gained the
    first of them; and the same call again makes nothing. Seeding never fails, and makes
    exactly the root and the prefixes of its paths. -/
theorem ensureDirectory_all_or_nothing {t : Tree} (h : t.Consistent) (path : Text) :
    let call := t.ensureDirectory path
    (call.2 ≠ none ↔ ∃ key ∈ prefixes path, ∃ content, t.nodes.get? key = some (.file content)) ∧
    (∀ e, call.2 = some e → call.1 = ⟨t, []⟩ ∧ e.path ∈ prefixes path ∧
      (∃ content, t.nodes.get? e.path = some (.file content)) ∧ e.reason = .notADirectory) ∧
    (call.2 = none →
      (∀ key ∈ prefixes path, call.1.tree.isDirectoryAt key = true) ∧
      (∃ dir names, t.missing path = way dir names ∧ t.Extended call.1 dir names) ∧
      call.1.tree.ensureDirectory path = (⟨call.1.tree, []⟩, none)) ∧
    ∀ directories : List Text, (bare.ensureAll directories).2 = none ∧
      ∀ key, key ∈ (seeded directories).nodes.keys ↔ key = root ∨ ∃ dir ∈ directories, key ∈ prefixes dir := by
  intro call
  refine ⟨ensureDirectory_fails_iff h, fun e => ensureDirectory_failed h, fun hnone => ?_,
    fun directories => ⟨?_, fun key => ?_⟩⟩
  · have hthere := isDirectoryAt_ensureDirectory h hnone
    exact ⟨hthere, ensureDirectory_extended h hnone, ensureDirectory_there hthere⟩
  · exact ensureAll_bare_none directories
  · have hroot : key ∈ bare.nodes.keys ↔ key = root := List.mem_singleton
    unfold seeded
    rw [mem_keys_ensureAll .bare noFiles_bare, hroot]

/-- A file stops the walk before anything is made; elsewhere two directories are missing. -/
theorem ensureDirectory_all_or_nothing_blocked :
    let t := bare.after [.createDirectory "/a", .createFile "/a/f" "x"]
    t.Consistent ∧ t.ensureDirectory "/a/f/g/h" = (⟨t, []⟩, some ⟨"/a/f", .notADirectory⟩) ∧
      (t.ensureDirectory "a//b/c/").2 = none ∧
      (t.ensureDirectory "a//b/c/").1.created = [⟨.directory, "/a/b"⟩, ⟨.directory, "/a/b/c"⟩] := by
  intro t
  have h : t.Consistent := Consistent.bare.changes (after_changes bare _)
  obtain ⟨-, hfails, -⟩ := ensureDirectory_all_or_nothing h "/a/f/g/h"
  obtain ⟨-, -, hmade, -⟩ := ensureDirectory_all_or_nothing h "a//b/c/"
  have herror : (t.ensureDirectory "/a/f/g/h").2 = some ⟨"/a/f", .notADirectory⟩ := by decide
  have hnone : (t.ensureDirectory "a//b/c/").2 = none := by decide
  obtain ⟨-, ⟨dir, names, hmissing, hext⟩, -⟩ := hmade hnone
  have hway : way dir names = ["/a/b".toList, "/a/b/c".toList] := hmissing ▸ by decide
  exact ⟨h, Prod.ext (hfails _ herror).1 herror, hnone, by rw [hext.created, hway]; rfl⟩

end Tree

end TreeShell
