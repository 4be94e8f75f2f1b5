/-
  TreeShell.Proofs.Session.Descent — changing the directory along a path.

  What stands behind a slash is read from where the part in front of it leads, and only the
  front can be absolute or start with a tilde (`resolve_append_slash`, `destination_append`).
  That the way there cannot fail in the middle rests on the tree: above a node there are
  directories all the way up (`Sound.isDirectoryAt_above`, `Sound.isDirectoryAt_of_resolve`).

  Main statement: after any operations on a new session, `cd` along a path does what `cd` to
  the front and then to the rest does, and fails if one of these fails (`cd_along_path`).
-/

import TreeShell.Proofs.Path.Normal
import TreeShell.Proofs.Session.Refusal
import TreeShell.Proofs.Tree.Ancestors

namespace TreeShell

open TreeShell.Path

/-! ## Paths in two parts -/

namespace Path

theorem segments_resolve (target cwd : Text) :
    segments (resolve target cwd) = if isAbsolute target then segments target else segments cwd ++ segments target := by
  unfold resolve
  split
  · exact segments_normalize target
  · rw [segments_normalize, segments_append_slash]

theorem isAbsolute_append {a : Text} (ha : a ≠ []) (b : Text) : isAbsolute (a ++ b) = isAbsolute a := by
  obtain ⟨c, cs, rfl⟩ := List.exists_cons_of_ne_nil ha
  rfl

section

variable {b : Text} (hb : b.head? ≠ some '/')

include hb

theorem segments_resolve_relative (cwd : Text) : segments (resolve b cwd) = segments cwd ++ segments b := by
  have hrelative : isAbsolute b = false := by simpa [isAbsolute] using hb
  rw [segments_resolve, hrelative]
  rfl

/-- Behind a slash a text is read from where the text in front of it leads. -/
theorem resolve_append_slash {a : Text} (ha : a ≠ []) (cwd : Text) :
    resolve (a ++ '/' :: b) cwd = resolve b (resolve a cwd) := by
  have hsegments : segments (resolve (a ++ '/' :: b) cwd) = segments (resolve b (resolve a cwd)) := by
    rw [segments_resolve_relative hb, segments_resolve, segments_resolve, isAbsolute_append ha, segments_append_slash]
    split
    · rfl
    · rw [List.append_assoc]
  rw [(isNormal_resolve _ _).eq_ofSegments, hsegments, ← (isNormal_resolve _ _).eq_ofSegments]

end

end Path

namespace Tree

/-- Above a node there are directories all the way up. -/
theorem Sound.isDirectoryAt_above {t : Tree} (h : t.Sound) {dir path : Text} (hd : IsNormal dir)
    (hbelow : IsBelow dir path) (hpath : path ∈ t.nodes.keys) : t.isDirectoryAt dir = true := by
  obtain ⟨names, hne, hsegments⟩ := hbelow
  have hnames : ∀ n ∈ names, IsName n := by
    intro n hn
    have hmem : n ∈ segments path := hsegments ▸ List.mem_append_right _ hn
    exact isName_of_mem_segments hmem
  have hway : path ∈ way dir names := by
    rw [way_eq_map_inits hd hnames]
    refine List.mem_map.mpr ⟨names, ?_, ?_⟩
    · obtain ⟨name, rest, rfl⟩ := List.exists_cons_of_ne_nil hne
      simp
    · rw [← hsegments]
      exact h.normal path hpath
  by_contra hno
  have hnone := h.nothing_below hd hnames (fun children hc => absurd (isDirectoryAt_iff.mpr ⟨children, hc⟩) hno)
    path hway
  exact (t.nodes.get?_eq_none_iff path).mp hnone hpath

/-- What is not absolute leads to a directory only from one. -/
theorem Sound.isDirectoryAt_of_resolve {t : Tree} (h : t.Sound) {dir b : Text} (hd : IsNormal dir)
    (hb : b.head? ≠ some '/') (hdir : t.isDirectoryAt (resolve b dir) = true) : t.isDirectoryAt dir = true := by
  have hsegments := segments_resolve_relative hb dir
  by_cases hnone : segments b = []
  · have hsame : resolve b dir = dir := by
      rw [(isNormal_resolve b dir).eq_ofSegments, hsegments, hnone, List.append_nil]
      exact hd
    rwa [← hsame]
  · obtain ⟨children, hchildren⟩ := isDirectoryAt_iff.mp hdir
    exact h.isDirectoryAt_above hd ⟨segments b, hnone, hsegments⟩ (OrderedMap.mem_keys_of_get? hchildren)

end Tree

/-! ## Where the parts lead -/

namespace Builtin

theorem expandHome_append_slash (home : Text) {a : Text} (ha : a ≠ []) (b : Text) :
    expandHome home (a ++ '/' :: b) = expandHome home a ++ '/' :: b := by
  obtain ⟨c, cs, rfl⟩ := List.exists_cons_of_ne_nil ha
  by_cases hc : c = '~'
  · subst hc
    cases cs with
    | nil => rfl
    | cons d ds =>
      by_cases hd : d = '/'
      · subst hd
        simp [expandHome]
      · simp [expandHome, hd]
  · simp [expandHome, hc]

/-- No tilde is expanded but one that stands alone or in front of a slash. -/
theorem expandHome_eq_self (home : Text) {arg : Text} (halone : arg ≠ ['~'])
    (hslash : Text.startsWith "~/" arg = false) : expandHome home arg = arg := by
  rw [expandHome_eq, if_neg halone, hslash]
  rfl

theorem expandHome_ne_nil {home arg : Text} (hhome : home ≠ []) (harg : arg ≠ []) : expandHome home arg ≠ [] := by
  unfold expandHome
  split
  · exact hhome
  · exact List.append_ne_nil_of_left_ne_nil hhome _
  · exact harg

end Builtin

namespace Shell

theorem destination_eq (s : Shell) (arg : Text) :
    s.destination arg = resolve (Builtin.expandHome (s.environment.get "HOME") arg) s.cwd := by
  rw [Builtin.expandHome_eq]
  rfl

theorem destination_eq_resolve (s : Shell) {arg : Text} (halone : arg ≠ ['~'])
    (htilde : Text.startsWith "~/" arg = false) : s.destination arg = resolve arg s.cwd := by
  rw [destination_eq, Builtin.expandHome_eq_self _ halone htilde]

theorem destination_append {s : Shell} (hhome : s.environment.get "HOME" ≠ []) {a b : Text} (ha : a ≠ [])
    (hslash : b.head? ≠ some '/') : s.destination (a ++ '/' :: b) = resolve b (s.destination a) := by
  rw [destination_eq, destination_eq, Builtin.expandHome_append_slash _ ha,
    resolve_append_slash hslash (Builtin.expandHome_ne_nil hhome ha)]

end Shell

namespace Builtin

theorem run_cd_eq_ok_iff {s : Shell} {arg : Text} {others : List Text} {d : Done} {w : Work} :
    cd.run s (arg :: others) = .ok d w ↔
      s.tree.isDirectoryAt (s.destination arg) = true ∧ d = {} ∧ w = ⟨{ s with cwd := s.destination arg }, []⟩ := by
  rw [run_cd_destination]
  split
  · rename_i h
    rw [EStateM.Result.ok.injEq]
    exact ⟨fun e => ⟨h, e.1.symm, e.2.symm⟩, fun e => ⟨e.2.1.symm, e.2.2.symm⟩⟩
  · rename_i h
    exact iff_of_false nofun fun e => h e.1

end Builtin

namespace Session

open Builtin

/-- After any operations on a new session, for a text that is not empty and one that is
    neither absolute nor starts at home: `cd` to both with a slash between succeeds exactly if
    `cd` to the first and from there to the second succeeds, and leaves the shell as they do,
    in the same directory. -/
theorem cd_along_path (id : Text) (config : Config) (clock : Clock) (actions : List Action) {a b : Text} (ha : a ≠ [])
    (hslash : b.head? ≠ some '/') (halone : b ≠ ['~']) (htilde : Text.startsWith "~/" b = false) :
    let s := ((create id config clock).after actions).shell
    ∀ d w, cd.run s [a ++ '/' :: b] = .ok d w ↔
      ∃ first between, cd.run s [a] = .ok first between ∧ cd.run between.shell [b] = .ok d w := by
  intro s d w
  have h : s.Settled config := settled_after (s := create id config clock) (settled_seedShell config) actions
  have hhome : s.environment.get "HOME" ≠ [] := by
    have hnormal : IsNormal config.home := config.home_normal
    rw [h.environment, Environment.get_home_seeded, hnormal.eq_ofSegments]
    exact List.cons_ne_nil '/' _
  have hwhole := Shell.destination_append hhome ha hslash
  have hrest : { s with cwd := s.destination a }.destination b = resolve b (s.destination a) :=
    Shell.destination_eq_resolve _ halone htilde
  simp only [run_cd_eq_ok_iff, hwhole]
  constructor
  · rintro ⟨hdir, rfl, rfl⟩
    have hnormal : IsNormal (s.destination a) := isNormal_resolve _ _
    have hfirst := h.tree.toSound.isDirectoryAt_of_resolve hnormal hslash hdir
    refine ⟨_, _, ⟨hfirst, rfl, rfl⟩, ?_⟩
    rw [hrest]
    exact ⟨hdir, rfl, rfl⟩
  · rintro ⟨first, between, ⟨-, rfl, rfl⟩, hdir, rfl, rfl⟩
    rw [hrest] at hdir ⊢
    exact ⟨hdir, rfl, rfl⟩

/-- Home is the root, the first text ends in slashes, and a name in the second starts with a
    tilde. -/
theorem cd_along_path_tilde :
    let actions : List Action := [.execute "mkdir docs & mkdir docs/~x & cd docs"]
    let s := ((create "s" (Config.make "/" "user" []) .stopped).after actions).shell
    let b : Text := "docs//~x/"
    (b.head? ≠ some '/' ∧ b ≠ ['~'] ∧ Text.startsWith "~/" b = false) ∧
      cd.run s ["~///docs//~x/"] = .ok {} ⟨{ s with cwd := "/docs/~x" }, []⟩ ∧
      ∃ first between, cd.run s ["~//"] = .ok first between ∧
        cd.run between.shell [b] = .ok {} ⟨{ s with cwd := "/docs/~x" }, []⟩ := by
  intro actions s b
  have hrun : cd.run s ["~///docs//~x/"] = .ok {} ⟨{ s with cwd := "/docs/~x" }, []⟩ := by rfl
  have hiff := cd_along_path "s" (Config.make "/" "user" []) .stopped actions (a := "~//") (b := b) (by decide)
    (by decide) (by decide) (by decide)
  exact ⟨by decide, hrun, (hiff _ _).mp hrun⟩

end Session

end TreeShell
