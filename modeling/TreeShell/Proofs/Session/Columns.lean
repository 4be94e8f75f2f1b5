/-
  TreeShell.Proofs.Session.Columns — a listing is read back from its text.

  `ls` writes two spaces between the entries of a directory and a slash behind those that
  are directories themselves. A reader cuts wherever it finds two spaces, going from the
  left (`cut`), and takes a slash at the end for the mark (`readEntry`). The cut gives the
  entries back if none of them ends with a space or holds two side by side
  (`cut_join`); one that begins with a space does no harm. That a slash at the end is the
  mark, and that no entry is empty, is what names are (`read_join`).

  Main statement: after any operations on a new session the output of `ls` is read as the
  listing of the directory that the session stands in, if its names are such
  (`output_reads_back`).
-/

import Mathlib.Data.List.Infix
import TreeShell.Proofs.Session.Failure
import TreeShell.Proofs.Session.Refusal

namespace TreeShell

open TreeShell.Path

namespace Columns

def gap : Text := [' ', ' ']

/-- The pieces between the gaps, found from the left. -/
def cut : Text → List Text
  | [] => [[]]
  | ' ' :: ' ' :: rest => [] :: cut rest
  | c :: rest =>
    match cut rest with
    | [] => [[c]]
    | piece :: pieces => (c :: piece) :: pieces

/-- The name, and whether it is that of a directory. -/
def readEntry (entry : Text) : Text × Bool :=
  if entry.getLast? = some '/' then (entry.dropLast, true) else (entry, false)

/-- No text is no entries. -/
def read (output : Text) : List (Text × Bool) := if output = [] then [] else (cut output).map readEntry

/-- Where a gap follows, such a text has no earlier one. -/
structure Fits (t : Text) : Prop where
  no_gap : ¬gap <:+: t
  last : t.getLast? ≠ some ' '

/-- A gap in a text begins one of its ends. -/
theorem fits_iff_tails {t : Text} : (∀ rest ∈ t.tails, ¬gap <+: rest) ∧ t.getLast? ≠ some ' ' ↔ Fits t := by
  have hgap : gap <:+: t ↔ ∃ rest ∈ t.tails, gap <+: rest := by
    rw [List.infix_iff_prefix_suffix]
    simp only [List.mem_tails, and_comm]
  constructor
  · rintro ⟨htails, hlast⟩
    refine ⟨fun hinside => ?_, hlast⟩
    obtain ⟨rest, hrest, hprefix⟩ := hgap.mp hinside
    exact htails rest hrest hprefix
  · intro h
    exact ⟨fun rest hrest hprefix => h.no_gap (hgap.mpr ⟨rest, hrest, hprefix⟩), h.last⟩

instance (t : Text) : Decidable (Fits t) := decidable_of_iff _ fits_iff_tails

/-! ## The cut -/

section

variable {c : Char} {rest piece : Text} {pieces : List Text}

theorem cut_gap (rest : Text) : cut (' ' :: ' ' :: rest) = [] :: cut rest := rfl

theorem cut_cons (hgap : ¬gap <+: c :: rest) (hrest : cut rest = piece :: pieces) :
    cut (c :: rest) = (c :: piece) :: pieces := by
  rw [cut, hrest]
  rintro tail rfl rfl
  exact hgap (List.prefix_append gap tail)

theorem cut_eq_self {t : Text} (h : ¬gap <:+: t) : cut t = [t] := by
  induction t with
  | nil => rfl
  | cons c t ih =>
    rw [List.infix_cons_iff, not_or] at h
    exact cut_cons h.1 (ih h.2)

theorem Fits.tail (h : Fits (c :: rest)) : Fits rest where
  no_gap hrest := h.no_gap (hrest.trans (List.suffix_cons c rest).isInfix)
  last hlast := by
    have hcons : (c :: rest).getLast? = some ' ' := by rw [List.getLast?_cons, hlast]; rfl
    exact h.last hcons

/-- Not even the last character and the gap behind it make an earlier gap. -/
theorem Fits.not_gap_prefix (h : Fits (c :: rest)) (behind : Text) : ¬gap <+: c :: (rest ++ gap ++ behind) := by
  intro hprefix
  obtain ⟨rfl, hrest⟩ := List.cons_prefix_cons.mp hprefix
  cases rest with
  | nil => exact h.last rfl
  | cons d rest =>
    obtain ⟨rfl, -⟩ := List.cons_prefix_cons.mp hrest
    exact h.no_gap (List.prefix_append gap rest).isInfix

theorem Fits.cut_append {t : Text} (h : Fits t) (behind : Text) : cut (t ++ gap ++ behind) = t :: cut behind := by
  induction t with
  | nil => exact cut_gap behind
  | cons c t ih => exact cut_cons (h.not_gap_prefix behind) (ih h.tail)

theorem cut_join {pieces : List Text} (hne : pieces ≠ []) (h : ∀ piece ∈ pieces, Fits piece) :
    cut (Text.join gap pieces) = pieces := by
  induction pieces with
  | nil => exact absurd rfl hne
  | cons piece pieces ih =>
    obtain ⟨hpiece, hpieces⟩ := List.forall_mem_cons.mp h
    cases pieces with
    | nil => exact cut_eq_self hpiece.no_gap
    | cons next pieces =>
      rw [Text.join_cons_cons, hpiece.cut_append, ih (List.cons_ne_nil _ _) hpieces]

end

/-! ## Entries -/

open Builtin (entryName)

theorem readEntry_entryName {e : Text × Bool} (h : '/' ∉ e.1) : readEntry (entryName e) = e := by
  obtain ⟨name, isDirectory⟩ := e
  unfold readEntry entryName
  cases isDirectory with
  | true => simp
  | false =>
    have hlast : name.getLast? ≠ some '/' := fun hlast => h (List.mem_of_getLast? hlast)
    simp [hlast]

theorem entryName_ne_nil {e : Text × Bool} (h : e.1 ≠ []) : entryName e ≠ [] := by
  obtain ⟨name, isDirectory⟩ := e
  cases isDirectory with
  | true => exact List.append_ne_nil_of_right_ne_nil _ (List.cons_ne_nil _ _)
  | false => exact h

theorem Fits.entryName {e : Text × Bool} (h : Fits e.1) : Fits (entryName e) := by
  obtain ⟨name, isDirectory⟩ := e
  cases isDirectory with
  | false => exact h
  | true =>
    have hlast : (Builtin.entryName (name, true)).getLast? = some '/' := List.getLast?_concat
    refine ⟨fun hgap => ?_, fun hspace => ?_⟩
    · rcases List.infix_concat_iff.mp hgap with hsuffix | hinside
      · have hslash := hsuffix.getLast (List.cons_ne_nil _ _)
        simp [gap] at hslash
      · exact h.no_gap hinside
    · rw [hlast] at hspace
      cases hspace

theorem join_ne_nil {sep piece : Text} {pieces : List Text} (h : piece ≠ []) : Text.join sep (piece :: pieces) ≠ [] := by
  cases pieces with
  | nil => exact h
  | cons next pieces => exact List.append_ne_nil_of_left_ne_nil (List.append_ne_nil_of_left_ne_nil h _) _

theorem read_join {entries : List (Text × Bool)} (hnames : ∀ e ∈ entries, IsName e.1) (h : ∀ e ∈ entries, Fits e.1) :
    read (Text.join Builtin.listSeparator (entries.map entryName)) = entries := by
  cases entries with
  | nil => rfl
  | cons e entries =>
    have hentries : (e :: entries).map entryName ≠ [] := List.cons_ne_nil _ _
    have hne : Text.join gap ((e :: entries).map entryName) ≠ [] :=
      join_ne_nil (entryName_ne_nil (hnames e (List.mem_cons_self ..)).1)
    have hfits : ∀ piece ∈ (e :: entries).map entryName, Fits piece := by
      intro piece hpiece
      obtain ⟨d, hd, rfl⟩ := List.mem_map.mp hpiece
      exact (h d hd).entryName
    have hself : ∀ d ∈ e :: entries, (readEntry ∘ entryName) d = d :=
      fun d hd => readEntry_entryName (hnames d hd).2
    show read (Text.join gap ((e :: entries).map entryName)) = _
    unfold read
    rw [if_neg hne, cut_join hentries hfits, List.map_map, List.map_congr_left hself, List.map_id']

end Columns

/-! ## Sessions -/

namespace Shell.Settled

variable {config : Config} {s : Shell} (h : s.Settled config)

include h

theorem run_list {command : Text} {args : List Text} {children : List Text}
    (ht : Token.tokens s.environment command = Builtin.ls.name :: args)
    (hcwd : s.tree.nodes.get? s.cwd = some (.directory children)) :
    s.run command = some ⟨{ command, output := Text.join Builtin.listSeparator (children.map fun name =>
      Builtin.entryName (name, s.tree.isDirectoryAt (child s.cwd name))) }, s, []⟩ := by
  refine run_eq_some_iff.mpr ⟨_, args, ht, ?_⟩
  rw [Builtin.dispatch_name, Builtin.run_ls_children s h.cwd_normal hcwd]
  rfl

theorem read_list {children : List Text} (hcwd : s.tree.nodes.get? s.cwd = some (.directory children))
    (hfits : ∀ name ∈ children, Columns.Fits name) :
    Columns.read (Text.join Builtin.listSeparator (children.map fun name =>
      Builtin.entryName (name, s.tree.isDirectoryAt (child s.cwd name)))) =
        children.map fun name => (name, s.tree.isDirectoryAt (child s.cwd name)) := by
  have hnames := (h.tree.wellNamed s.cwd children hcwd).2
  let entries := children.map fun name => (name, s.tree.isDirectoryAt (child s.cwd name))
  have hread : Columns.read (Text.join Builtin.listSeparator (entries.map Builtin.entryName)) = entries :=
    Columns.read_join (by simpa [entries] using hnames) (by simpa [entries] using hfits)
  rwa [List.map_map] at hread

end Shell.Settled

namespace Session

/-- After any operations on a new session: if no name in the directory that it stands in
    ends with a space or holds two side by side, then `ls`, whatever follows it, succeeds
    and changes nothing, and its output is read as the listing of that directory, the names
    and kinds in their order. -/
theorem output_reads_back (id : Text) (config : Config) (clock : Clock) (actions : List Action) {command : Text}
    {args : List Text}
    (ht : Token.tokens ((create id config clock).after actions).shell.environment command = Builtin.ls.name :: args)
    (hfits : ∀ entries, ((create id config clock).after actions).shell.tree.list
      ((create id config clock).after actions).shell.cwd = .ok entries → ∀ e ∈ entries, Columns.Fits e.1) :
    let s := ((create id config clock).after actions).shell
    ∃ output, s.run command = some ⟨{ command, output }, s, []⟩ ∧ s.tree.list s.cwd = .ok (Columns.read output) := by
  intro s
  have h : s.Settled config := settled_after (s := create id config clock) (settled_seedShell config) actions
  obtain ⟨children, hcwd⟩ := Tree.isDirectoryAt_iff.mp h.cwd
  have hlist := Tree.list_of_directory h.cwd_normal hcwd
  have hnames : ∀ name ∈ children, Columns.Fits name := by simpa using hfits _ hlist
  exact ⟨_, h.run_list ht hcwd, by rw [hlist, h.read_list hcwd hnames]⟩

/-- Spaces in front of a name and inside it, a directory between files, and an operand that
    `ls` does not look at. -/
theorem output_reads_back_spaces :
    let actions : List Action := [.execute "touch \" a\" & mkdir \"my docs\"", .tree (.createFile "/home/user/b" "x")]
    let s := ((create "s" Config.standard .stopped).after actions).shell
    (Token.tokens s.environment "ls docs" = [Builtin.ls.name, "docs"] ∧
      ∀ entries, s.tree.list s.cwd = .ok entries → ∀ e ∈ entries, Columns.Fits e.1) ∧
    ∃ output, s.run "ls docs" = some ⟨{ command := "ls docs", output }, s, []⟩ ∧
      Columns.read output = ([(" a", false), ("my docs", true), ("b", false)] : List (Text × Bool)) := by
  intro actions s
  have hlist : s.tree.list s.cwd = .ok [(" a", false), ("my docs", true), ("b", false)] := by decide
  have ht : Token.tokens s.environment "ls docs" = [Builtin.ls.name, "docs"] := by decide
  have hfits : ∀ entries, s.tree.list s.cwd = .ok entries → ∀ e ∈ entries, Columns.Fits e.1 := by
    intro entries hentries
    obtain rfl := Except.ok.inj (hlist.symm.trans hentries)
    decide
  obtain ⟨output, hrun, hread⟩ := output_reads_back "s" Config.standard .stopped actions ht hfits
  refine ⟨⟨ht, hfits⟩, output, hrun, ?_⟩
  exact Except.ok.inj (hread.symm.trans hlist)

end Session

end TreeShell
