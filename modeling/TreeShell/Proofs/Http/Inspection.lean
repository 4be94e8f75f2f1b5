/-
  TreeShell.Proofs.Http.Inspection — the shell's commands and what the service shows of the
  tree.

  A request for a node is answered with what is at its path (`reply_node`), a request for a
  listing without a path with the names in the current directory (`reply_listing`). What is
  at a path decides as well whether the builtins fail on an operand that names it, and an
  operand between quotes reaches them however it is spelled (`execute_ofOperand`).

  Main statement: on any session, sound or not, `cat`, `cd` and `mkdir` do for an operand
  what the replies for its path say, and `ls` prints what is listed
  (`commands_agree_with_inspection`).
-/

import TreeShell.Proofs.Http.Service
import TreeShell.Proofs.Session.Quotation
import TreeShell.Proofs.Session.Refusal

namespace TreeShell

/-! ## Lines of a builtin and its operand -/

/-- Means nothing to a line, wherever in it. -/
def Line.isPlain (c : Char) : Bool :=
  c != Token.quote && !Token.isSeparator c && c != '$' && c != separator && c != commentMark && !Text.isBlank c

theorem Line.isPlain_iff {c : Char} :
    isPlain c = true ↔ (c ≠ Token.quote ∧ Token.isSeparator c = false) ∧ c ≠ '$' ∧ c ≠ separator ∧ c ≠ commentMark ∧
      Text.isBlank c = false := by
  simp [isPlain, and_assoc]

theorem Builtin.name_plain (b : Builtin) : b.name ≠ [] ∧ ∀ c ∈ b.name, Line.isPlain c = true := by
  rw [← List.all_eq_true]
  cases b <;> decide

namespace Line

/-- A builtin's name and its operand between quotes. -/
def ofOperand (b : Builtin) (operand : Text) : Text := b.name ++ ' ' :: Token.enclosed operand

section

variable (b : Builtin) {operand : Text} (h : Token.IsLiteral operand)

include h

theorem commands_ofOperand : commands (ofOperand b operand) = [ofOperand b operand] := by
  obtain ⟨hne, hplain⟩ := b.name_plain
  obtain ⟨first, rest, hname⟩ := List.exists_cons_of_ne_nil hne
  obtain ⟨-, -, -, hmark, hblank⟩ := isPlain_iff.mp (hplain first (by simp [hname]))
  have hfirst : (ofOperand b operand).head? = some first := by
    unfold ofOperand
    rw [hname]; rfl
  have hlast : (ofOperand b operand).getLast? = some Token.quote := by
    unfold ofOperand
    rw [List.getLast?_append, List.getLast?_cons, Token.getLast?_enclosed]
    rfl
  have hsep : separator ∉ ofOperand b operand := by
    intro hmem
    rcases List.mem_append.mp hmem with hmem | hmem
    · obtain ⟨-, -, hsep, -⟩ := isPlain_iff.mp (hplain separator hmem)
      exact hsep rfl
    · rcases List.mem_cons.mp hmem with hspace | hmem
      · exact absurd hspace (by decide)
      · rcases Token.mem_enclosed.mp hmem with hquote | hmem
        · exact absurd hquote (by decide)
        · exact h.separator_not_mem hmem
  exact commands_eq_singleton hfirst hlast hblank (by decide) hmark hsep

theorem tokens_ofOperand (env : Environment) : Token.tokens env (ofOperand b operand) = [b.name, operand] := by
  obtain ⟨hne, hplain⟩ := b.name_plain
  have hsplit : Token.split (ofOperand b operand) = [b.name, operand] := by
    unfold ofOperand
    rw [Token.split_bare_space hne fun c hc => (isPlain_iff.mp (hplain c hc)).1,
      Token.split_enclosed h.ne_nil h.quote_not_mem]
  have hname : b.name.head? ≠ some '$' := by
    intro hhead
    obtain ⟨-, hvariable, -⟩ := isPlain_iff.mp (hplain '$' (List.mem_of_head? hhead))
    exact hvariable rfl
  unfold Token.tokens
  rw [hsplit, List.map_cons, List.map_cons, List.map_nil, Token.substitute_eq_self hname,
    Token.substitute_eq_self h.not_variable]

end

end Line

/-- The line of a builtin and a literal runs the builtin on it. -/
theorem Session.execute_ofOperand (s : Session) (b : Builtin) {operand : Text} (h : Token.IsLiteral operand) :
    let line := Line.ofOperand b operand
    let ran := Shell.conclude line (b.run s.shell [operand])
    (s.execute line).results = [ran.value] ∧ (s.execute line).session.shell = ran.shell := by
  have := s.execute_of_commands (Line.commands_ofOperand b h) (Line.tokens_ofOperand b h s.shell.environment)
  rwa [Builtin.dispatch_name] at this

theorem Kind.name_inj {k k' : Kind} (h : k.name = k'.name) : k = k' := by
  cases k <;> cases k' <;> first | rfl | exact absurd h (by decide)

namespace Http

/-! ## Replies that show the tree -/

/-- A field of the object in the body. -/
def Reply.field? (r : Reply) (name : Text) : Option Json :=
  match r.body with
  | some (.obj fields) => Json.get? fields name
  | _ => none

/-- The reply shows a node of this kind. -/
structure Reply.Shows (r : Reply) (kind : Kind) : Prop where
  status_eq : r.status = 200
  kind_eq : r.field? "node_type" = some (.str kind.name)

/-- Asks for the node at a path. -/
def Request.node (path : Text) : Request := { method := "GET", path := "/filesystem/nodes", query := [("path", path)] }

/-- Asks for the names in the current directory. -/
def Request.listing : Request := { method := "GET", path := "/filesystem/list" }

namespace Service

/-- The reply to a request made of a session. -/
def reply (s : Session) (r : Request) : Reply := (handle (some s) r).1

section

variable (s : Session) {path : Text} (hnormal : Path.IsNormal path)

include hnormal

theorem reply_node :
    reply s (Request.node path) = match s.shell.tree.nodes.get? path with
      | some n => .ok (Wire.NodeView.ofNode path n).toJson
      | none => (Failure.pathNotFound (.str path)).reply := by
  have hn : Path.normalize path = path := hnormal
  have hserve : reply s (Request.node path) = replyTo ((node s path).map Wire.NodeView.toJson) := rfl
  rw [hserve, node_eq, hn]
  cases s.shell.tree.nodes.get? path <;> rfl

/-- There is a node of this kind at the path. -/
theorem shows_iff (kind : Kind) :
    (reply s (Request.node path)).Shows kind ↔ ∃ n, s.shell.tree.nodes.get? path = some n ∧ n.kind = kind := by
  rw [reply_node s hnormal]
  cases s.shell.tree.nodes.get? path with
  | none => exact iff_of_false (fun h => nomatch h.status_eq) nofun
  | some n =>
    have hfield : (Reply.ok (Wire.NodeView.ofNode path n).toJson).field? "node_type" = some (.str n.kind.name) := by
      cases n <;> rfl
    constructor
    · intro h
      have hname := hfield.symm.trans h.kind_eq
      simp only [Option.some.injEq, Json.str.injEq] at hname
      exact ⟨n, rfl, Kind.name_inj hname⟩
    · rintro ⟨_, hn, rfl⟩
      cases hn
      exact ⟨rfl, hfield⟩

theorem shows_directory_iff :
    (reply s (Request.node path)).Shows .directory ↔ s.shell.tree.isDirectoryAt path = true := by
  rw [shows_iff s hnormal, Tree.isDirectoryAt_iff]
  constructor
  · rintro ⟨n, hn, hkind⟩
    cases n with
    | directory children => exact ⟨children, hn⟩
    | file content => cases hkind
  · rintro ⟨children, hn⟩
    exact ⟨_, hn, rfl⟩

theorem shows_file_iff :
    (reply s (Request.node path)).Shows .file ↔ ∃ content, s.shell.tree.nodes.get? path = some (.file content) := by
  rw [shows_iff s hnormal]
  constructor
  · rintro ⟨n, hn, hkind⟩
    cases n with
    | directory children => cases hkind
    | file content => exact ⟨content, hn⟩
  · rintro ⟨content, hn⟩
    exact ⟨_, hn, rfl⟩

/-- A node can be made below what is shown as a directory. -/
theorem hasPlace_iff :
    s.shell.tree.HasPlace path ↔
      ∃ parent, (Path.split path).1 = some parent ∧ (reply s (Request.node parent)).Shows .directory := by
  constructor
  · rintro ⟨parent, leaf, hsplit, hdir⟩
    obtain ⟨hparent, -, -⟩ := hnormal.eq_child hsplit
    exact ⟨parent, by rw [hsplit], (shows_directory_iff s hparent).mpr hdir⟩
  · rintro ⟨parent, hfst, hshows⟩
    have hsplit : Path.split path = (some parent, (Path.split path).2) := Prod.ext hfst rfl
    obtain ⟨hparent, -, -⟩ := hnormal.eq_child hsplit
    exact ⟨parent, _, hsplit, (shows_directory_iff s hparent).mp hshows⟩

theorem status_eq_notFound_iff :
    (reply s (Request.node path)).status = 404 ↔ s.shell.tree.nodes.get? path = none := by
  rw [reply_node s hnormal]
  cases s.shell.tree.nodes.get? path with
  | none => exact iff_of_true rfl rfl
  | some n => exact iff_of_false (fun h => nomatch h) nofun

end

/-- The names in the current directory, each with its kind. -/
theorem reply_listing {s : Session} {children : List Text} (hnormal : Path.IsNormal s.shell.cwd)
    (hcwd : s.shell.tree.nodes.get? s.shell.cwd = some (.directory children)) :
    reply s Request.listing = .ok (Wire.Listing.toJson ⟨s.shell.cwd, children.map fun name =>
      ⟨name, if s.shell.tree.isDirectoryAt (Path.child s.shell.cwd name) then .directory else .file⟩,
        children.length⟩) := by
  have hserve : reply s Request.listing = replyTo ((list s none).map Wire.Listing.toJson) := rfl
  have hlisted : listedPath s none = s.shell.cwd := rfl
  rw [hserve, list_eq hlisted hnormal, hcwd]
  rfl

/-! ## Commands and replies -/

/-- An entry of a listing as it is printed. -/
def printed (entry : Wire.Child) : Text := if entry.kind = .directory then entry.name ++ ['/'] else entry.name

/-- In a directory, what is printed is what the reply lists. -/
theorem list_agrees {s : Session} (hnormal : Path.IsNormal s.shell.cwd)
    (hcwd : s.shell.tree.isDirectoryAt s.shell.cwd = true) :
    (reply s Request.listing).status = 200 ∧ ∃ entries : List Wire.Child,
      (reply s Request.listing).field? "entries" = some (.arr (entries.map Wire.Child.toJson)) ∧
      ∃ r, (s.execute "ls").results = [r] ∧ r.isError = false ∧
        r.output = Text.join "  " (entries.map printed) := by
  obtain ⟨children, hchildren⟩ := Tree.isDirectoryAt_iff.mp hcwd
  rw [reply_listing hnormal hchildren]
  have hline : Line.commands "ls" = ["ls".toList] := by decide
  have htokens : Token.tokens s.shell.environment "ls" = [Builtin.ls.name] := rfl
  obtain ⟨hresults, -⟩ := s.execute_of_commands hline htokens
  rw [Builtin.dispatch_name, Builtin.run_ls_children s.shell hnormal hchildren] at hresults
  refine ⟨rfl, _, rfl, _, hresults, rfl, ?_⟩
  show Text.join "  " _ = Text.join "  " _
  rw [List.map_map]
  congr 1
  apply List.map_congr_left
  intro name _
  cases hdir : s.shell.tree.isDirectoryAt (Path.child s.shell.cwd name) <;> simp [Builtin.entryName, printed, hdir]

section

variable (s : Session) {t : Text} (h : Token.IsLiteral t)

include h

theorem cat_agrees :
    let node := reply s (Request.node (Path.resolve t s.shell.cwd))
    ∃ r, (s.execute (Line.ofOperand .cat t)).results = [r] ∧ (r.isError = false ↔ node.Shows .file) ∧
      (r.isError = false → node.field? "content" = some (.str r.output)) := by
  intro node
  have hnormal : Path.IsNormal (Path.resolve t s.shell.cwd) := Path.isNormal_resolve t s.shell.cwd
  have hreply : node = _ := reply_node s hnormal
  obtain ⟨hresults, -⟩ := s.execute_ofOperand .cat h
  refine ⟨_, hresults, ?_, fun hok => ?_⟩
  · rw [Shell.isError_eq_false_iff, Builtin.run_cat_isOk_iff, shows_file_iff s hnormal]
  · rw [Shell.isError_eq_false_iff, Builtin.run_cat_isOk_iff] at hok
    obtain ⟨content, hfile⟩ := hok
    rw [hreply, Builtin.run_cat_node, hfile]
    rfl

theorem changeDirectory_agrees (htilde : t.head? ≠ some '~') :
    let x := s.execute (Line.ofOperand .cd t)
    ∃ r, x.results = [r] ∧
      (r.isError = false ↔ (reply s (Request.node (Path.resolve t s.shell.cwd))).Shows .directory) ∧
      (r.isError = false →
        Path.IsNormal x.session.shell.cwd ∧ x.session.shell.tree.isDirectoryAt x.session.shell.cwd = true) := by
  intro x
  have hnormal : Path.IsNormal (Path.resolve t s.shell.cwd) := Path.isNormal_resolve t s.shell.cwd
  have hdestination := Shell.destination_of_head? htilde s.shell
  obtain ⟨hresults, hshell⟩ := s.execute_ofOperand .cd h
  refine ⟨_, hresults, ?_, fun hok => ?_⟩
  · rw [Shell.isError_eq_false_iff, Builtin.run_cd_isOk_iff, hdestination, shows_directory_iff s hnormal]
  · rw [Shell.isError_eq_false_iff, Builtin.run_cd_isOk_iff, hdestination] at hok
    rw [Builtin.run_cd_destination, hdestination, if_pos hok] at hshell
    have hsession : x.session.shell = { s.shell with cwd := Path.resolve t s.shell.cwd } := hshell
    rw [hsession]
    exact ⟨hnormal, hok⟩

theorem makeDirectory_agrees :
    let p := Path.resolve t s.shell.cwd
    ∃ r, (s.execute (Line.ofOperand .mkdir t)).results = [r] ∧
      (r.isError = false ↔ (reply s (Request.node p)).status = 404 ∧
        ∃ parent, (Path.split p).1 = some parent ∧ (reply s (Request.node parent)).Shows .directory) := by
  intro p
  have hnormal : Path.IsNormal p := Path.isNormal_resolve t s.shell.cwd
  obtain ⟨hresults, -⟩ := s.execute_ofOperand .mkdir h
  refine ⟨_, hresults, ?_⟩
  rw [Shell.isError_eq_false_iff, Builtin.run_mkdir_isOk_iff, status_eq_notFound_iff s hnormal,
    hasPlace_iff s hnormal]

end

/-- Whatever the session, for a literal that does not start with a tilde, as the operand
    between quotes of a line of its own: `cat` succeeds exactly if a file is shown at the
    path that the operand names, and prints its content; `cd` exactly if a directory is
    shown there, and then `ls` prints what is listed without a path, a slash behind the
    directories; `mkdir` exactly if nothing is found there and a directory is shown at the
    parent. -/
theorem commands_agree_with_inspection (s : Session) {t : Text} (h : Token.IsLiteral t)
    (htilde : t.head? ≠ some '~') :
    let p := Path.resolve t s.shell.cwd
    let node (path : Text) := reply s (Request.node path)
    (∃ r, (s.execute (Line.ofOperand .cat t)).results = [r] ∧ (r.isError = false ↔ (node p).Shows .file) ∧
      (r.isError = false → (node p).field? "content" = some (.str r.output))) ∧
    (∃ r, let x := s.execute (Line.ofOperand .cd t)
      x.results = [r] ∧ (r.isError = false ↔ (node p).Shows .directory) ∧
      (r.isError = false →
        let listing := reply x.session Request.listing
        listing.status = 200 ∧ ∃ entries : List Wire.Child,
          listing.field? "entries" = some (.arr (entries.map Wire.Child.toJson)) ∧
          ∃ r', (x.session.execute "ls").results = [r'] ∧ r'.isError = false ∧
            r'.output = Text.join "  " (entries.map printed))) ∧
    ∃ r, (s.execute (Line.ofOperand .mkdir t)).results = [r] ∧
      (r.isError = false ↔ (node p).status = 404 ∧
        ∃ parent, (Path.split p).1 = some parent ∧ (node parent).Shows .directory) := by
  intro p node
  obtain ⟨r, hresults, hshows, hsession⟩ := changeDirectory_agrees s h htilde
  refine ⟨cat_agrees s h, ⟨r, hresults, hshows, fun hok => ?_⟩, makeDirectory_agrees s h⟩
  obtain ⟨hnormal, hdir⟩ := hsession hok
  exact list_agrees hnormal hdir

/-- A directory whose name starts with a blank, and slashes behind it. -/
theorem commands_agree_with_inspection_blank :
    let s := (Session.create "s" Config.standard .stopped).after [.execute "mkdir \" a\" & touch \" a/b\""]
    let t : Text := " a//"
    let x := s.execute (Line.ofOperand .cd t)
    (Token.IsLiteral t ∧ t.head? ≠ some '~') ∧
      (∃ r, x.results = [r] ∧ r.isError = false) ∧
      (∃ entries : List Wire.Child,
        (reply x.session Request.listing).field? "entries" = some (.arr (entries.map Wire.Child.toJson)) ∧
        ∃ r, (x.session.execute "ls").results = [r] ∧ r.output = Text.join "  " (entries.map printed)) ∧
      ∃ r, (s.execute (Line.ofOperand .mkdir t)).results = [r] ∧ r.isError = true := by
  intro s t x
  have h : Token.IsLiteral t := by decide
  have htilde : t.head? ≠ some '~' := by decide
  have hnormal : Path.IsNormal (Path.resolve t s.shell.cwd) := Path.isNormal_resolve t s.shell.cwd
  have hdir : s.shell.tree.isDirectoryAt (Path.resolve t s.shell.cwd) = true := by decide
  obtain ⟨-, ⟨r, hresults, hshows, hlist⟩, ⟨r', hresults', hmade⟩⟩ :=
    commands_agree_with_inspection s h htilde
  have hok : r.isError = false := hshows.mpr ((shows_directory_iff s hnormal).mpr hdir)
  obtain ⟨-, entries, hentries, shown, hshown, -, houtput⟩ := hlist hok
  refine ⟨⟨h, htilde⟩, ⟨r, hresults, hok⟩, ⟨entries, hentries, shown, hshown, houtput⟩,
    r', hresults', ?_⟩
  rw [← Bool.not_eq_false]
  intro hfresh
  have hnone := (status_eq_notFound_iff s hnormal).mp (hmade.mp hfresh).1
  unfold Tree.isDirectoryAt at hdir
  rw [hnone] at hdir
  cases hdir

end Service

end Http

end TreeShell
