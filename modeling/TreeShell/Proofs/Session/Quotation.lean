/-
  TreeShell.Proofs.Session.Quotation — lines made of words between quotes.

  Between quotes a word is one token: no blank in it cuts it, nor does a comment mark in it
  begin a comment (`split_ofWords`, `commands_ofWords`). Two things still show through
  quotes, the separator of commands and the dollar sign at the start of a token; a word
  without them, and without a quote of its own, is a literal (`Token.IsLiteral`).

  Main statement: the line of some literals is dispatched as they are, on any session
  (`execute_ofWords`).
-/

import TreeShell.Proofs.Session.Failure

namespace TreeShell

theorem Text.mem_join {sep : Text} {pieces : List Text} {c : Char} (h : c ∈ join sep pieces) :
    c ∈ sep ∨ ∃ piece ∈ pieces, c ∈ piece := by
  induction pieces with
  | nil => cases h
  | cons piece pieces ih =>
    cases pieces with
    | nil => exact .inr ⟨piece, by simp, h⟩
    | cons next pieces =>
      rw [join_cons_cons, List.mem_append, List.mem_append] at h
      rcases h with (h | h) | h
      · exact .inr ⟨piece, by simp, h⟩
      · exact .inl h
      · rcases ih h with h | ⟨other, hother, h⟩
        · exact .inl h
        · exact .inr ⟨other, List.mem_cons_of_mem _ hother, h⟩

/-! ## Tokens -/

namespace Token

/-- Between quotes. -/
def enclosed (t : Text) : Text := quote :: t ++ [quote]

theorem getLast?_enclosed (t : Text) : (enclosed t).getLast? = some quote := List.getLast?_concat

theorem mem_enclosed {c : Char} {t : Text} : c ∈ enclosed t ↔ c = quote ∨ c ∈ t := by
  simp only [enclosed, List.cons_append, List.mem_cons, List.mem_append, List.not_mem_nil, or_false]
  exact ⟨fun h => h.elim .inl fun h => h.elim .inr .inl, fun h => h.elim .inl fun h => .inr (.inl h)⟩

section

variable {quoted : Bool} {t rest piece : Text} {more : List Text}

/-- Characters that neither toggle quoting nor end a token go to the piece behind them. -/
theorem pieces_append (ht : ∀ c ∈ t, c ≠ quote ∧ (isSeparator c && !quoted) = false)
    (hrest : pieces quoted rest = piece :: more) : pieces quoted (t ++ rest) = (t ++ piece) :: more := by
  induction t with
  | nil => exact hrest
  | cons c t ih =>
    obtain ⟨hquote, hkept⟩ := ht c (by simp)
    have htail := ih fun d hd => ht d (List.mem_cons_of_mem _ hd)
    simp [pieces, hquote, hkept, htail]

theorem pieces_enclosed_append (ht : quote ∉ t) (hrest : pieces false rest = piece :: more) :
    pieces false (enclosed t ++ rest) = (t ++ piece) :: more := by
  have hclose : pieces true (quote :: rest) = piece :: more := by simp [pieces, hrest]
  have hinside : pieces true (t ++ quote :: rest) = (t ++ piece) :: more :=
    pieces_append (fun c hc => ⟨fun e => ht (e ▸ hc), by simp⟩) hclose
  have hopen : enclosed t ++ rest = quote :: (t ++ quote :: rest) := by simp [enclosed]
  rw [hopen]
  simpa [pieces] using hinside

end

theorem pieces_space (raw : Text) : pieces false (' ' :: raw) = [] :: pieces false raw := by
  simp [pieces, isSeparator, quote]

section

variable {t : Text} (hne : t ≠ [])

include hne

theorem split_enclosed (ht : quote ∉ t) : split (enclosed t) = [t] := by
  have h : pieces false (enclosed t ++ []) = [t ++ []] := pieces_enclosed_append ht rfl
  simp only [List.append_nil] at h
  simp [split, h, hne]

theorem split_enclosed_space (ht : quote ∉ t) (raw : Text) : split (enclosed t ++ ' ' :: raw) = t :: split raw := by
  have h := pieces_enclosed_append ht (pieces_space raw)
  simp [split, h, hne]

/-- A word without quotes and separators is a token as it stands. -/
theorem split_bare_space (ht : ∀ c ∈ t, c ≠ quote ∧ isSeparator c = false) (raw : Text) :
    split (t ++ ' ' :: raw) = t :: split raw := by
  have hkept : ∀ c ∈ t, c ≠ quote ∧ (isSeparator c && !false) = false := by simpa using ht
  have h := pieces_append hkept (pieces_space raw)
  simp [split, h, hne]

end

theorem substitute_eq_self {token : Text} (h : token.head? ≠ some '$') (env : Environment) :
    substitute env token = token := by
  unfold substitute
  split
  · exact absurd rfl h
  · rfl

/-- Between quotes it is one token of any line, and stands for itself. -/
structure IsLiteral (t : Text) : Prop where
  ne_nil : t ≠ []
  quote_not_mem : quote ∉ t
  separator_not_mem : Line.separator ∉ t
  not_variable : t.head? ≠ some '$'

instance (t : Text) : Decidable (IsLiteral t) :=
  decidable_of_iff (t ≠ [] ∧ quote ∉ t ∧ Line.separator ∉ t ∧ t.head? ≠ some '$')
    ⟨fun ⟨hne, hquote, hsep, hvariable⟩ => ⟨hne, hquote, hsep, hvariable⟩,
      fun h => ⟨h.ne_nil, h.quote_not_mem, h.separator_not_mem, h.not_variable⟩⟩

end Token

/-! ## Lines -/

namespace Line

open Token

/-- The words, each between quotes, with a space between any two. -/
def ofWords (words : List Text) : Text := Text.join [' '] (words.map enclosed)

theorem ofWords_cons_cons (word next : Text) (words : List Text) :
    ofWords (word :: next :: words) = enclosed word ++ ' ' :: ofWords (next :: words) := by
  simp [ofWords]

theorem head?_ofWords (word : Text) (words : List Text) : (ofWords (word :: words)).head? = some quote := by
  cases words with
  | nil => rfl
  | cons next words => rw [ofWords_cons_cons]; rfl

theorem getLast?_ofWords (word : Text) (words : List Text) : (ofWords (word :: words)).getLast? = some quote := by
  induction words generalizing word with
  | nil => exact getLast?_enclosed word
  | cons next words ih =>
    rw [ofWords_cons_cons, List.getLast?_append, List.getLast?_cons, ih next]
    rfl

theorem separator_not_mem_ofWords {words : List Text} (h : ∀ word ∈ words, separator ∉ word) :
    separator ∉ ofWords words := by
  intro hmem
  rcases Text.mem_join hmem with hspace | ⟨piece, hpiece, hmem⟩
  · exact absurd hspace (by decide)
  · obtain ⟨word, hword, rfl⟩ := List.mem_map.mp hpiece
    rcases mem_enclosed.mp hmem with hquote | hmem
    · exact absurd hquote (by decide)
    · exact h word hword hmem

theorem split_ofWords {words : List Text} (h : ∀ word ∈ words, word ≠ [] ∧ quote ∉ word) :
    split (ofWords words) = words := by
  induction words with
  | nil => rfl
  | cons word words ih =>
    obtain ⟨hne, hquote⟩ := h word (by simp)
    cases words with
    | nil => exact split_enclosed hne hquote
    | cons next words =>
      rw [ofWords_cons_cons, split_enclosed_space hne hquote, ih fun w hw => h w (List.mem_cons_of_mem _ hw)]

theorem tokens_ofWords {words : List Text} (h : ∀ word ∈ words, IsLiteral word) (env : Environment) :
    tokens env (ofWords words) = words := by
  have hsplit : split (ofWords words) = words :=
    split_ofWords fun word hword => ⟨(h word hword).ne_nil, (h word hword).quote_not_mem⟩
  have hself : ∀ word ∈ words, substitute env word = word :=
    fun word hword => substitute_eq_self (h word hword).not_variable env
  unfold tokens
  rw [hsplit]
  exact (List.map_congr_left hself).trans (List.map_id' words)

/-- A line that is nothing to trim, no comment and nowhere to be cut is one command. -/
theorem commands_eq_singleton {line : Text} {first last : Char} (hfirst : line.head? = some first)
    (hlast : line.getLast? = some last) (hfirstBlank : Text.isBlank first = false)
    (hlastBlank : Text.isBlank last = false) (hmark : first ≠ commentMark) (hsep : separator ∉ line) :
    commands line = [line] := by
  have htrim : Text.trim line = line := by
    refine Text.trim_eq_self (fun c hc => ?_) (fun c hc => ?_)
    · rw [hfirst] at hc
      cases hc; exact hfirstBlank
    · rw [hlast] at hc
      cases hc; exact hlastBlank
  have hne : line ≠ [] := by
    rintro rfl
    cases hfirst
  unfold commands
  simp [htrim, hfirst, hmark, Text.splitOn_eq_self hsep, hne]

theorem commands_ofWords {word : Text} {words : List Text} (h : ∀ w ∈ word :: words, separator ∉ w) :
    commands (ofWords (word :: words)) = [ofWords (word :: words)] :=
  commands_eq_singleton (head?_ofWords word words) (getLast?_ofWords word words) (by decide) (by decide) (by decide)
    (separator_not_mem_ofWords h)

end Line

/-! ## Execution -/

/-- What is concluded from a dispatch names the command, and is otherwise the same for any. -/
theorem Shell.conclude_command (command line : Text) (ending : Ending) :
    (conclude line ending).value = { (conclude command ending).value with command := line } ∧
      (conclude line ending).shell = (conclude command ending).shell := by
  cases ending <;> exact ⟨rfl, rfl⟩

namespace Session

/-- A line that is one command with tokens runs as the dispatch of these. -/
theorem execute_of_commands (s : Session) {line word : Text} {args : List Text} (hline : Line.commands line = [line])
    (htokens : Token.tokens s.shell.environment line = word :: args) :
    let ran := Shell.conclude line (s.shell.dispatch word args)
    (s.execute line).results = [ran.value] ∧ (s.execute line).session.shell = ran.shell := by
  intro ran
  have hrun : s.shell.run line = some ran := Shell.run_eq_some_iff.mpr ⟨word, args, htokens, rfl⟩
  obtain ⟨hvalue, hshell⟩ := Shell.runAll_cons hrun []
  rw [execute_results, execute_session, hline]
  exact ⟨hvalue, hshell⟩

/-- On any session, for a word and arguments that are literals: the line of them, each
    between quotes, has one result, which but for its command is what is concluded from
    dispatching the word with the arguments, and it leaves the session as that does. So
    `echo` gives the arguments back with a space between any two. -/
theorem execute_ofWords (s : Session) (word : Text) (args : List Text) (h : ∀ t ∈ word :: args, Token.IsLiteral t)
    (command : Text) :
    let line := Line.ofWords (word :: args)
    let ran := Shell.conclude command (s.shell.dispatch word args)
    let result := { ran.value with command := line }
    (s.execute line).results = [result] ∧
      (s.execute line).session = { s with shell := ran.shell }.recording [result] ∧
      (word = Builtin.echo.name →
        result.output = Text.join [' '] args ∧ result.isError = false ∧ ran.shell = s.shell) := by
  intro line ran result
  have hline : Line.commands line = [line] := Line.commands_ofWords fun t ht => (h t ht).separator_not_mem
  have htokens : Token.tokens s.shell.environment line = word :: args := Line.tokens_ofWords h s.shell.environment
  obtain ⟨hresults, hshell⟩ := s.execute_of_commands hline htokens
  obtain ⟨hvalue, hsame⟩ := Shell.conclude_command command line (s.shell.dispatch word args)
  have hresult : (s.execute line).results = [result] := hresults.trans (congrArg (fun r => [r]) hvalue)
  refine ⟨hresult, ?_, ?_⟩
  · rw [execute_session, hresult, ← hsame, ← hshell]
    rfl
  · rintro rfl
    exact ⟨rfl, rfl, rfl⟩

/-- A directory with blanks at both ends of its name, a comment mark and a tilde in it. -/
theorem execute_ofWords_blank_ends :
    let s := create "s" Config.standard .stopped
    let name : Text := "\t # ~\u3000a\n"
    let line := Line.ofWords [Builtin.mkdir.name, name]
    (∀ t ∈ [Builtin.mkdir.name, name], Token.IsLiteral t) ∧
      (s.execute line).results = [{ command := line, output := [] }] ∧
      (s.execute line).session.shell.tree.nodes.get? (Path.child "/home/user" name) = some (.directory []) := by
  intro s name line
  have h : ∀ t ∈ [Builtin.mkdir.name, name], Token.IsLiteral t := by decide
  obtain ⟨hresults, hsession, -⟩ := execute_ofWords s Builtin.mkdir.name [name] h line
  have hshell : (s.execute line).session.shell =
      (Shell.conclude line (s.shell.dispatch Builtin.mkdir.name [name])).shell := by rw [hsession, recording_shell]
  have hvalue : (Shell.conclude line (s.shell.dispatch Builtin.mkdir.name [name])).value =
      { command := line, output := [] } := by decide
  have htree : (Shell.conclude line (s.shell.dispatch Builtin.mkdir.name [name])).shell.tree.nodes.get?
      (Path.child "/home/user" name) = some (.directory []) := by decide
  refine ⟨h, ?_, ?_⟩
  · rw [hresults, hvalue]
  · rw [hshell, htree]

end Session

end TreeShell
