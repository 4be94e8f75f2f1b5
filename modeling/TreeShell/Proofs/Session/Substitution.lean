/-
  TreeShell.Proofs.Session.Substitution — values of variables as they reach the handlers.

  A command is cut before its variables are replaced. So a variable is one token, whatever
  its value holds, and the value is dispatched as it is (`Token.Fills`). How many tokens a
  command has can be seen in its text; the commands of a line are in its text as well.

  Main statement: on any two sessions a line has as many results, of the same commands, each
  dispatched with as many tokens, although from the first command on the two runs may have
  nothing else in common (`values_stay_whole`).
-/

import Mathlib.Data.List.Forall2
import TreeShell.Proofs.Session.Failure

namespace TreeShell

namespace Token

/-- What a token of a command is dispatched as: a variable as its value, anything else as
    itself. -/
inductive Fills (env : Environment) : Text → Text → Prop
  | value (name : Text) : Fills env ('$' :: name) (env.get name)
  | itself (token : Text) : token.head? ≠ some '$' → Fills env token token

theorem fills_substitute (env : Environment) (token : Text) : Fills env token (substitute env token) := by
  unfold substitute
  split
  · rename_i name
    exact .value name
  · rename_i h
    refine .itself token fun hhead => ?_
    obtain ⟨name, rfl⟩ := List.head?_eq_some_iff.mp hhead
    exact h name rfl

theorem fills_tokens (env : Environment) (command : Text) :
    List.Forall₂ (Fills env) (split command) (tokens env command) := by
  unfold tokens
  rw [List.forall₂_map_right_iff, List.forall₂_same]
  exact fun token _ => fills_substitute env token

end Token

namespace Shell

/-- The dispatch of a command on the shell that it meets. -/
structure Dispatch where
  shell : Shell
  command : Text
  word : Text
  args : List Text

namespace Dispatch

def tokens (d : Dispatch) : List Text := d.word :: d.args

def ran (d : Dispatch) : Ran Result := conclude d.command (d.shell.dispatch d.word d.args)

/-- It has the tokens of its command, one for one. -/
def Filled (d : Dispatch) : Prop :=
  List.Forall₂ (Token.Fills d.shell.environment) (Token.split d.command) d.tokens

/-- Of the same command, with as many tokens. -/
structure Alike (d d' : Dispatch) : Prop where
  command_eq : d.command = d'.command
  length_eq : d.tokens.length = d'.tokens.length

end Dispatch

/-- The dispatches of a run of commands, each on the shell that the one before left. -/
def dispatches (s : Shell) : List Text → List Dispatch
  | [] => []
  | command :: commands =>
    match Token.tokens s.environment command with
    | [] => s.dispatches commands
    | word :: args =>
      let d : Dispatch := ⟨s, command, word, args⟩
      d :: d.ran.shell.dispatches commands

theorem runAll_eq_dispatches (s : Shell) (commands : List Text) :
    (s.runAll commands).value = (s.dispatches commands).map fun d => d.ran.value := by
  induction commands generalizing s with
  | nil => rfl
  | cons command commands ih =>
    unfold runAll dispatches run
    cases Token.tokens s.environment command with
    | nil => exact ih s
    | cons word args => exact congrArg (List.cons _) (ih _)

theorem dispatches_filled (s : Shell) (commands : List Text) : ∀ d ∈ s.dispatches commands, d.Filled := by
  induction commands generalizing s with
  | nil => exact nofun
  | cons command commands ih =>
    have hfills := Token.fills_tokens s.environment command
    unfold dispatches
    cases htokens : Token.tokens s.environment command with
    | nil => exact ih s
    | cons word args =>
      rw [htokens] at hfills
      intro d hd
      rcases List.mem_cons.mp hd with rfl | hd
      · exact hfills
      · exact ih _ d hd

/-- No state of the shell decides whether a command is dispatched, or with how many tokens. -/
theorem dispatches_alike (s s' : Shell) (commands : List Text) :
    List.Forall₂ Dispatch.Alike (s.dispatches commands) (s'.dispatches commands) := by
  induction commands generalizing s s' with
  | nil => exact .nil
  | cons command commands ih =>
    unfold dispatches Token.tokens
    cases Token.split command with
    | nil => exact ih s s'
    | cons word args => exact .cons ⟨rfl, by simp [Dispatch.tokens]⟩ (ih _ _)

end Shell

namespace Session

/-- Whatever the two sessions, a line has the same commands among its results on both, in the
    same order. The results are those of the dispatches, of which each has one token for each
    that is written in its command: a variable's value as it is, whatever it holds, or else
    what is written. So on both sessions the dispatches have as many tokens. -/
theorem values_stay_whole (s s' : Session) (line : Text) :
    let dispatches (s : Session) := s.shell.dispatches (Line.commands line)
    (s.execute line).results.map Result.command = (s'.execute line).results.map Result.command ∧
      (s.execute line).results = (dispatches s).map (fun d => d.ran.value) ∧
      (∀ d ∈ dispatches s, d.Filled) ∧
      List.Forall₂ Shell.Dispatch.Alike (dispatches s) (dispatches s') := by
  intro dispatches
  refine ⟨?_, s.shell.runAll_eq_dispatches (Line.commands line), s.shell.dispatches_filled (Line.commands line),
    s.shell.dispatches_alike s'.shell (Line.commands line)⟩
  rw [execute_results, execute_results, Shell.runAll_commands, Shell.runAll_commands]

/-- Separators, a quote and the variable's own name in its value. -/
example : Token.tokens ⟨OrderedMap.ofList [("X".toList, "a\" & $X # b".toList)]⟩ "echo $X" =
    ["echo".toList, "a\" & $X # b".toList] := by decide

end Session

end TreeShell
