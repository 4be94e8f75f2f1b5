/-
  TreeShell.Proofs.Config — the search path as text and as a list.

  A search path is written with a colon between any two directories, in the settings of the
  process and in the variable `PATH` of a session. Reading it leaves out what is empty
  between colons, so that the entries read are those that can be written (`IsEntry`), and
  what was written of such entries is read as it was (`splitPath_joinedPath`). No entries
  and the empty text belong together.

  Main statement: a configuration read from the variables of the process has the search
  path that was written, and the `PATH` of a session made from it gives the configuration
  again (`path_reads_back`).
-/

import TreeShell.Proofs.Wire
import TreeShell.Session

namespace TreeShell

open Schema

/-! ## Text and list -/

namespace Config

/-- A directory that can stand between colons. -/
def IsEntry (dir : Text) : Prop := dir ≠ [] ∧ ':' ∉ dir

theorem isEntry_of_mem_splitPath {raw dir : Text} (h : dir ∈ splitPath raw) : IsEntry dir := by
  obtain ⟨hmem, hne⟩ := List.mem_filter.mp h
  exact ⟨of_decide_eq_true hne, Text.not_mem_of_mem_splitOn hmem⟩

theorem splitPath_joinedPath {dirs : List Text} (h : ∀ dir ∈ dirs, IsEntry dir) :
    splitPath (Environment.joinedPath dirs) = dirs := by
  cases dirs with
  | nil => rfl
  | cons dir dirs =>
    have hcut : Text.splitOn ':' (Text.join [':'] (dir :: dirs)) = dir :: dirs :=
      Text.splitOn_join (List.cons_ne_nil _ _) fun d hd => (h d hd).2
    unfold splitPath Environment.joinedPath
    rw [hcut]
    exact List.filter_eq_self.mpr fun d hd => decide_eq_true (h d hd).1

theorem splitPath_joinedPath_splitPath (raw : Text) :
    splitPath (Environment.joinedPath (splitPath raw)) = splitPath raw :=
  splitPath_joinedPath fun _ => isEntry_of_mem_splitPath

/-! ## Variables of the process -/

/-- No field comes from a variable that is not its own. -/
theorem get?_settings (given : OrderedMap Text Text) :
    Json.get? (settings given) "home" = (given.get? "WITSSHELL_HOME").map .str ∧
      Json.get? (settings given) "user" = (given.get? "WITSSHELL_USER").map .str ∧
      Json.get? (settings given) "search_path" =
        (given.get? "WITSSHELL_PATH").map fun raw => Json.texts (splitPath raw) := by
  unfold settings setting
  cases given.get? "WITSSHELL_HOME" <;> cases given.get? "WITSSHELL_USER" <;> cases given.get? "WITSSHELL_PATH" <;>
    exact ⟨rfl, rfl, rfl⟩

theorem fieldD_of_map {α : Type} {fields : List (Text × Json)} {name : Text} {read : Reading α}
    {given : Option Text} {write : Text → Json} (value : Text → α) (default : α)
    (hget : Json.get? fields name = given.map write)
    (hread : ∀ raw, given = some raw → read (write raw) = .valid (value raw)) :
    fieldD fields name read default = .valid ((given.map value).getD default) := by
  cases given with
  | none =>
    unfold fieldD
    rw [hget]
    rfl
  | some raw => exact fieldD_of_get? hget (hread raw rfl) default

theorem absolute_str {home : Text} (h : Path.isAbsolute home = true) : absolute (.str home) = .valid home := if_pos h

/-- What is not given has its default. -/
theorem ofVariables_eq {given : OrderedMap Text Text}
    (h : ∀ home, given.get? "WITSSHELL_HOME" = some home → Path.isAbsolute home = true) :
    ofVariables given = .valid (make ((given.get? "WITSSHELL_HOME").getD defaultHome)
      ((given.get? "WITSSHELL_USER").getD defaultUser)
      (((given.get? "WITSSHELL_PATH").map splitPath).getD defaultSearchPath)) := by
  obtain ⟨hgetHome, hgetUser, hgetPath⟩ := get?_settings given
  have hhome := fieldD_of_map id defaultHome hgetHome fun home hgiven => absolute_str (h home hgiven)
  have huser := fieldD_of_map id defaultUser hgetUser fun user _ => text_str user
  have hpath := fieldD_of_map splitPath defaultSearchPath hgetPath fun raw _ => list_texts (splitPath raw)
  unfold ofVariables ofFields
  rw [hhome, huser, hpath, Option.map_id]
  rfl

end Config

/-! ## Sessions -/

namespace Session

/-- The variables of a process that have a text for the search path, and for the home
    directory an absolute path if any: a configuration is read from them. Its search path is
    the list whose entries are joined in the text, if these can be told apart, and whatever
    the text, none of its entries is empty or has a colon. A session made from it has a
    `PATH` that is read as this search path, and in the place of the text gives the whole
    configuration again. -/
theorem path_reads_back {given : OrderedMap Text Text} {raw : Text} (hraw : given.get? "WITSSHELL_PATH" = some raw)
    (hhome : ∀ home, given.get? "WITSSHELL_HOME" = some home → Path.isAbsolute home = true) (id : Text)
    (clock : Clock) :
    ∃ config, Config.ofVariables given = .valid config ∧
      (∀ dirs : List Text, (∀ dir ∈ dirs, dir ≠ [] ∧ ':' ∉ dir) → raw = Text.join [':'] dirs →
        config.searchPath = dirs) ∧
      (∀ dir ∈ config.searchPath, dir ≠ [] ∧ ':' ∉ dir) ∧
      let path := (create id config clock).shell.environment.get "PATH"
      Config.splitPath path = config.searchPath ∧
        Config.ofVariables (given.insert "WITSSHELL_PATH" path) = .valid config := by
  have hread := Config.ofVariables_eq hhome
  rw [hraw] at hread
  refine ⟨_, hread, ?_, fun dir => Config.isEntry_of_mem_splitPath, ?_⟩
  · rintro dirs hdirs rfl
    exact Config.splitPath_joinedPath hdirs
  · intro path
    have hagain : Config.splitPath path = Config.splitPath raw := Config.splitPath_joinedPath_splitPath raw
    have hkept : ∀ name : Text, "WITSSHELL_PATH".toList ≠ name →
        (given.insert "WITSSHELL_PATH" path).get? name = given.get? name := by
      intro name hne
      rw [OrderedMap.get?_insert, if_neg hne]
    refine ⟨hagain, ?_⟩
    rw [Config.ofVariables_eq, hkept "WITSSHELL_HOME" (by decide), hkept "WITSSHELL_USER" (by decide),
      OrderedMap.get?_insert, if_pos rfl, Option.map_some, hagain]
    · rfl
    · rwa [hkept "WITSSHELL_HOME" (by decide)]

/-- Colons at both ends and side by side; the home directory is another one. -/
theorem path_reads_back_colons :
    let given : OrderedMap Text Text :=
      .ofList [("WITSSHELL_HOME", "/root"), ("WITSSHELL_PATH", ":/bin::usr/bin:")]
    (given.get? "WITSSHELL_PATH" = some ":/bin::usr/bin:" ∧
      ∀ home, given.get? "WITSSHELL_HOME" = some home → Path.isAbsolute home = true) ∧
    ∃ config, Config.ofVariables given = .valid config ∧ config.searchPath = (["/bin", "usr/bin"] : List Text) ∧
      (create "s" config .stopped).shell.environment.get "PATH" = "/bin:usr/bin" ∧
      Config.ofVariables (given.insert "WITSSHELL_PATH" "/bin:usr/bin") = .valid config := by
  intro given
  have hraw : given.get? "WITSSHELL_PATH" = some ":/bin::usr/bin:" := by decide
  have hhome : ∀ home, given.get? "WITSSHELL_HOME" = some home → Path.isAbsolute home = true := by
    intro home h
    have hget : given.get? "WITSSHELL_HOME" = some "/root" := by decide
    obtain rfl := Option.some.inj (hget.symm.trans h)
    rfl
  have hvalue : Config.ofVariables given = .valid (Config.make "/root" "user" ["/bin", "usr/bin"]) := rfl
  obtain ⟨config, hread, -, -, -, hagain⟩ := path_reads_back hraw hhome "s" .stopped
  obtain rfl := Checked.valid.inj (hread.symm.trans hvalue)
  exact ⟨⟨hraw, hhome⟩, _, hread, rfl, rfl, hagain⟩

end Session

end TreeShell
