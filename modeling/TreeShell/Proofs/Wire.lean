/-
  TreeShell.Proofs.Wire — what the service writes and the client reads.

  A list or a map of values is read back if each value is (`elements_map`, `entries_map`).
  From that every answer that the service gives about its session, and every one about a
  node, is read back as it was (`decode_executed` and its siblings): no field is lost that
  a reader needs, and none is taken for another.
-/

import TreeShell.Client

namespace TreeShell

open Schema

/-! ## Readings -/

namespace Schema

variable {α : Type} {read : Reading α} {write : α → Json}

theorem elements_map (h : ∀ a, read (write a) = .valid a) (i : Nat) (items : List α) :
    elements read i (items.map write) = .valid items := by
  induction items generalizing i with
  | nil => rfl
  | cons a items ih =>
    show List.cons <$> Checked.under (.index i) (read (write a)) <*>
      elements read (i + 1) (items.map write) = _
    rw [h a, ih]
    rfl

theorem list_map (h : ∀ a, read (write a) = .valid a) (items : List α) :
    list read (.arr (items.map write)) = .valid items := elements_map h 0 items

theorem text_str (t : Text) : text (.str t) = .valid t := rfl

theorem list_texts (items : List Text) :
    list text (Json.texts items) = .valid items := list_map text_str items

theorem entries_map (h : ∀ a, read (write a) = .valid a) (pairs : List (Text × α)) :
    entries read (pairs.map fun p => (p.1, write p.2)) = .valid pairs := by
  induction pairs with
  | nil => rfl
  | cons p pairs ih =>
    show (fun a others => (p.1, a) :: others) <$> Checked.under (.key p.1) (read (write p.2)) <*>
      entries read (pairs.map fun p => (p.1, write p.2)) = _
    rw [h p.2, ih]
    rfl

theorem map_pairs (pairs : List (Text × Text)) :
    map text (pairsToJson pairs) = .valid pairs := entries_map text_str pairs

theorem map_any (fields : List (Text × Json)) : map any (.obj fields) = .valid fields := by
  have hany (x : Json) : any (id x) = .valid x := rfl
  have h := entries_map hany fields
  rwa [show (fields.map fun p => (p.1, id p.2)) = fields from List.map_id fields] at h

theorem optional_opt (s : Option Text) : optional text (Json.opt s) = .valid s := by cases s <;> rfl

theorem optional_texts (items : Option (List Text)) :
    optional (list text) ((items.map Json.texts).getD .null) = .valid items := by
  cases items with
  | none => rfl
  | some items =>
    show some <$> list text (Json.texts items) = _
    rw [list_texts]
    rfl

theorem instant_written (t : Stamp) : instant t.written = .valid t := by
  unfold instant
  split
  · rfl
  · rename_i f hf
    have htells := t.isInstant
    rw [hf] at htells
    cases htells

/-! ## Fields -/

variable {fields : List (Text × Json)} {name : Text} {x : Json} {a : α}

theorem field_of_get? (hx : Json.get? fields name = some x) (ha : read x = .valid a) :
    field fields name read = .valid a := by
  unfold field
  rw [hx]
  exact congrArg (Checked.under (.key name)) ha

theorem fieldD_of_get? (hx : Json.get? fields name = some x) (ha : read x = .valid a) (default : α) :
    fieldD fields name read default = .valid a := by
  unfold fieldD
  rw [hx]
  exact congrArg (Checked.under (.key name)) ha

end Schema

/-! ## Records -/

theorem Result.read_toJson (r : Result) : Result.read r.toJson = .valid r := rfl

theorem Entry.read_toJson (e : Entry) : Entry.read e.toJson = .valid e := by
  show Entry.mk <$> field _ "command" text <*> field _ "output" text <*> field _ "is_error" bool <*>
    field _ "timestamp" instant = _
  rw [field_of_get? rfl (instant_written e.timestamp)]
  rfl

theorem Kind.read_name (kind : Kind) :
    Kind.read (.str kind.name) = .valid kind := by cases kind <;> rfl

theorem Wire.Child.read_toJson (x : Wire.Child) : Wire.Child.read x.toJson = .valid x := by
  show Wire.Child.mk <$> field _ "name" text <*> field _ "node_type" Kind.read = _
  rw [field_of_get? rfl (Kind.read_name x.kind)]
  rfl

namespace Client

theorem decode_of_valid {α : Type} {read : List (Text × Json) → Checked α} {fields : List (Text × Json)}
    {a : α} (h : read fields = .valid a) : decode read (.obj fields) = .ok a := by
  unfold decode
  simp only [h]

theorem decode_executed (x : Wire.Executed) : decode Wire.Executed.read x.toJson = .ok x := by
  refine decode_of_valid ?_
  unfold Wire.Executed.read
  rw [field_of_get? rfl (list_map Result.read_toJson x.results)]
  rfl

theorem decode_history (x : Wire.History) : decode Wire.History.read x.toJson = .ok x := by
  refine decode_of_valid ?_
  unfold Wire.History.read
  rw [field_of_get? rfl (list_map Entry.read_toJson x.entries)]
  rfl

theorem decode_state (x : Wire.State) : decode Wire.State.read x.toJson = .ok x := by
  refine decode_of_valid ?_
  unfold Wire.State.read
  rw [field_of_get? rfl (list_texts x.searchPath)]
  rfl

theorem decode_snapshot (x : Wire.Snapshot) : decode Wire.Snapshot.read x.toJson = .ok x := by
  have htree : map (map any) (.obj (x.tree.map fun p => (p.1, .obj p.2))) = .valid x.tree :=
    entries_map map_any x.tree
  refine decode_of_valid ?_
  unfold Wire.Snapshot.read
  rw [field_of_get? rfl (list_texts x.searchPath), field_of_get? rfl (map_pairs x.environment),
    field_of_get? rfl htree]
  rfl

theorem decode_variables (x : Wire.Variables) : decode Wire.Variables.read x.toJson = .ok x := by
  refine decode_of_valid ?_
  unfold Wire.Variables.read
  rw [field_of_get? rfl (map_pairs x.bindings), field_of_get? rfl (list_texts x.searchPath)]
  rfl

theorem decode_nodeView (x : Wire.NodeView) : decode Wire.NodeView.read x.toJson = .ok x := by
  refine decode_of_valid ?_
  unfold Wire.NodeView.read
  rw [field_of_get? rfl (Kind.read_name x.kind), fieldD_of_get? rfl (optional_texts x.children),
    fieldD_of_get? rfl (optional_opt x.content)]
  rfl

theorem decode_listing (x : Wire.Listing) : decode Wire.Listing.read x.toJson = .ok x := by
  refine decode_of_valid ?_
  unfold Wire.Listing.read
  rw [field_of_get? rfl (list_map Wire.Child.read_toJson x.entries)]
  rfl

theorem decode_resolved (x : Wire.Resolved) : decode Wire.Resolved.read x.toJson = .ok x := by
  have hkind : among [("builtin".toList, Wire.Resolved.Kind.builtin), ("external".toList, .external)]
      (.str x.kind.name) = .valid x.kind := by cases x.kind <;> rfl
  refine decode_of_valid ?_
  unfold Wire.Resolved.read
  rw [field_of_get? rfl hkind, fieldD_of_get? rfl (optional_opt x.path)]
  rfl

end Client

end TreeShell
