/-
  TreeShell.OrderedMap — finite maps that remember the order of insertion.

  The tree's nodes and the environment's variables are kept in such maps. Inserting at
  a present key replaces its value in place, at a new key it appends (`keys_insert`);
  what a map holds after an insertion or an erasure is `get?_insert` and `get?_erase`.
-/

import TreeShell.Text

namespace TreeShell

structure OrderedMap (α β : Type) where
  entries : List (α × β)
  distinct : (entries.map Prod.fst).Nodup

namespace OrderedMap

variable {α β : Type} [DecidableEq α]

omit [DecidableEq α] in
theorem ext {m n : OrderedMap α β} (h : m.entries = n.entries) : m = n := by
  cases m; cases n; cases h; rfl

instance [DecidableEq β] : DecidableEq (OrderedMap α β) := fun m n =>
  if h : m.entries = n.entries then isTrue (ext h) else isFalse fun e => h (e ▸ rfl)

def empty : OrderedMap α β := ⟨[], List.nodup_nil⟩

def keys (m : OrderedMap α β) : List α := m.entries.map Prod.fst

def size (m : OrderedMap α β) : Nat := m.entries.length

def find (k : α) : List (α × β) → Option β
  | [] => none
  | (k', v) :: rest => if k' = k then some v else find k rest

def get? (m : OrderedMap α β) (k : α) : Option β := find k m.entries

def contains (m : OrderedMap α β) (k : α) : Bool := (m.get? k).isSome

/-! ## Insertion -/

def put (k : α) (v : β) : List (α × β) → List (α × β)
  | [] => [(k, v)]
  | (k', v') :: rest => if k' = k then (k, v) :: rest else (k', v') :: put k v rest

theorem map_fst_put (k : α) (v : β) (l : List (α × β)) :
    (put k v l).map Prod.fst =
      if k ∈ l.map Prod.fst then l.map Prod.fst else l.map Prod.fst ++ [k] := by
  induction l with
  | nil => simp [put]
  | cons e rest ih =>
    obtain ⟨k', v'⟩ := e
    by_cases h : k' = k
    · simp [put, h]
    · simp only [put, h, if_false, List.map_cons, List.mem_cons, Ne.symm h, false_or, ih]
      split <;> simp

def insert (m : OrderedMap α β) (k : α) (v : β) : OrderedMap α β where
  entries := put k v m.entries
  distinct := by
    rw [map_fst_put]
    split
    · exact m.distinct
    · next h =>
      refine List.nodup_append.2 ⟨m.distinct, by simp, ?_⟩
      intro a ha b hb
      simp only [List.mem_singleton] at hb
      exact fun e => h (hb ▸ e ▸ ha)

/-- A later pair with the same key replaces the value and keeps the place. -/
def ofList (pairs : List (α × β)) : OrderedMap α β :=
  pairs.foldl (fun m p => m.insert p.1 p.2) empty

/-! ## Erasure -/

/-- Erasing and inserting again moves the key to the end. -/
def erase (m : OrderedMap α β) (k : α) : OrderedMap α β where
  entries := m.entries.filter fun e => !decide (e.1 = k)
  distinct := m.distinct.sublist (List.Sublist.map Prod.fst List.filter_sublist)

/-! ## What a map holds -/

theorem find_put (k j : α) (v : β) (l : List (α × β)) :
    find j (put k v l) = if k = j then some v else find j l := by
  induction l with
  | nil => simp [put, find]
  | cons e rest ih =>
    obtain ⟨k', v'⟩ := e
    by_cases h : k' = k
    · subst h
      simp only [put, if_true, find]
      split <;> rfl
    · simp only [put, h, if_false, find, ih]
      by_cases hj : k' = j
      · subst hj; simp [Ne.symm h]
      · simp [hj]

@[simp] theorem get?_insert (m : OrderedMap α β) (k j : α) (v : β) :
    (m.insert k v).get? j = if k = j then some v else m.get? j := find_put k j v m.entries

theorem find_filter (k j : α) (l : List (α × β)) :
    find j (l.filter fun e => !decide (e.1 = k)) = if k = j then none else find j l := by
  induction l with
  | nil => simp [find]
  | cons e rest ih =>
    obtain ⟨k', v'⟩ := e
    by_cases h : k' = k
    · subst h
      simp only [List.filter_cons, decide_true, Bool.not_true, Bool.false_eq_true, if_false, ih,
        find]
      split <;> rfl
    · simp only [List.filter_cons, h, decide_false, Bool.not_false, if_true, find, ih]
      by_cases hj : k' = j
      · subst hj; simp [Ne.symm h]
      · simp [hj]

@[simp] theorem get?_erase (m : OrderedMap α β) (k j : α) :
    (m.erase k).get? j = if k = j then none else m.get? j := find_filter k j m.entries

theorem find_isSome (k : α) (l : List (α × β)) :
    (find k l).isSome = true ↔ k ∈ l.map Prod.fst := by
  induction l with
  | nil => simp [find]
  | cons e rest ih =>
    obtain ⟨k', v'⟩ := e
    by_cases h : k' = k
    · simp [find, h]
    · simp [find, h, ih, Ne.symm h]

theorem contains_iff (m : OrderedMap α β) (k : α) : m.contains k = true ↔ k ∈ m.keys :=
  find_isSome k m.entries

theorem contains_eq_false_iff (m : OrderedMap α β) (k : α) :
    m.contains k = false ↔ m.get? k = none := by
  simp [contains]

theorem get?_eq_none_iff (m : OrderedMap α β) (k : α) : m.get? k = none ↔ k ∉ m.keys := by
  rw [← contains_iff, Bool.not_eq_true, contains_eq_false_iff]

theorem find_eq_some_iff {l : List (α × β)} (h : (l.map Prod.fst).Nodup) (k : α) (v : β) :
    find k l = some v ↔ (k, v) ∈ l := by
  induction l with
  | nil => simp [find]
  | cons e rest ih =>
    obtain ⟨k', v'⟩ := e
    rw [List.map_cons, List.nodup_cons] at h
    by_cases hk : k' = k
    · subst hk
      have hrest : (k', v) ∉ rest := fun hm => h.1 (List.mem_map.mpr ⟨_, hm, rfl⟩)
      simp only [find, if_true, Option.some.injEq, List.mem_cons, Prod.mk.injEq, true_and, hrest, or_false]
      exact eq_comm
    · simp [find, hk, Ne.symm hk, ih h.2]

/-- A map holds exactly its entries. -/
theorem get?_eq_some_iff (m : OrderedMap α β) (k : α) (v : β) :
    m.get? k = some v ↔ (k, v) ∈ m.entries := find_eq_some_iff m.distinct k v

theorem mem_keys_iff (m : OrderedMap α β) (k : α) : k ∈ m.keys ↔ ∃ v, m.get? k = some v := by
  rw [← contains_iff, contains, Option.isSome_iff_exists]

theorem mem_keys_of_get? {m : OrderedMap α β} {k : α} {v : β} (h : m.get? k = some v) : k ∈ m.keys :=
  (mem_keys_iff m k).mpr ⟨v, h⟩

theorem keys_insert (m : OrderedMap α β) (k : α) (v : β) :
    (m.insert k v).keys = if k ∈ m.keys then m.keys else m.keys ++ [k] :=
  map_fst_put k v m.entries

omit [DecidableEq α] in
theorem nodup_keys (m : OrderedMap α β) : m.keys.Nodup := m.distinct

omit [DecidableEq α] in
theorem length_keys (m : OrderedMap α β) : m.keys.length = m.size := List.length_map _

end OrderedMap

end TreeShell
