/-!
# Tables

A table holds at most one value for each key, in the order in which the keys came; a key that gets
another value keeps its place. It is seen through `get?`: `get?_insert` and `get?_drop` say what
writing a key and dropping a set of keys do to that view.
-/

set_option autoImplicit false

namespace Invalidation

structure Table (κ β : Type) where
  rows : List (κ × β)
  distinct : (rows.map Prod.fst).Nodup

namespace Table

variable {κ β : Type}

def empty : Table κ β := ⟨[], List.nodup_nil⟩

def drop (gone : κ → Bool) (table : Table κ β) : Table κ β where
  rows := table.rows.filter fun row => !gone row.1
  distinct := table.distinct.sublist (List.filter_sublist.map _)

@[ext] theorem ext {a b : Table κ β} (h : a.rows = b.rows) : a = b := by
  cases a; cases b; cases h; rfl

theorem drop_drop (p q : κ → Bool) (table : Table κ β) :
    (table.drop p).drop q = table.drop fun k => p k || q k := by
  ext1
  simp [drop, List.filter_filter, Bool.and_comm]

@[simp] theorem drop_false (table : Table κ β) : (table.drop fun _ => false) = table := by
  ext1
  simp [drop]

section Keyed

variable [DecidableEq κ]

def get? (table : Table κ β) (key : κ) : Option β := table.rows.lookup key

/-- The rows with a key's value in the place of the one it had, or behind them all. -/
def put (key : κ) (value : β) : List (κ × β) → List (κ × β)
  | [] => [(key, value)]
  | row :: rest => if row.1 = key then (key, value) :: rest else row :: put key value rest

theorem map_fst_put (key : κ) (value : β) (rows : List (κ × β)) :
    (put key value rows).map Prod.fst =
      if key ∈ rows.map Prod.fst then rows.map Prod.fst else rows.map Prod.fst ++ [key] := by
  induction rows with
  | nil => simp [put]
  | cons row rest ih =>
    by_cases hk : row.1 = key
    · simp [put, hk]
    · have hk' : ¬key = row.1 := fun h => hk h.symm
      by_cases hm : key ∈ rest.map Prod.fst <;> simp_all [put]

/-- Gives a key a value, in place of the one it may have had. -/
def insert (key : κ) (value : β) (table : Table κ β) : Table κ β where
  rows := put key value table.rows
  distinct := by
    rw [map_fst_put]
    split
    · exact table.distinct
    · next h =>
      refine List.nodup_append.2 ⟨table.distinct, by simp, ?_⟩
      intro a ha b hb hab
      rw [List.mem_singleton] at hb
      exact h (hb ▸ hab ▸ ha)

theorem lookup_put (key other : κ) (value : β) (rows : List (κ × β)) :
    (put key value rows).lookup other = if other = key then some value else rows.lookup other := by
  have beq (k : κ) : (other == k) = decide (other = k) := rfl
  induction rows with
  | nil => by_cases h : other = key <;> simp [put, List.lookup_cons, beq, h]
  | cons row rest ih =>
    obtain ⟨k, v⟩ := row
    by_cases hk : k = key
    · subst hk
      by_cases h : other = k <;> simp [put, List.lookup_cons, beq, h]
    · by_cases h : other = k
      · subst h
        simp [put, hk]
      · simp [put, hk, List.lookup_cons, beq, h, ih]

private theorem lookup_filter_key (gone : κ → Bool) (rows : List (κ × β)) (key : κ) :
    (rows.filter fun row => !gone row.1).lookup key =
      if gone key then none else rows.lookup key := by
  induction rows with
  | nil => simp
  | cons row rest ih =>
    obtain ⟨k, v⟩ := row
    by_cases hk : key = k
    · subst hk
      by_cases hg : gone key <;> simp [hg, ih]
    · have : (key == k) = false := by simpa using hk
      by_cases hg : gone k <;> simp [hg, ih, List.lookup_cons, this]

theorem get?_drop (gone : κ → Bool) (table : Table κ β) (key : κ) :
    (table.drop gone).get? key = if gone key then none else table.get? key :=
  lookup_filter_key gone table.rows key

theorem get?_insert (table : Table κ β) (key other : κ) (value : β) :
    (table.insert key value).get? other = if other = key then some value else table.get? other :=
  lookup_put key other value table.rows

private theorem lookup_eq_some_iff {rows : List (κ × β)} (distinct : (rows.map Prod.fst).Nodup)
    (key : κ) (value : β) : rows.lookup key = some value ↔ (key, value) ∈ rows := by
  induction rows with
  | nil => simp
  | cons row rest ih =>
    obtain ⟨k, v⟩ := row
    obtain ⟨fresh, distinct⟩ := List.nodup_cons.1 distinct
    by_cases hk : key = k
    · subst hk
      have absent : (key, value) ∉ rest := fun member =>
        fresh (List.mem_map.2 ⟨_, member, rfl⟩)
      simp [absent, eq_comm]
    · have : (key == k) = false := by simpa using hk
      simp [List.lookup_cons, this, hk, ih distinct]

theorem get?_eq_some_iff (table : Table κ β) (key : κ) (value : β) :
    table.get? key = some value ↔ (key, value) ∈ table.rows :=
  lookup_eq_some_iff table.distinct key value

end Keyed

end Table

end Invalidation
