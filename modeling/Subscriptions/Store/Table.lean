/-!
Tables: values under text keys, each key at most once, in the order in which the keys were first used.
-/

namespace Subscriptions

set_option autoImplicit false

structure Table (α : Type) where
  entries : List (String × α)
  nodup : (entries.map Prod.fst).Nodup

namespace Table

variable {α : Type}

def empty : Table α := ⟨[], List.nodup_nil⟩

def get? (t : Table α) (key : String) : Option α := (t.entries.find? fun e => e.1 == key).map Prod.snd

def contains (t : Table α) (key : String) : Bool := t.entries.any fun e => e.1 == key

def values (t : Table α) : List α := t.entries.map Prod.snd

def size (t : Table α) : Nat := t.entries.length

/-- Replaces what stands under a key; without such a key nothing changes. -/
def set (t : Table α) (key : String) (a : α) : Table α where
  entries := t.entries.map fun e => if e.1 == key then (e.1, a) else e
  nodup := by
    have h : (t.entries.map fun e => if e.1 == key then (e.1, a) else e).map Prod.fst =
        t.entries.map Prod.fst := by
      rw [List.map_map]
      apply List.map_congr_left
      intro e _
      simp only [Function.comp_apply]
      split <;> rfl
    rw [h]
    exact t.nodup

/-- Puts a value under a key, in place of an earlier one or as the last entry. -/
def insert (t : Table α) (key : String) (a : α) : Table α :=
  if h : t.contains key = true then t.set key a
  else
    { entries := t.entries ++ [(key, a)]
      nodup := by
        rw [List.map_append, List.nodup_append]
        refine ⟨t.nodup, by simp, ?_⟩
        intro x hx y hy
        obtain ⟨e, he, rfl⟩ := List.mem_map.mp hx
        simp only [List.map_cons, List.map_nil, List.mem_singleton] at hy
        subst hy
        intro hk
        exact h (List.any_eq_true.mpr ⟨e, he, by simp [hk]⟩) }

def find? (t : Table α) (p : α → Bool) : Option (String × α) := t.entries.find? fun e => p e.2

end Table

end Subscriptions
