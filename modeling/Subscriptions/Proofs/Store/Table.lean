import Subscriptions.Store.Table

/-!
Look-ups in tables. A key has at most one value, so what stands under it is what `get?` finds, and writing
under one key leaves the others alone.
-/

namespace Subscriptions.Table

set_option autoImplicit false

variable {α : Type} {t : Table α} {k k' : String} {a b c : α} {p q : α → Bool}

theorem find?_key_of_mem {l : List (String × α)} (hl : (l.map Prod.fst).Nodup) (h : (k, a) ∈ l) :
    l.find? (fun e => e.1 == k) = some (k, a) := by
  induction l with
  | nil => cases h
  | cons e l ih =>
    simp only [List.map_cons, List.nodup_cons] at hl
    rcases List.mem_cons.mp h with rfl | h
    · simp
    · have hne : e.1 ≠ k := fun he => hl.1 (List.mem_map.mpr ⟨(k, a), h, he.symm⟩)
      rw [List.find?_cons_of_neg (by simpa using hne)]
      exact ih hl.2 h

theorem get?_eq_some_iff : t.get? k = some a ↔ (k, a) ∈ t.entries := by
  constructor
  · intro h
    obtain ⟨e, he, rfl⟩ := Option.map_eq_some_iff.mp h
    have hk : e.1 = k := by simpa using List.find?_some he
    have hm := List.mem_of_find?_eq_some he
    rwa [← hk]
  · intro h
    simp [get?, find?_key_of_mem t.nodup h]

theorem contains_eq_false_iff : t.contains k = false ↔ t.get? k = none := by
  simp [contains, get?]

theorem mem_values_iff : a ∈ t.values ↔ ∃ k, t.get? k = some a := by
  simp [values, get?_eq_some_iff]

/-- At most one value has the property if and only if all that have it stand under one key. -/
theorem length_filter_values_le_one_iff :
    (t.values.filter p).length ≤ 1 ↔ ∀ {k a k' b}, t.get? k = some a → t.get? k' = some b →
      p a = true → p b = true → k = k' := by
  have hlength : (t.values.filter p).length = (t.entries.filter fun e => p e.2).length := by
    simp [values, List.filter_map, Function.comp_def]
  have hmem (k : String) (a : α) : (t.get? k = some a ∧ p a = true) ↔
      (k, a) ∈ t.entries.filter fun e => p e.2 := by
    rw [get?_eq_some_iff, List.mem_filter]
  have hkeys : ((t.entries.filter fun e => p e.2).map Prod.fst).Nodup :=
    (List.filter_sublist.map _).nodup t.nodup
  rw [hlength]
  generalize t.entries.filter (fun e => p e.2) = own at hmem hkeys
  constructor
  · intro h k a k' b ha hb hpa hpb
    have hka : (k, a) ∈ own := (hmem k a).mp ⟨ha, hpa⟩
    have hkb : (k', b) ∈ own := (hmem k' b).mp ⟨hb, hpb⟩
    match own with
    | [] => cases hka
    | [e] =>
      rw [List.mem_singleton] at hka hkb
      exact congrArg Prod.fst (hka.trans hkb.symm)
    | _ :: _ :: _ => simp at h
  · intro h
    match own with
    | [] => exact Nat.zero_le 1
    | [_] => exact Nat.le_refl 1
    | (k, a) :: (k', b) :: _ =>
      obtain ⟨ha, hpa⟩ := (hmem k a).mpr List.mem_cons_self
      obtain ⟨hb, hpb⟩ := (hmem k' b).mpr (List.mem_cons_of_mem _ List.mem_cons_self)
      obtain rfl : k = k' := h ha hb hpa hpb
      simp at hkeys

theorem get?_set : (t.set k a).get? k' = if k' = k then (t.get? k).map fun _ => a else t.get? k' := by
  simp only [get?, set]
  induction t.entries with
  | nil => simp
  | cons e l ih =>
    by_cases he : e.1 = k <;> by_cases hk : k' = k <;> by_cases hek : e.1 = k' <;> simp_all

theorem get?_insert : (t.insert k a).get? k' = if k' = k then some a else t.get? k' := by
  simp only [insert]
  split
  · rename_i h
    rw [get?_set]
    cases hg : t.get? k with
    | none => simp [contains_eq_false_iff.mpr hg] at h
    | some b => simp
  · rename_i h
    have hn : t.get? k = none := contains_eq_false_iff.mp (by simpa using h)
    simp only [get?, List.find?_append, Option.map_eq_none_iff] at hn ⊢
    by_cases hk : k' = k
    · simp [hk, hn]
    · have hs : (k == k') = false := by simpa using fun he => hk he.symm
      simp [hk, hs]

theorem size_set (t : Table α) (key : String) (a : α) : (t.set key a).size = t.size := List.length_map _

theorem size_le_insert (t : Table α) (key : String) (a : α) : t.size ≤ (t.insert key a).size := by
  unfold insert
  split
  · exact Nat.le_of_eq (size_set t key a).symm
  · rw [size, size, List.length_append]
    exact Nat.le_add_right _ _

theorem mem_values_set (h : b ∈ (t.set k a).values) : b = a ∨ b ∈ t.values := by
  obtain ⟨j, hj⟩ := mem_values_iff.mp h
  rw [get?_set] at hj
  split at hj
  · obtain ⟨_, _, rfl⟩ := Option.map_eq_some_iff.mp hj
    exact .inl rfl
  · exact .inr (mem_values_iff.mpr ⟨j, hj⟩)

theorem mem_values_insert (h : b ∈ (t.insert k a).values) : b = a ∨ b ∈ t.values := by
  obtain ⟨j, hj⟩ := mem_values_iff.mp h
  rw [get?_insert] at hj
  split at hj
  · exact .inl (Option.some.inj hj).symm
  · exact .inr (mem_values_iff.mpr ⟨j, hj⟩)

/-- If the first match for each of two properties has the other one as well, they are the same. -/
theorem find?_eq_find? (hp : t.find? p = some (k, a)) (hq : t.find? q = some (k', b)) (ha : q a = true)
    (hb : p b = true) : t.find? p = t.find? q := by
  simp only [find?] at *
  generalize t.entries = l at *
  induction l with
  | nil => rfl
  | cons e l ih =>
    by_cases hpe : p e.2 = true
    · simp only [List.find?_cons, hpe, Option.some.injEq] at hp
      have hqe : q e.2 = true := by
        rw [hp]
        exact ha
      simp only [List.find?_cons, hpe, hqe]
    · by_cases hqe : q e.2 = true
      · simp only [List.find?_cons, hqe, Option.some.injEq] at hq
        rw [hq] at hpe
        exact absurd hb hpe
      · simp only [Bool.not_eq_true] at hpe hqe
        simp only [List.find?_cons, hpe, hqe] at hp hq ⊢
        exact ih hp hq

/-- If the first match for `p` is also a match for `q`, then writing a match for `p` where `q` first
matches makes it the first match for `p`. -/
theorem find?_set (hp : t.find? p = some (k, a)) (hq : t.find? q = some (k', b)) (h : q a = true)
    (hc : p c = true) : (t.set k' c).find? p = some (k', c) := by
  simp only [find?, set] at *
  generalize t.entries = l at *
  induction l with
  | nil => simp at hp
  | cons e l ih =>
    by_cases hqe : q e.2 = true
    · -- This is the first match for `q`, and nothing before it matches `p`.
      simp only [List.find?_cons, hqe, Option.some.injEq] at hq
      simp [hq, hc]
    · have hpe : ¬p e.2 = true := by
        intro hpe
        simp only [List.find?_cons, hpe, Option.some.injEq] at hp
        exact hqe (by rw [hp]; exact h)
      simp only [Bool.not_eq_true] at hqe hpe
      simp only [List.find?_cons, hqe] at hq
      simp only [List.find?_cons, hpe] at hp
      by_cases hk : e.1 = k'
      · simp [hk, hc]
      · simp only [List.map_cons, List.find?_cons, beq_iff_eq, hk, if_false, hpe]
        simpa using ih hp hq

theorem find?_insert_of_none (hp : t.find? p = none) (hc : p c = true) :
    (t.insert k c).find? p = some (k, c) := by
  simp only [insert]
  split
  · rename_i h
    simp only [find?, contains, set] at *
    generalize t.entries = l at *
    induction l with
    | nil => simp at h
    | cons e l ih =>
      simp only [List.find?_cons] at hp
      split at hp
      · cases hp
      · rename_i hpe
        by_cases hk : e.1 = k
        · simp [hk, hc]
        · have h' : (l.any fun e => e.1 == k) = true := by simpa [hk] using h
          simp only [List.map_cons, List.find?_cons, beq_iff_eq, hk, if_false, hpe]
          simpa using ih hp h'
  · simp only [find?] at *
    simp [List.find?_append, hp, hc]

/-- The values changed, each under its own key. -/
def map {β : Type} (t : Table α) (f : α → β) : Table β where
  entries := t.entries.map fun e => (e.1, f e.2)
  nodup := by
    rw [List.map_map]
    exact t.nodup

theorem eq_of_entries {t' : Table α} (h : t.entries = t'.entries) : t = t' := by
  cases t
  cases t'
  cases h
  rfl

theorem map_set {β : Type} (t : Table α) (key : String) (a : α) (f : α → β) :
    (t.set key a).map f = (t.map f).set key (f a) := by
  apply eq_of_entries
  simp only [map, set, List.map_map]
  apply List.map_congr_left
  intro e _
  simp only [Function.comp_apply]
  split <;> rfl

theorem map_insert {β : Type} (t : Table α) (key : String) (a : α) (f : α → β) :
    (t.insert key a).map f = (t.map f).insert key (f a) := by
  have hc : (t.map f).contains key = t.contains key := by
    simp only [contains, map, List.any_map, Function.comp_def]
  unfold insert
  by_cases h : t.contains key = true
  · rw [dif_pos h, dif_pos (hc.trans h)]
    exact map_set t key a f
  · rw [dif_neg h, dif_neg (by rwa [hc])]
    apply eq_of_entries
    simp [map]

end Subscriptions.Table
