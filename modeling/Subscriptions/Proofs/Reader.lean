import Subscriptions.Reader

/-!
Who overlaps whom once the ids of two readers have been merged.
-/

namespace Subscriptions.Reader

set_option autoImplicit false

variable {r s : Reader}

theorem overlaps_iff :
    r.overlaps s = true ↔ (∃ x, r.ftcId = some x ∧ s.ftcId = some x) ∨
      ∃ x, r.unionId = some x ∧ s.unionId = some x := by
  simp only [overlaps, Bool.or_eq_true, sameId_iff]

theorem overlaps_self (h : r.isEmpty = false) : r.overlaps r = true := by
  rw [overlaps_iff]
  cases hf : r.ftcId with
  | some x => exact .inl ⟨x, rfl, rfl⟩
  | none =>
    cases hu : r.unionId with
    | some x => exact .inr ⟨x, rfl, rfl⟩
    | none => simp [isEmpty, hf, hu] at h

/-- Merging keeps the ids of the first reader, so whoever shares one with him still does. -/
theorem overlaps_merge (h : r.overlaps s = true) (q : Reader) : (r.merge q).overlaps s = true := by
  rw [overlaps_iff] at h ⊢
  rcases h with ⟨x, hr, hs⟩ | ⟨x, hr, hs⟩
  · exact .inl ⟨x, by simp [merge, hr], hs⟩
  · exact .inr ⟨x, by simp [merge, hr], hs⟩

/-- Whoever shares an id with two readers merged shares it with one of them. -/
theorem overlaps_of_overlaps_merge {q : Reader} (h : q.overlaps (r.merge s) = true) :
    q.overlaps r = true ∨ q.overlaps s = true := by
  simp only [overlaps_iff, merge, Option.or_eq_some_iff] at h ⊢
  rcases h with ⟨x, hq, hr | ⟨_, hs⟩⟩ | ⟨x, hq, hr | ⟨_, hs⟩⟩
  · exact .inl (.inl ⟨x, hq, hr⟩)
  · exact .inr (.inl ⟨x, hq, hs⟩)
  · exact .inl (.inr ⟨x, hq, hr⟩)
  · exact .inr (.inr ⟨x, hq, hs⟩)

theorem isEmpty_eq_false_of_overlaps (h : r.overlaps s = true) : r.isEmpty = false := by
  rcases overlaps_iff.mp h with ⟨x, hr, _⟩ | ⟨x, hr, _⟩ <;> simp [isEmpty, hr]

theorem overlaps_merge_self (h : r.isEmpty = false) (q : Reader) : r.overlaps (r.merge q) = true := by
  rw [overlaps_comm]
  exact overlaps_merge (overlaps_self h) q

@[simp] theorem merge_self (r : Reader) : r.merge r = r := by
  cases r
  simp [merge]

end Subscriptions.Reader
