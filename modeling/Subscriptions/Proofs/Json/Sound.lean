import Subscriptions.Proofs.Json.Variation

/-!
What a variation keeps of soundness and depth. A variation of a sound value is sound if all that is added is, and it is
deeper by no more levels than there are in what is added.
-/

namespace Subscriptions.Json

set_option autoImplicit false

variable {n : Nat} {fields : List (String × Json)}

/-- A numeral that is not zero is beyond all doubles if its power of ten is. -/
theorem isFiniteNumeral_eq_false {digits : Nat} {exponent : Int} (hne : digits ≠ 0)
    (hdigits : digits < 18446744073709551616) (hexponent : 308 < exponent) :
    isFiniteNumeral digits exponent = false := by
  have hpositive : ¬ exponent ≤ 0 := by omega
  have hgreat : ¬ exponent ≤ 308 := by omega
  simp [isFiniteNumeral, leadingDigits_of_lt hdigits, hne, hpositive, hgreat]

theorem areSoundFields_iff : areSoundFields fields = true ↔ ∀ f ∈ fields, f.2.isSound = true := by
  induction fields with
  | nil => simp [areSoundFields]
  | cons f fields ih => rw [areSoundFields, Bool.and_eq_true, ih, List.forall_mem_cons]

theorem depthOfFields_le_iff : depthOfFields fields ≤ n ↔ ∀ f ∈ fields, f.2.depth ≤ n := by
  induction fields with
  | nil => simp [depthOfFields]
  | cons f fields ih => rw [depthOfFields, Nat.max_le, ih, List.forall_mem_cons]

/-- A value all of which can be taken up for itself, with at most so many levels. -/
structure TakenUp (n : Nat) (j : Json) : Prop where
  sound : j.isSound = true
  depth_le : j.depth ≤ n

mutual
theorem Variation.takenUp : ∀ {v j : Json}, Variation (TakenUp n) v j → v.isSound = true → TakenUp (v.depth + n) j
  | v, j, h, hv => by
    cases h with
    | same => exact ⟨hv, Nat.le_add_right _ n⟩
    | @list items items' hitems =>
      obtain ⟨hsound, hdepth⟩ := hitems.takenUp hv
      refine ⟨hsound, ?_⟩
      simp only [depth]
      omega
    | @object fields kept added fields' hkept hadded hperm =>
      obtain ⟨hsound, hdepth⟩ := hkept.takenUp hv
      have hall : ∀ f ∈ fields', f.2.isSound = true ∧ f.2.depth ≤ depthOfFields fields + n := by
        intro f hf
        rcases List.mem_append.mp (hperm.mem_iff.mp hf) with hf | hf
        · exact ⟨areSoundFields_iff.mp hsound f hf, depthOfFields_le_iff.mp hdepth f hf⟩
        · obtain ⟨hsound, hdepth⟩ := (hadded f hf).2
          exact ⟨hsound, by omega⟩
      have hfields : depthOfFields fields' ≤ depthOfFields fields + n :=
        depthOfFields_le_iff.mpr fun f hf => (hall f hf).2
      refine ⟨areSoundFields_iff.mpr fun f hf => (hall f hf).1, ?_⟩
      simp only [depth]
      omega
theorem ItemsVary.takenUp : ∀ {items items' : List Json}, ItemsVary (TakenUp n) items items' →
    areSound items = true → areSound items' = true ∧ depthOfList items' ≤ depthOfList items + n
  | [], items', h, hv => by
    cases h
    exact ⟨rfl, Nat.zero_le _⟩
  | j :: items, items', h, hv => by
    rw [areSound, Bool.and_eq_true] at hv
    cases h with
    | cons hfirst hrest =>
      obtain ⟨hfirst, hdepth⟩ := hfirst.takenUp hv.1
      obtain ⟨hrest, hrestDepth⟩ := hrest.takenUp hv.2
      simp only [areSound, depthOfList, hfirst, hrest, Bool.and_self, true_and]
      omega
theorem FieldsVary.takenUp : ∀ {fields kept : List (String × Json)}, FieldsVary (TakenUp n) fields kept →
    areSoundFields fields = true → areSoundFields kept = true ∧ depthOfFields kept ≤ depthOfFields fields + n
  | [], kept, h, hv => by
    cases h
    exact ⟨rfl, Nat.zero_le _⟩
  | (name, j) :: fields, kept, h, hv => by
    rw [areSoundFields, Bool.and_eq_true] at hv
    cases h with
    | keep hfirst hrest =>
      obtain ⟨hfirst, hdepth⟩ := hfirst.takenUp hv.1
      obtain ⟨hrest, hrestDepth⟩ := hrest.takenUp hv.2
      simp only [areSoundFields, depthOfFields, hfirst, hrest, Bool.and_self, true_and]
      omega
    | drop hrest =>
      obtain ⟨hrest, hdepth⟩ := hrest.takenUp hv.2
      refine ⟨hrest, ?_⟩
      simp only [depthOfFields]
      omega
end

mutual
/-- What may be added at all may be added where anything may. -/
theorem Variation.varies {Added : Json → Prop} : ∀ {v j : Json}, Variation Added v j → Varies v j
  | v, j, h => by
    cases h with
    | same => exact .same v
    | list hitems => exact .list hitems.varies
    | object hkept hadded hperm => exact .object hkept.varies (fun f hf => ⟨(hadded f hf).1, trivial⟩) hperm
theorem ItemsVary.varies {Added : Json → Prop} : ∀ {items items' : List Json}, ItemsVary Added items items' →
    ItemsVary (fun _ => True) items items'
  | [], items', h => by
    cases h
    exact .nil
  | j :: items, items', h => by
    cases h with
    | cons hfirst hrest => exact .cons hfirst.varies hrest.varies
theorem FieldsVary.varies {Added : Json → Prop} : ∀ {fields kept : List (String × Json)}, FieldsVary Added fields kept →
    FieldsVary (fun _ => True) fields kept
  | [], kept, h => by
    cases h
    exact .nil
  | (name, j) :: fields, kept, h => by
    cases h with
    | keep hfirst hrest => exact .keep hfirst.varies hrest.varies
    | drop hrest => exact .drop hrest.varies
end

end Subscriptions.Json
