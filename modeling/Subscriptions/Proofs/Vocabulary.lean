import Subscriptions.Terms

/-!
Names and the values that they stand for. In each vocabulary a value is found under its own name, so no two values
share one, and under nothing else.
-/

namespace Subscriptions

set_option autoImplicit false

/-- A vocabulary whose values are told apart by their names. -/
class LawfulVocabulary (α : Type) [Vocabulary α] : Prop where
  ofName?_name : ∀ a : α, Vocabulary.ofName? (Vocabulary.name a) = some a

instance : LawfulVocabulary Tier := ⟨by intro a; cases a <;> rfl⟩

instance : LawfulVocabulary Cycle := ⟨by intro a; cases a <;> rfl⟩

instance : LawfulVocabulary PaymentMethod := ⟨by intro a; cases a <;> rfl⟩

instance : LawfulVocabulary Status := ⟨by intro a; cases a <;> rfl⟩

instance : LawfulVocabulary OrderKind := ⟨by intro a; cases a <;> rfl⟩

instance : LawfulVocabulary SnapshotReason := ⟨by intro a; cases a <;> rfl⟩

namespace Vocabulary

variable {α : Type} [Vocabulary α] [LawfulVocabulary α] {text : String} {a : α}

theorem ofName?_eq_some_iff : ofName? text = some a ↔ name a = text := by
  constructor
  · intro h
    simpa using List.find?_some h
  · rintro rfl
    exact LawfulVocabulary.ofName?_name a

@[simp] theorem parse_name (a : α) : parse (name a) = .ok a := by
  simp only [parse, ofName?_eq_some_iff.mpr (rfl : name a = name a)]

end Vocabulary

end Subscriptions
