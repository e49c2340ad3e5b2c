import Mathlib.Data.List.Nodup
import Subscriptions.Json.Records
import Subscriptions.Proofs.Vocabulary
import Subscriptions.Proofs.Calendar.Written

/-!
What else may be written for a value. The fields of an object have no order, one that is null may be missing, and
others of other names may stand beside them. A record is read from each variation of its object as it is read from the
object itself.
-/

namespace Subscriptions.Json

set_option autoImplicit false

mutual
/-- The second value varies the first. Values that are added, beside the fields of an object and under other names, are
only those that may be added. -/
inductive Variation (Added : Json → Prop) : Json → Json → Prop
  | same (j : Json) : Variation Added j j
  | list {items items' : List Json} (hitems : ItemsVary Added items items') :
      Variation Added (.list items) (.list items')
  | object {fields kept added fields' : List (String × Json)} (hkept : FieldsVary Added fields kept)
      (hadded : ∀ f ∈ added, f.1 ∉ fields.map Prod.fst ∧ Added f.2) (hperm : fields'.Perm (kept ++ added)) :
      Variation Added (.object fields) (.object fields')
inductive ItemsVary (Added : Json → Prop) : List Json → List Json → Prop
  | nil : ItemsVary Added [] []
  | cons {j j' : Json} {items items' : List Json} (hfirst : Variation Added j j')
      (hrest : ItemsVary Added items items') : ItemsVary Added (j :: items) (j' :: items')
/-- The fields that are kept of an object, in their order. -/
inductive FieldsVary (Added : Json → Prop) : List (String × Json) → List (String × Json) → Prop
  | nil : FieldsVary Added [] []
  | keep {name : String} {j j' : Json} {fields kept : List (String × Json)} (hfirst : Variation Added j j')
      (hrest : FieldsVary Added fields kept) : FieldsVary Added ((name, j) :: fields) ((name, j') :: kept)
  | drop {name : String} {fields kept : List (String × Json)} (hrest : FieldsVary Added fields kept) :
      FieldsVary Added ((name, .null) :: fields) kept
end

/-- The second value varies the first, with whatever values added. -/
abbrev Varies : Json → Json → Prop := Variation fun _ => True

variable {Added : Json → Prop} {j v : Json} {fields kept : List (String × Json)} {name : String} {names : List String}

theorem FieldsVary.refl (fields : List (String × Json)) : FieldsVary Added fields fields := by
  induction fields with
  | nil => exact .nil
  | cons f fields ih => exact .keep (.same f.2) ih

/-- Nothing has to be added. -/
theorem Variation.rearranged {fields' : List (String × Json)} (hkept : FieldsVary Added fields kept)
    (hperm : fields'.Perm kept) : Variation Added (.object fields) (.object fields') := by
  refine .object hkept (fun f (hf : f ∈ []) => absurd hf List.not_mem_nil) ?_
  rwa [List.append_nil]

theorem FieldsVary.sublist (h : FieldsVary Added fields kept) :
    (kept.map Prod.fst).Sublist (fields.map Prod.fst) := by
  induction fields generalizing kept with
  | nil =>
    cases h
    exact List.Sublist.refl _
  | cons f fields ih =>
    cases h with
    | keep hfirst hrest => exact (ih hrest).cons_cons _
    | drop hrest => exact (ih hrest).cons _

/-- A field is kept, perhaps varied, unless it is null. -/
theorem FieldsVary.of_mem (h : FieldsVary Added fields kept) (hmem : (name, v) ∈ fields)
    (hnodup : (fields.map Prod.fst).Nodup) :
    (∃ v', (name, v') ∈ kept ∧ Variation Added v v') ∨ (v = .null ∧ name ∉ kept.map Prod.fst) := by
  induction fields generalizing kept with
  | nil => cases hmem
  | cons f fields ih =>
    rw [List.map_cons, List.nodup_cons] at hnodup
    obtain ⟨hfresh, hnodup⟩ := hnodup
    rcases List.mem_cons.mp hmem with rfl | hrestMem
    · cases h with
      | keep hfirst hrest => exact .inl ⟨_, List.mem_cons_self, hfirst⟩
      | drop hrest => exact .inr ⟨rfl, fun hin => hfresh (hrest.sublist.subset hin)⟩
    · have hne : name ≠ f.1 := by
        rintro rfl
        exact hfresh (List.mem_map.mpr ⟨_, hrestMem, rfl⟩)
      cases h with
      | keep hfirst hrest =>
        rcases ih hrest hrestMem hnodup with ⟨v', hv', hvary⟩ | ⟨hnull, hgone⟩
        · exact .inl ⟨v', List.mem_cons_of_mem _ hv', hvary⟩
        · exact .inr ⟨hnull, by rw [List.map_cons, List.mem_cons, not_or]; exact ⟨hne, hgone⟩⟩
      | drop hrest => exact ih hrest hrestMem hnodup

/-- An object varies only into objects. -/
theorem Variation.of_object (h : Variation Added (.object fields) j) :
    ∃ kept added fields', j = .object fields' ∧ FieldsVary Added fields kept ∧
      (∀ f ∈ added, f.1 ∉ fields.map Prod.fst ∧ Added f.2) ∧ fields'.Perm (kept ++ added) := by
  cases h with
  | same =>
    refine ⟨fields, [], fields, rfl, FieldsVary.refl fields, ?_, ?_⟩
    · intro f hf
      cases hf
    · rw [List.append_nil]
  | object hkept hadded hperm => exact ⟨_, _, _, rfl, hkept, hadded, hperm⟩

theorem Variation.ne_null (h : Variation Added v j) (hv : v ≠ .null) : j ≠ .null := by
  cases h with
  | same => exact hv
  | list hitems => exact nofun
  | object hkept hadded hperm => exact nofun

theorem lookup_eq_some (hmem : (name, v) ∈ fields) (hunique : ∀ f ∈ fields, f.1 = name → f.2 = v) :
    fields.lookup name = some v := by
  induction fields with
  | nil => cases hmem
  | cons f fields ih =>
    rw [List.lookup_cons]
    by_cases hf : f.1 = name
    · simp [hf, hunique f List.mem_cons_self hf]
    · have hmem : (name, v) ∈ fields := by
        rcases List.mem_cons.mp hmem with rfl | hmem
        · exact absurd rfl hf
        · exact hmem
      have hne : (name == f.1) = false := beq_eq_false_iff_ne.mpr (Ne.symm hf)
      rw [hne]
      exact ih hmem fun g hg => hunique g (List.mem_cons_of_mem _ hg)

section Perm

variable {added fields' : List (String × Json)}

theorem countP_eq_zero (hforeign : ∀ f ∈ added, f.1 ≠ name) : added.countP (fun f => f.1 == name) = 0 := by
  rw [List.countP_eq_zero]
  intro f hf
  simpa using hforeign f hf

theorem countP_le_one_of_perm (hperm : fields'.Perm (kept ++ added)) (hnodup : (kept.map Prod.fst).Nodup)
    (hforeign : ∀ f ∈ added, f.1 ≠ name) : fields'.countP (fun f => f.1 == name) ≤ 1 := by
  have honce := List.nodup_iff_count_le_one.mp hnodup name
  rw [List.count, List.countP_map] at honce
  rw [hperm.countP_eq, List.countP_append, countP_eq_zero hforeign]
  exact honce

theorem lookup_of_perm (hperm : fields'.Perm (kept ++ added)) (hnodup : (kept.map Prod.fst).Nodup)
    (hforeign : ∀ f ∈ added, f.1 ≠ name) (hmem : (name, v) ∈ kept) : fields'.lookup name = some v := by
  apply lookup_eq_some (hperm.mem_iff.mpr (List.mem_append_left _ hmem))
  intro f hf heq
  rcases List.mem_append.mp (hperm.mem_iff.mp hf) with hf | hf
  · have hsame : f = (name, v) := List.inj_on_of_nodup_map hnodup hf hmem heq
    rw [hsame]
  · exact absurd heq (hforeign f hf)

theorem lookup_eq_none_of_perm (hperm : fields'.Perm (kept ++ added)) (hforeign : ∀ f ∈ added, f.1 ≠ name)
    (hgone : name ∉ kept.map Prod.fst) : fields'.lookup name = none := by
  rw [List.lookup_eq_none_iff]
  intro f hf
  rw [bne_iff_ne]
  rintro rfl
  rcases List.mem_append.mp (hperm.mem_iff.mp hf) with hf | hf
  · exact hgone (List.mem_map_of_mem hf)
  · exact hforeign f hf rfl

end Perm

/-- A record holds the given fields: each is there, perhaps varied, unless it is null. -/
def Fields.Holds (f : Fields) (fields : List (String × Json)) : Prop :=
  ∀ name v, (name, v) ∈ fields → (∃ v', f.get? name = some v' ∧ Varies v v') ∨ (v = .null ∧ f.get? name = none)

/-- None of the fields of an object stands twice in a variation of it, and each is found under its name. -/
theorem Varies.record? (h : Varies (.object fields) j) (hnames : fields.map Prod.fst = names) (hnodup : names.Nodup) :
    ∃ f : Fields, j.record? names = some f ∧ f.Holds fields := by
  subst hnames
  obtain ⟨kept, added, fields', rfl, hkept, hadded, hperm⟩ := h.of_object
  have hkeptNodup : (kept.map Prod.fst).Nodup := hkept.sublist.nodup hnodup
  have hforeign {name : String} (hname : name ∈ fields.map Prod.fst) : ∀ f ∈ added, f.1 ≠ name := by
    rintro f hf rfl
    exact (hadded f hf).1 hname
  refine ⟨⟨fun name => fields'.lookup name⟩, ?_, ?_⟩
  · rw [Json.record?, objectFields, if_pos]
    rw [List.all_eq_true]
    exact fun name hname => decide_eq_true (countP_le_one_of_perm hperm hkeptNodup (hforeign hname))
  · intro name v hmem
    have hname : name ∈ fields.map Prod.fst := List.mem_map_of_mem hmem
    rcases hkept.of_mem hmem hnodup with ⟨v', hv', hvary⟩ | ⟨hnull, hgone⟩
    · exact .inl ⟨v', lookup_of_perm hperm hkeptNodup (hforeign hname) hv', hvary⟩
    · exact .inr ⟨hnull, lookup_eq_none_of_perm hperm (hforeign hname) hgone⟩

variable {α : Type} {read : Json → Option α} {write : α → Json} {a : α} {f : Fields}

/-- A value is read from whatever varies its JSON. It is not written as null, so that it is told from its absence. -/
structure Reads (read : Json → Option α) (v : Json) (a : α) : Prop where
  ne_null : v ≠ .null
  of_varies : ∀ {j}, Varies v j → read j = some a

theorem Fields.Holds.required (h : f.Holds fields) (name : String) (hread : Reads read v a)
    (hmem : (name, v) ∈ fields) : f.required name read = some a := by
  rcases h name v hmem with ⟨v', hget, hvary⟩ | ⟨hnull, _⟩
  · rw [Fields.required, hget, Option.bind_some, hread.of_varies hvary]
  · exact absurd hnull hread.ne_null

theorem Fields.Holds.optional (h : f.Holds fields) (name : String) (o : Option α)
    (hread : ∀ a, Reads read (write a) a) (hmem : (name, ofOption write o) ∈ fields) :
    f.optional name read = some o := by
  cases o with
  | none =>
    rcases h name .null hmem with ⟨v', hget, hvary⟩ | ⟨_, hget⟩
    · cases hvary
      simp only [Fields.optional, hget]
    · simp only [Fields.optional, hget]
  | some a =>
    rcases h name (write a) hmem with ⟨v', hget, hvary⟩ | ⟨hnull, _⟩
    · -- Varying does not turn the value into null, which would be read as its absence.
      have hne : v' ≠ .null := hvary.ne_null (hread a).ne_null
      have hread := (hread a).of_varies hvary
      simp only [Fields.optional, hget, hread, Option.map_some]
    · exact absurd hnull (hread a).ne_null

/-- A record is read from what varies its object if it is read from any record that holds its fields. -/
theorem Reads.record {ofFields : Fields → Option α} (hnames : fields.map Prod.fst = names) (hnodup : names.Nodup)
    (hfields : ∀ f : Fields, f.Holds fields → ofFields f = some a) :
    Reads (fun j => (j.record? names).bind ofFields) (.object fields) a := by
  refine ⟨nofun, fun hvary => ?_⟩
  obtain ⟨f, hrecord, hf⟩ := hvary.record? hnames hnodup
  rw [hrecord, Option.bind_some, hfields f hf]

theorem Reads.text (s : String) : Reads text? (.text s) s := by
  refine ⟨nofun, fun hvary => ?_⟩
  cases hvary
  rfl

theorem Reads.bool (b : Bool) : Reads bool? (.bool b) b := by
  refine ⟨nofun, fun hvary => ?_⟩
  cases hvary
  rfl

theorem Reads.cents {n : Int} (hn : FitsCents n) : Reads cents? (.integer n) n := by
  refine ⟨nofun, fun hvary => ?_⟩
  cases hvary
  exact if_pos hn

theorem Reads.count {n : Nat} (hn : n < 4294967296) : Reads count32? (ofNat n) n := by
  refine ⟨nofun, fun hvary => ?_⟩
  cases hvary
  rw [count32?, ofNat, natBelow?, if_pos (by omega), Int.toNat_natCast]

theorem Reads.vocabulary [Vocabulary α] [LawfulVocabulary α] (place : Place) (a : α) :
    Reads (Vocabulary.decodeIn place) (Vocabulary.encode a) a := by
  refine ⟨nofun, fun hvary => ?_⟩
  cases hvary
  exact LawfulVocabulary.ofName?_name a

theorem Reads.ofText {parse : String → Option α} {s : String} (h : parse s = some a) :
    Reads (fun j => j.text?.bind parse) (.text s) a := by
  refine ⟨nofun, fun hvary => ?_⟩
  rw [(Reads.text s).of_varies hvary, Option.bind_some, h]

theorem Reads.date (place : Place) (d : Date) : Reads (decodeIn place) (encode d) d := Reads.ofText d.ofText?_toText

theorem Reads.instant (place : Place) (t : Instant) : Reads (decodeIn place) (encode t) t :=
  Reads.ofText t.ofText?_toText

theorem ItemsVary.mapM {as : List α} {items : List Json} (hread : ∀ a ∈ as, Reads read (write a) a)
    (h : ItemsVary (fun _ => True) (as.map write) items) : items.mapM read = some as := by
  induction as generalizing items with
  | nil =>
    cases h
    rfl
  | cons a as ih =>
    cases h with
    | cons hfirst hrest =>
      have hrestRead := ih (fun b hb => hread b (List.mem_cons_of_mem a hb)) hrest
      simp [(hread a List.mem_cons_self).of_varies hfirst, hrestRead]

theorem ItemsVary.refl (items : List Json) : ItemsVary Added items items := by
  induction items with
  | nil => exact .nil
  | cons j items ih => exact .cons (.same j) ih

theorem Reads.list {as : List α} (hread : ∀ a ∈ as, Reads read (write a) a) :
    Reads (decodeList read) (.list (as.map write)) as := by
  refine ⟨nofun, fun hvary => ?_⟩
  cases hvary with
  | same => exact ItemsVary.mapM hread (ItemsVary.refl _)
  | list hitems => exact hitems.mapM hread

end Subscriptions.Json
