import Subscriptions.Cents

/-!
Sums of cents, exact and in 64 bits. What 64 bits keep of a sum depends on the exact sum alone, and is the exact sum
where that fits. A checked operation does not halt where its result fits, and a checked sum of what is not below zero
does not where the exact sum fits.
-/

namespace Subscriptions

set_option autoImplicit false

/-- All of some amounts, however much that is. -/
def exactSum (amounts : List Int) : Int := amounts.foldr (· + ·) 0

variable {n : Int} {xs ys : List Int}

theorem exactSum_append (xs ys : List Int) : exactSum (xs ++ ys) = exactSum xs + exactSum ys := by
  induction xs with
  | nil => exact (Int.zero_add _).symm
  | cons x xs ih =>
    have hcons : exactSum (x :: (xs ++ ys)) = x + exactSum (xs ++ ys) := rfl
    rw [List.cons_append, hcons, ih, ← Int.add_assoc]
    rfl

theorem exactSum_nonneg (h : ∀ x ∈ xs, 0 ≤ x) : 0 ≤ exactSum xs := by
  induction xs with
  | nil => exact Int.le_refl 0
  | cons x xs ih =>
    obtain ⟨hx, hxs⟩ := List.forall_mem_cons.mp h
    have hcons : exactSum (x :: xs) = x + exactSum xs := rfl
    rw [hcons]
    exact Int.add_nonneg hx (ih hxs)

theorem exactSum_perm (h : xs.Perm ys) : exactSum xs = exactSum ys := by
  induction h with
  | nil => rfl
  | cons x _ ih => exact congrArg (x + ·) ih
  | swap x y xs => exact Int.add_left_comm y x (exactSum xs)
  | trans _ _ ih ih' => exact ih.trans ih'

theorem exactSum_map_mono {α : Type} {f g : α → Int} {as : List α} (h : ∀ a ∈ as, f a ≤ g a) :
    exactSum (as.map f) ≤ exactSum (as.map g) := by
  induction as with
  | nil => exact Int.le_refl 0
  | cons a as ih =>
    obtain ⟨ha, has⟩ := List.forall_mem_cons.mp h
    exact Int.add_le_add ha (ih has)

/-- A sum in two parts: over what meets a condition, and over what does not. -/
theorem exactSum_filter_and {α : Type} (p q : α → Bool) (f : α → Int) (as : List α) :
    exactSum ((as.filter p).map f) =
      exactSum ((as.filter fun a => p a && q a).map f) +
        exactSum ((as.filter fun a => p a && !q a).map f) := by
  induction as with
  | nil => rfl
  | cons a as ih =>
    simp only [exactSum] at ih ⊢
    cases hp : p a <;> cases hq : q a <;>
      simp only [List.filter_cons, hp, hq, Bool.false_and, Bool.true_and, Bool.not_true, Bool.not_false, if_true,
        if_false, Bool.false_eq_true, List.map_cons, List.foldr_cons] <;>
      omega

theorem exactSum_le_length_mul {most : Int} (h : ∀ x ∈ xs, x ≤ most) : exactSum xs ≤ xs.length * most := by
  induction xs with
  | nil =>
    rw [List.length_nil, Int.natCast_zero, Int.zero_mul]
    exact Int.le_refl 0
  | cons x xs ih =>
    obtain ⟨hx, hxs⟩ := List.forall_mem_cons.mp h
    have hcons : exactSum (x :: xs) = x + exactSum xs := rfl
    have hrest := ih hxs
    rw [hcons, List.length_cons, Int.natCast_succ, Int.add_mul, Int.one_mul]
    omega

/-- So many amounts of at most so much come to less than a limit if their number times the largest amount does. -/
theorem exactSum_lt {count : Nat} {most limit : Int} (hxs : ∀ x ∈ xs, 0 ≤ x ∧ x ≤ most) (hcount : xs.length ≤ count)
    (hless : count * most < limit) (hlimit : 0 < limit) : exactSum xs < limit := by
  cases xs with
  | nil => exact hlimit
  | cons x xs =>
    obtain ⟨hx, hmost⟩ := hxs x List.mem_cons_self
    have hsum := exactSum_le_length_mul fun y hy => (hxs y hy).2
    have hscaled : ((x :: xs).length : Int) * most ≤ count * most :=
      Int.mul_le_mul_of_nonneg_right (Int.ofNat_le.mpr hcount) (Int.le_trans hx hmost)
    omega

theorem fits_wrapCents (n : Int) : FitsCents (wrapCents n) := by
  have hlower : -(18446744073709551616 / 2) ≤ wrapCents n := Int.le_bmod (by decide)
  have hupper : wrapCents n < (18446744073709551616 + 1) / 2 := Int.bmod_lt (by decide)
  unfold FitsCents
  omega

theorem wrapCents_of_fits (h : FitsCents n) : wrapCents n = n := by
  unfold FitsCents at h
  apply Int.bmod_eq_of_le
  · omega
  · omega

theorem wrapCents_le (h : 0 ≤ n) : wrapCents n ≤ n := by
  rw [wrapCents, Int.bmod_def]
  split <;> omega

theorem foldl_wrapCents (sum : Int) (xs : List Int) :
    xs.foldl (fun sum n => wrapCents (sum + n)) (wrapCents sum) = wrapCents (sum + exactSum xs) := by
  induction xs generalizing sum with
  | nil => exact congrArg wrapCents (Int.add_zero sum).symm
  | cons x xs ih =>
    have hfirst : wrapCents (wrapCents sum + x) = wrapCents (sum + x) := Int.bmod_add_bmod
    have hcons : exactSum (x :: xs) = x + exactSum xs := rfl
    rw [List.foldl_cons, hfirst, ih, hcons, Int.add_assoc]

theorem sumCents_eq (xs : List Int) : sumCents xs = wrapCents (exactSum xs) := by
  have hsum := foldl_wrapCents 0 xs
  rwa [wrapCents_of_fits (by decide), Int.zero_add] at hsum

theorem fits_sumCents (xs : List Int) : FitsCents (sumCents xs) := by
  rw [sumCents_eq]
  exact fits_wrapCents _

theorem sumCents_of_fits (h : FitsCents (exactSum xs)) : sumCents xs = exactSum xs := by
  rw [sumCents_eq, wrapCents_of_fits h]

theorem count?_eq_some_iff {count : Nat} : count? n = some count ↔ n = count ∧ count < 4294967296 := by
  unfold count?
  split
  · rw [Option.some.injEq]
    omega
  · simp only [reduceCtorEq, false_iff]
    omega

namespace Width

variable {w : Width} {a b amount remaining : Int}

theorem fits_bits64_iff : Fits .bits64 n ↔ FitsCents n := Iff.rfl

theorem Fits.of_nonneg (h : 0 ≤ n) (hless : n < w.limit) : w.Fits n := by
  constructor
  · omega
  · exact hless

theorem check_of_fits (h : w.Fits n) : w.check n = some n := if_pos h

theorem add_of_fits (h : w.Fits (a + b)) : w.add a b = some (a + b) := check_of_fits h

theorem sub_of_fits (h : w.Fits (a - b)) : w.sub a b = some (a - b) := check_of_fits h

theorem mul_of_fits (h : w.Fits (a * b)) : w.mul a b = some (a * b) := check_of_fits h

theorem div_of_nonneg (ha : 0 ≤ a) (hless : a < w.limit) (hb : 0 < b) : w.div a b = some (a / b) := by
  have hquotient : 0 ≤ a / b := Int.ediv_nonneg ha (Int.le_of_lt hb)
  have hle : a / b ≤ a := Int.ediv_le_self b ha
  rw [div, if_neg (Int.ne_of_gt hb), Int.tdiv_eq_ediv_of_nonneg ha]
  exact check_of_fits (.of_nonneg hquotient (Int.lt_of_le_of_lt hle hless))

theorem rem_of_nonneg (ha : 0 ≤ a) (hless : a < w.limit) (hb : 0 < b) : w.rem a b = some (a % b) := by
  rw [rem, div_of_nonneg ha hless hb, Int.tmod_eq_emod_of_nonneg ha]
  rfl

/-- The largest number on the way to a share is the product with the total on top. -/
theorem share_of_nonneg (ha : 0 ≤ amount) (hr : 0 ≤ remaining) (hb : 0 < b)
    (hless : amount * remaining + b < w.limit) :
    w.share amount remaining b = some ((amount * remaining + b - 1) / b) := by
  have hproduct : 0 ≤ amount * remaining := Int.mul_nonneg ha hr
  have hmul : w.mul amount remaining = some (amount * remaining) :=
    mul_of_fits (.of_nonneg hproduct (by omega))
  have hadd : w.add (amount * remaining) b = some (amount * remaining + b) :=
    add_of_fits (.of_nonneg (by omega) hless)
  have hsub : w.sub (amount * remaining + b) 1 = some (amount * remaining + b - 1) :=
    sub_of_fits (.of_nonneg (by omega) (by omega))
  have hdiv : w.div (amount * remaining + b - 1) b = some ((amount * remaining + b - 1) / b) :=
    div_of_nonneg (by omega) (by omega) hb
  simp only [share, hmul, hadd, hsub, hdiv, Option.bind_eq_bind, Option.bind_some]

theorem foldlM_add (ha : 0 ≤ a) (hxs : ∀ x ∈ xs, 0 ≤ x) (hless : a + exactSum xs < w.limit) :
    xs.foldlM w.add a = some (a + exactSum xs) := by
  induction xs generalizing a with
  | nil =>
    have hnil : a + exactSum [] = a := Int.add_zero a
    rw [hnil]
    rfl
  | cons x xs ih =>
    obtain ⟨hx, hrest⟩ := List.forall_mem_cons.mp hxs
    have hsum : a + exactSum (x :: xs) = a + x + exactSum xs := (Int.add_assoc a x (exactSum xs)).symm
    have hnonneg : 0 ≤ exactSum xs := exactSum_nonneg hrest
    rw [hsum] at hless ⊢
    have hadd : w.add a x = some (a + x) := add_of_fits (.of_nonneg (by omega) (by omega))
    rw [List.foldlM_cons, hadd, Option.bind_eq_bind, Option.bind_some]
    exact ih (by omega) hrest hless

theorem total_of_nonneg (hxs : ∀ x ∈ xs, 0 ≤ x) (hless : exactSum xs < w.limit) :
    w.total xs = some (exactSum xs) := by
  have hsum := foldlM_add (a := 0) (Int.le_refl 0) hxs (by rwa [Int.zero_add])
  rwa [Int.zero_add] at hsum

/-- Where the checked sum does not halt, the other one does not wrap around. -/
theorem total_eq_sumCents (hxs : ∀ x ∈ xs, 0 ≤ x) (hless : exactSum xs < limit .bits64) :
    total .bits64 xs = some (sumCents xs) := by
  have hfits : FitsCents (exactSum xs) := fits_bits64_iff.mp (.of_nonneg (exactSum_nonneg hxs) hless)
  rw [total_of_nonneg hxs hless, sumCents_of_fits hfits]

end Width

end Subscriptions
