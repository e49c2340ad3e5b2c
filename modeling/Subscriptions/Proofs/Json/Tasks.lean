import Subscriptions.Json.Tagged
import Subscriptions.Proofs.Json.Records
import Subscriptions.Proofs.Json.Sound
import Subscriptions.Proofs.Json.Text
import Subscriptions.Samples

/-!
What is written as JSON text is read back, from any text that varies it. A task is the exception: since all of it is
taken up before its kind is known, nothing can be added to it that cannot be taken up.
-/

namespace Subscriptions

set_option autoImplicit false

open Json

namespace Json

variable {fields rest : List (String × Json)} {tag : String} {j : Json}

/-- The kind of a tagged value is found wherever it stands, and all else is the value. -/
theorem untag?_of_perm (hperm : fields.Perm (("type", .text tag) :: rest)) (hrest : ∀ f ∈ rest, f.1 ≠ "type") :
    ∃ body, untag? (.object fields) = some (tag, .object body) ∧ body.Perm rest := by
  have hcount : fields.countP (fun f => f.1 == "type") = 1 := by
    rw [hperm.countP_eq, List.countP_cons_of_pos rfl, countP_eq_zero hrest]
  have hlookup : fields.lookup "type" = some (.text tag) := by
    have hperm : fields.Perm ([("type", .text tag)] ++ rest) := hperm
    exact lookup_of_perm hperm (List.nodup_singleton _) hrest List.mem_cons_self
  refine ⟨fields.filter fun f => f.1 != "type", ?_, ?_⟩
  · simp [untag?, hcount, hlookup, text?]
  · have hfilter := hperm.filter fun f => f.1 != "type"
    have hkeep : rest.filter (fun f => f.1 != "type") = rest := by
      rw [List.filter_eq_self]
      intro f hf
      simpa using hrest f hf
    rwa [List.filter_cons_of_neg (by simp), hkeep] at hfilter

theorem Varies.untag? (h : Varies (.object (("type", .text tag) :: fields)) j)
    (hfields : "type" ∉ fields.map Prod.fst) :
    ∃ body, j.untag? = some (tag, body) ∧ Varies (.object fields) body := by
  obtain ⟨kept, added, fields', rfl, hkept, hadded, hperm⟩ := h.of_object
  cases hkept with
  | @keep _ _ j' _ kept hfirst hrest =>
    cases hfirst
    have hnames : ∀ f ∈ kept ++ added, f.1 ≠ "type" := by
      rintro f hf heq
      rcases List.mem_append.mp hf with hf | hf
      · exact hfields (hrest.sublist.subset (heq ▸ List.mem_map_of_mem hf))
      · exact (hadded f hf).1 (heq ▸ List.mem_cons_self)
    obtain ⟨body, huntag, hbody⟩ := untag?_of_perm hperm hnames
    refine ⟨.object body, huntag, .object hrest ?_ hbody⟩
    exact fun f hf => ⟨fun hin => (hadded f hf).1 (List.mem_cons_of_mem _ hin), trivial⟩

end Json

/-! ### What is written can be taken up -/

namespace Json.TakenUp

variable {α : Type} {n : Nat}

theorem text (s : String) : TakenUp n (.text s) := ⟨rfl, Nat.zero_le n⟩

theorem bool (b : Bool) : TakenUp n (.bool b) := ⟨rfl, Nat.zero_le n⟩

theorem integer {i : Int} (hi : i.natAbs < 18446744073709551616) : TakenUp n (.integer i) :=
  ⟨isFiniteNumeral_of_lt hi, Nat.zero_le n⟩

theorem cents {i : Int} (hi : FitsCents i) : TakenUp n (.integer i) := by
  apply integer
  unfold FitsCents at hi
  omega

theorem count {k : Nat} (hk : k < 4294967296) : TakenUp n (ofNat k) := by
  apply integer
  omega

theorem vocabulary [Vocabulary α] (a : α) : TakenUp n (Vocabulary.encode a) := text _

theorem date (d : Date) : TakenUp n (encode d) := text _

theorem instant (t : Instant) : TakenUp n (encode t) := text _

theorem option {write : α → Json} (h : ∀ a, TakenUp n (write a)) (o : Option α) : TakenUp n (ofOption write o) := by
  cases o with
  | none => exact ⟨rfl, Nat.zero_le n⟩
  | some a => exact h a

theorem object {fields : List (String × Json)} (h : ∀ f ∈ fields, TakenUp n f.2) :
    TakenUp (n + 1) (.object fields) := by
  have hdepth : depthOfFields fields ≤ n := depthOfFields_le_iff.mpr fun f hf => (h f hf).depth_le
  refine ⟨areSoundFields_iff.mpr fun f hf => (h f hf).sound, ?_⟩
  rw [depth]
  omega

theorem reader (r : Reader) : TakenUp (n + 1) (encode r) := by
  apply object
  simp [option text]

theorem membership (m : Membership) : TakenUp (n + 2) (encode m) := by
  apply object
  simp [reader, option text, option date, vocabulary, bool]

theorem snapshot_fields (s : Snapshot) : ∀ f ∈ s.fields, TakenUp (n + 2) f.2 := by
  simp [Snapshot.fields, text, vocabulary, instant, option text, membership]

theorem order {o : Order} (h : o.Fits) : TakenUp (n + 2) (encode o) := by
  apply object
  simp [text, reader, vocabulary, cents h.price, cents h.amount, count h.cycleCount, count h.extraDays, instant,
    option instant, option date, option text]

theorem confirmation {c : Confirmation} (h : c.order.Fits) : TakenUp (n + 4) (encode c) := by
  apply object
  simp [Confirmation.fields, order h, membership]
  exact object (snapshot_fields c.snapshot)

end Json.TakenUp

/-- The numbers of a task have the sizes that they are kept in. -/
def Task.Fits : Task → Prop
  | .backupSnapshot _ => True
  | .notifyConfirmation result => result.order.Fits

namespace Task

variable {t : Task} {j : Json}

theorem takenUp (h : t.Fits) : TakenUp 5 (encode t) := by
  cases t with
  | backupSnapshot snapshot =>
    apply TakenUp.object
    rw [List.forall_mem_cons]
    exact ⟨TakenUp.text _, TakenUp.snapshot_fields snapshot⟩
  | notifyConfirmation result =>
    apply TakenUp.object
    rw [List.forall_mem_cons, List.forall_mem_singleton]
    exact ⟨TakenUp.text _, TakenUp.confirmation h⟩

/-- The task that a body says under its kind. -/
def ofBody? (tag : String) (body : Json) : Option Task :=
  match tag with
  | "backup_snapshot" => do return .backupSnapshot (← decodeIn .withinTask body)
  | "notify_confirmation" => do
    let f ← body.record? ["result"]
    return .notifyConfirmation (← f.required "result" (decodeIn .withinTask))
  | _ => none

theorem decode_eq (j : Json) :
    decode j = if !j.isSound || decide (127 < j.depth) then none else j.untag?.bind fun r => ofBody? r.1 r.2 := by
  rfl

theorem ofBody?_of_varies (ht : t.Fits) (h : Varies (encode t) j) :
    (j.untag?.bind fun r => ofBody? r.1 r.2) = some t := by
  cases t with
  | backupSnapshot snapshot =>
    obtain ⟨body, huntag, hbody⟩ := Varies.untag? h (by simp [Snapshot.fields])
    have hread : decodeIn .withinTask body = some snapshot := (Reads.snapshot .withinTask snapshot).of_varies hbody
    simp [huntag, ofBody?, hread]
  | notifyConfirmation result =>
    obtain ⟨body, huntag, hbody⟩ := Varies.untag? h (by simp)
    obtain ⟨f, hrecord, hf⟩ := hbody.record? rfl (by simp)
    have hread : f.required "result" (decodeIn .withinTask) = some result :=
      hf.required "result" (Reads.confirmation .withinTask ht) (by simp)
    have hrecord : body.record? ["result"] = some f := hrecord
    simp [huntag, ofBody?, hrecord, hread]

/-- A variation of a task is read as the task exactly if it can be taken up as a whole. -/
theorem decode_eq_some_iff (ht : t.Fits) (h : Varies (encode t) j) :
    decode j = some t ↔ j.isSound = true ∧ j.depth ≤ 127 := by
  rw [decode_eq, ofBody?_of_varies ht h]
  simp

end Task

/-- The value of a type that a text says. -/
def Coded.ofText? {α : Type} [Coded α] (text : String) : Option α := (Json.ofText? text).bind decode

theorem Coded.ofText?_toText {α : Type} [Coded α] (j : Json) : (ofText? j.toText : Option α) = decode j := by
  rw [ofText?, Json.ofText?_toText, Option.bind_some]

/-- What is written for a value says the value, also with the fields of its objects in another order, without fields
that are null, and with fields of other names beside them. For a task this holds exactly if all of it is sound and no
more than 127 levels deep, and so it is if what is added is sound and no more than 122 levels deep. -/
theorem Coded.read_back :
    (∀ (o : Order) (j : Json), o.Fits → Varies (encode o) j → ofText? j.toText = some o) ∧
    (∀ (m : Membership) (j : Json), Varies (encode m) j → ofText? j.toText = some m) ∧
    (∀ (s : Snapshot) (j : Json), Varies (encode s) j → ofText? j.toText = some s) ∧
    (∀ (w : Wallet) (j : Json), w.Fits → Varies (encode w) j → ofText? j.toText = some w) ∧
    (∀ (d : Draw) (j : Json), FitsCents d.balance → Varies (encode d) j → ofText? j.toText = some d) ∧
    (∀ (d : Draft) (j : Json), d.Fits → Varies (encode d) j → ofText? j.toText = some d) ∧
    (∀ (c : Confirmation) (j : Json), c.order.Fits → Varies (encode c) j → ofText? j.toText = some c) ∧
    (∀ (t : Task) (j : Json), t.Fits → Varies (encode t) j →
      (ofText? j.toText = some t ↔ j.isSound = true ∧ j.depth ≤ 127)) ∧
    ∀ (t : Task) (j : Json), t.Fits → Variation (TakenUp 122) (encode t) j → ofText? j.toText = some t := by
  simp only [Coded.ofText?_toText]
  refine ⟨?_, ?_, ?_, ?_, ?_, ?_, ?_, ?_, ?_⟩
  · exact fun o j ho hvary => (Reads.order .alone ho).of_varies hvary
  · exact fun m j hvary => (Reads.membership .alone m).of_varies hvary
  · exact fun s j hvary => (Reads.snapshot .alone s).of_varies hvary
  · exact fun w j hw hvary => (Reads.wallet .alone hw).of_varies hvary
  · exact fun d j hd hvary => (Reads.draw .alone hd).of_varies hvary
  · exact fun d j hd hvary => (Reads.draft .alone hd).of_varies hvary
  · exact fun c j hc hvary => (Reads.confirmation .alone hc).of_varies hvary
  · exact fun t j ht hvary => Task.decode_eq_some_iff ht hvary
  · intro t j ht hvary
    have htaken : TakenUp (5 + 122) j := by
      have hwritten := Task.takenUp ht
      obtain ⟨hsound, hdepth⟩ := hvary.takenUp hwritten.sound
      exact ⟨hsound, Nat.le_trans hdepth (Nat.add_le_add_right hwritten.depth_le 122)⟩
    exact (Task.decode_eq_some_iff ht hvary.varies).mpr ⟨htaken.sound, htaken.depth_le⟩

/-- A confirmation with its fields in reverse, a draw without the field that is null, and a task in reverse with a list
beside its fields. -/
theorem Coded.fields_moved_left_out_and_added :
    let o := Samples.paidOrder (Samples.reader "x") "FT01" 25800 ⟨19875, by decide⟩ ⟨20241, by decide⟩
    let m := Samples.member o.reader "mmb_1" .standard ⟨20241, by decide⟩
    let s := (Snapshot.take m "snp_1" .renew o.created).withOrder o.id
    let c : Confirmation := ⟨o, m, s⟩
    let d : Draw := ⟨"FT01", 12900, o.created, none, "FT02"⟩
    let kept := [("source_order_id", Json.text "FT01"), ("balance", .integer 12900), ("created_utc", encode o.created),
      ("upgrade_order_id", .text "FT02")]
    let added := [("notes", Json.list [.integer 1, .text "\n"])]
    ofText? (Json.object c.fields.reverse).toText = some c ∧ ofText? (Json.object kept).toText = some d ∧
      ofText? (Json.object (("type", .text "backup_snapshot") :: s.fields ++ added).reverse).toText =
        some (Task.backupSnapshot s) := by
  intro o m s c d kept added
  obtain ⟨_, _, _, _, hdraw, _, hconfirmation, _, htask⟩ := Coded.read_back
  have ho : o.Fits := ⟨by decide, by decide, by decide, by decide⟩
  have hlist : TakenUp 122 (.list [.integer 1, .text "\n"]) :=
    ⟨by simp [isSound, areSound, isFiniteNumeral_of_lt], by decide⟩
  refine ⟨hconfirmation c _ ho ?_, hdraw d _ (by decide) ?_, htask (.backupSnapshot s) _ trivial ?_⟩
  · exact .rearranged (.refl _) c.fields.reverse_perm
  · exact .rearranged (.keep (.same _) (.keep (.same _) (.keep (.same _) (.drop (.refl _))))) (List.Perm.refl _)
  · refine .object (.refl _) ?_ (List.reverse_perm _)
    intro f hf
    rw [List.mem_singleton.mp hf]
    exact ⟨by simp [Snapshot.fields], hlist⟩

/-- A number beyond all doubles beside the fields of a snapshot, and the task is not read. -/
theorem Task.number_out_of_range :
    let m := Samples.member (Samples.reader "x") "mmb_1" .standard ⟨20241, by decide⟩
    let s := (Snapshot.take m "snp_1" .renew ⟨1717200000, 0, by decide, by decide⟩).withOrder "FT01"
    let j := Json.object (("type", .text "backup_snapshot") :: s.fields ++ [("x", .decimal false 1 999)])
    (backupSnapshot s).Fits ∧ Varies (encode (backupSnapshot s)) j ∧
      (Coded.ofText? j.toText : Option Task) = none := by
  intro m s j
  have hsound : j.isSound = false := by
    rw [Bool.eq_false_iff]
    intro h
    have hx := areSoundFields_iff.mp h ("x", .decimal false 1 999) (by simp)
    rw [isSound, isFiniteNumeral_eq_false (by decide) (by decide) (by decide)] at hx
    cases hx
  refine ⟨trivial, ?_, ?_⟩
  · refine .object (.refl _) ?_ (List.Perm.refl _)
    intro f hf
    rw [List.mem_singleton.mp hf]
    exact ⟨by simp [Snapshot.fields], trivial⟩
  · rw [Coded.ofText?_toText, Task.decode_eq, hsound]
    rfl

end Subscriptions
