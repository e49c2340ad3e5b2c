import Subscriptions.Json.Reader
import Subscriptions.Json.Writer
import Subscriptions.Proofs.Text.Decimal

/-!
JSON text is read back as the value that it was written from, whatever texts, numbers and nestings there are in it.
-/

namespace Subscriptions.Json

set_option autoImplicit false

open Decimal (DigitsStop)

variable {fuel n : Nat} {c : Char} {cs : List Char} {j : Json}

/-- What follows a value within a text: nothing, a comma or a closing bracket. -/
def ValueEnds (cs : List Char) : Prop := ∀ c ∈ cs.head?, c = ',' ∨ c = ']' ∨ c = '\x7d'

@[simp] theorem valueEnds_nil : ValueEnds [] := by simp [ValueEnds]

@[simp] theorem valueEnds_cons : ValueEnds (c :: cs) ↔ c = ',' ∨ c = ']' ∨ c = '\x7d' := by simp [ValueEnds]

theorem ValueEnds.digitsStop (h : ValueEnds cs) : DigitsStop cs := by
  intro c hc
  rcases h c hc with rfl | rfl | rfl <;> rfl

/-! ### Texts -/

theorem hexDigit?_digitChar : ∀ d < 16, hexDigit? (Nat.digitChar d) = some d := by decide

theorem readPieces_hex4 (hn : n < 0xd800) :
    readPieces ('\\' :: 'u' :: hex4 n ++ cs) = (readPieces cs).map fun r => (.whole (Char.ofNat n) :: r.1, r.2) := by
  have hdigit (k : Nat) : hexDigit? (Nat.digitChar (k % 16)) = some (k % 16) :=
    hexDigit?_digitChar _ (Nat.mod_lt _ (by decide))
  have hunit : hexUnit? (Nat.digitChar (n / 4096 % 16)) (Nat.digitChar (n / 256 % 16)) (Nat.digitChar (n / 16 % 16))
      (Nat.digitChar (n % 16)) = some n := by
    simp only [hexUnit?, hdigit, Option.bind_eq_bind, Option.bind_some, pure]
    congr 1
    omega
  have hwhole : Piece.ofUnit n = .whole (Char.ofNat n) := by
    have hhigh : ¬ 0xd800 ≤ n := by omega
    have hlow : ¬ 0xdc00 ≤ n := by omega
    simp [Piece.ofUnit, isHighSurrogate, isLowSurrogate, hhigh, hlow]
  simp only [hex4, List.map_cons, List.map_nil, List.cons_append, List.nil_append, readPieces, hunit, hwhole]

/-- A character is written behind a backslash, as the letter that stands for it or by its number, or as it is. -/
theorem escape_cases (c : Char) :
    (∃ e, escape c = ['\\', e] ∧ shortEscape? e = some c) ∨
      (c.toNat < 32 ∧ escape c = '\\' :: 'u' :: hex4 c.toNat) ∨
      (c ≠ '"' ∧ c ≠ '\\' ∧ 32 ≤ c.toNat ∧ escape c = [c]) := by
  by_cases hshort : c ∈ ['"', '\\', '\x08', '\x0c', '\n', '\r', '\t']
  · left
    simp only [List.mem_cons, List.not_mem_nil, or_false] at hshort
    rcases hshort with rfl | rfl | rfl | rfl | rfl | rfl | rfl
    all_goals exact ⟨_, by rfl, by rfl⟩
  · right
    simp only [List.mem_cons, List.not_mem_nil, or_false, not_or] at hshort
    obtain ⟨hquote, hslash, hback, hfeed, hline, hreturn, htab⟩ := hshort
    simp only [escape, hquote, hslash, hback, hfeed, hline, hreturn, htab, if_false]
    by_cases hcontrol : c.toNat < 32
    · exact .inl ⟨hcontrol, if_pos hcontrol⟩
    · exact .inr ⟨hquote, hslash, Nat.not_lt.mp hcontrol, if_neg hcontrol⟩

theorem readPieces_escape (c : Char) (cs : List Char) :
    readPieces (escape c ++ cs) = (readPieces cs).map fun r => (.whole c :: r.1, r.2) := by
  rcases escape_cases c with ⟨e, hc, hshort⟩ | ⟨hcontrol, hc⟩ | ⟨hquote, hslash, hprinted, hc⟩
  · have hletter : e ≠ 'u' := by
      rintro rfl
      cases hshort
    rw [hc, List.cons_append, List.cons_append, List.nil_append, readPieces, hshort]
    exact fun _ _ _ _ _ heq _ => hletter heq
  · have hunit : c.toNat < 0xd800 := by omega
    rw [hc, readPieces_hex4 hunit, Char.ofNat_toNat]
  · have hcontrol : ¬ c.toNat < 32 := Nat.not_lt.mpr hprinted
    rw [hc, List.cons_append, List.nil_append, readPieces]
    · rw [if_neg (by simp only [hcontrol, hslash, or_self, not_false_eq_true])]
    · exact hquote
    · exact fun _ _ _ _ _ heq _ => hslash heq
    · exact fun _ _ heq _ => hslash heq

theorem readPieces_writeText (characters cs : List Char) :
    readPieces (characters.flatMap escape ++ '"' :: cs) = some (characters.map Piece.whole, cs) := by
  induction characters with
  | nil => simp [readPieces]
  | cons c characters ih =>
    rw [List.flatMap_cons, List.append_assoc, readPieces_escape, ih]
    rfl

theorem joinPieces_whole (characters : List Char) : joinPieces (characters.map Piece.whole) = some characters := by
  induction characters with
  | nil => rfl
  | cons c characters ih => simp [joinPieces, ih]

theorem readText_writeText (s : String) (cs : List Char) :
    readText (s.toList.flatMap escape ++ '"' :: cs) = some (some s, cs) := by
  simp [readText, readPieces_writeText, joinPieces_whole]

/-! ### Numerals -/

theorem readPower_signed (e : Int) (hcs : DigitsStop cs) : readPower (Decimal.signed e ++ cs) = some (e, cs) := by
  have hread : Decimal.readAll? (Decimal.digits e.natAbs ++ cs) = some (e.natAbs, cs) := Decimal.readAll?_digits hcs
  rw [Decimal.signed]
  split
  · simp only [List.cons_append, readPower, hread, Option.map_some]
    rw [show -(e.natAbs : Int) = e by omega]
  · obtain ⟨d, ds, hds, hd⟩ := Decimal.exists_digits_eq e.natAbs
    rw [hds, List.cons_append] at hread ⊢
    rw [readPower]
    · rw [hread, Option.map_some, show (e.natAbs : Int) = e by omega]
    · exact fun _ heq => Decimal.ne_of_isDigit hd rfl (List.cons.inj heq).1
    · exact fun _ heq => Decimal.ne_of_isDigit hd rfl (List.cons.inj heq).1

/-- A numeral without a point. It is an integer if it has no exponent either, unless it is a negative zero. -/
theorem readNumeral_digits {negative : Bool} {exponent : Option Int} {rest : List Char} (hstop : DigitsStop cs)
    (hplaces : readPlaces cs = some ([], cs)) (hexponent : readExponent cs = some (exponent, rest)) :
    readNumeral negative (Decimal.digits n ++ cs) =
      some (if exponent.isNone && !(negative && n == 0) then .integer (if negative then -(n : Int) else n)
        else .decimal negative n (exponent.getD 0), rest) := by
  have hall : ∀ d ∈ Decimal.digits n, d.isDigit = true := fun d hd => Decimal.isDigit_of_mem_digits hd
  have hne : (Decimal.digits n).isEmpty = false := by
    rw [List.isEmpty_eq_false_iff]
    exact Decimal.digits_ne_nil n
  have hzero : ((Decimal.digits n).length != 1 && (Decimal.digits n).head? == some '0') = false := by
    rw [Bool.and_eq_false_imp]
    intro hlength
    rw [beq_eq_false_iff_ne]
    intro hhead
    rw [Decimal.length_digits_of_head? hhead] at hlength
    cases hlength
  simp [readNumeral, Decimal.takeWhile_append hall hstop, Decimal.dropWhile_append hall hstop, hne, hzero, hplaces,
    hexponent]
  grind

theorem readNumeral_integer {negative : Bool} (hcs : ValueEnds cs) (hn : negative = true → n ≠ 0) :
    readNumeral negative (Decimal.digits n ++ cs) = some (.integer (if negative then -(n : Int) else n), cs) := by
  have hplaces : readPlaces cs = some ([], cs) := by
    rw [readPlaces]
    rintro rest rfl
    simp at hcs
  have hexponent : readExponent cs = some (none, cs) := by
    rw [readExponent]
    · rintro rest rfl
      simp at hcs
    · rintro rest rfl
      simp at hcs
  rw [readNumeral_digits hcs.digitsStop hplaces hexponent]
  have hzero : (negative && n == 0) = false := by
    rw [Bool.and_eq_false_imp]
    intro hnegative
    exact beq_eq_false_iff_ne.mpr (hn hnegative)
  simp [hzero]

theorem readNumeral_decimal {negative : Bool} (e : Int) (hcs : ValueEnds cs) :
    readNumeral negative (Decimal.digits n ++ 'e' :: (Decimal.signed e ++ cs)) = some (.decimal negative n e, cs) := by
  have hexponent : readExponent ('e' :: (Decimal.signed e ++ cs)) = some (some e, cs) := by
    rw [readExponent, readPower_signed e hcs.digitsStop]
    rfl
  rw [readNumeral_digits (Decimal.digitsStop_cons.mpr rfl) rfl hexponent]
  rfl

/-! ### Values -/

theorem readValue_of_isDigit (hc : c.isDigit = true) :
    readValue (fuel + 1) (c :: cs) = readNumeral false (c :: cs) := by
  have hne {d : Char} {ds rest : List Char} (hd : d.isDigit = false) : c :: ds ≠ d :: rest :=
    fun heq => Decimal.ne_of_isDigit hc hd (List.cons.inj heq).1
  rw [readValue]
  all_goals exact fun _ => hne rfl

theorem readValue_digits :
    readValue (fuel + 1) (Decimal.digits n ++ cs) = readNumeral false (Decimal.digits n ++ cs) := by
  obtain ⟨d, ds, hds, hd⟩ := Decimal.exists_digits_eq n
  rw [hds, List.cons_append, readValue_of_isDigit hd]

theorem readValue_integer (i : Int) (hcs : ValueEnds cs) :
    readValue (fuel + 1) (write (.integer i) ++ cs) = some (.integer i, cs) := by
  rw [write, Decimal.signed]
  split
  · rw [List.cons_append, readValue, readNumeral_integer hcs (by omega), if_pos rfl,
      show -(i.natAbs : Int) = i by omega]
  · rw [readValue_digits, readNumeral_integer hcs (by simp), if_neg (by simp), show (i.natAbs : Int) = i by omega]

theorem readValue_decimal (negative : Bool) (e : Int) (hcs : ValueEnds cs) :
    readValue (fuel + 1) (write (.decimal negative n e) ++ cs) = some (.decimal negative n e, cs) := by
  cases negative with
  | true => simp [write, readValue, readNumeral_decimal e hcs]
  | false => simp [write, readValue_digits, readNumeral_decimal e hcs]

theorem readValue_text (s : String) (cs : List Char) :
    readValue (fuel + 1) (write (.text s) ++ cs) = some (.text s, cs) := by
  simp [write, writeText, readValue, readText_writeText]

theorem readValue_garbled (cs : List Char) : readValue (fuel + 1) (write .garbled ++ cs) = some (.garbled, cs) := by
  have hunit : hexUnit? 'd' '8' '0' '0' = some 0xd800 := by decide
  simp [write, readValue, readText, readPieces, hunit, Piece.ofUnit, isHighSurrogate, joinPieces]

/-- A value is written without white space in front and begins like no closing bracket. -/
theorem exists_write_eq (j : Json) :
    ∃ c cs, j.write = c :: cs ∧ isSpace c = false ∧ c ≠ ']' ∧ c ≠ '\x7d' := by
  have hdigits (n : Nat) (cs : List Char) :
      ∃ c ds, Decimal.digits n ++ cs = c :: ds ∧ isSpace c = false ∧ c ≠ ']' ∧ c ≠ '\x7d' := by
    obtain ⟨d, ds, hds, hd⟩ := Decimal.exists_digits_eq n
    have hne {m : Char} (hm : m.isDigit = false) : d ≠ m := Decimal.ne_of_isDigit hd hm
    refine ⟨d, ds ++ cs, by rw [hds, List.cons_append], ?_, hne rfl, hne rfl⟩
    simp [isSpace, hne (m := ' ') rfl, hne (m := '\n') rfl, hne (m := '\r') rfl, hne (m := '\t') rfl]
  cases j with
  | null => simp [write, isSpace]
  | bool b => cases b <;> simp [write, isSpace]
  | integer i =>
    rw [write, Decimal.signed]
    split
    · simp [isSpace]
    · simpa using hdigits i.natAbs []
  | decimal negative n e =>
    cases negative with
    | true => simp [write, isSpace]
    | false => simpa [write] using hdigits n ('e' :: Decimal.signed e)
  | text s => simp [write, writeText, isSpace]
  | garbled => simp [write, isSpace]
  | list items => cases items <;> simp [write, isSpace]
  | object fields =>
    cases fields with
    | nil => simp [write, isSpace]
    | cons f fields => simp [write, isSpace]

theorem skipSpace_cons (hc : isSpace c = false) : skipSpace (c :: cs) = c :: cs := by
  simp [skipSpace, hc]

theorem skipSpace_write (j : Json) (cs : List Char) : skipSpace (j.write ++ cs) = j.write ++ cs := by
  obtain ⟨c, ds, hj, hc, _⟩ := j.exists_write_eq
  rw [hj, List.cons_append, skipSpace_cons hc]

theorem valueEnds_writeItems (items : List Json) (cs : List Char) : ValueEnds (writeItems items ++ cs) := by
  cases items <;> simp [writeItems]

theorem valueEnds_writeFields (fields : List (String × Json)) (cs : List Char) :
    ValueEnds (writeFields fields ++ cs) := by
  cases fields with
  | nil => simp [writeFields]
  | cons f fields => simp [writeFields]

theorem skipSpace_writeText (s : String) (cs : List Char) : skipSpace (writeText s ++ cs) = writeText s ++ cs := by
  rw [writeText, List.append_assoc, List.cons_append, skipSpace_cons (by decide)]

theorem skipSpace_writeItems (items : List Json) (cs : List Char) :
    skipSpace (writeItems items ++ cs) = writeItems items ++ cs := by
  cases items <;> simp [writeItems, skipSpace, isSpace]

theorem skipSpace_writeFields (fields : List (String × Json)) (cs : List Char) :
    skipSpace (writeFields fields ++ cs) = writeFields fields ++ cs := by
  cases fields with
  | nil => simp [writeFields, skipSpace, isSpace]
  | cons f fields => simp [writeFields, skipSpace, isSpace]

theorem readField_write (key : String) (hvalue : readValue fuel (j.write ++ cs) = some (j, cs)) :
    readField (fuel + 1) (writeText key ++ ':' :: (j.write ++ cs)) = some ((some key, j), cs) := by
  simp [writeText, readField, readText_writeText, skipSpace_cons (show isSpace ':' = false by decide), skipSpace_write,
    hvalue]

theorem collect_some (fields : List (String × Json)) :
    collect (fields.map fun f => (some f.1, f.2)) = .object fields := by
  have hkeys : (fields.map fun f => (some f.1, f.2)).mapM
      (fun f : Option String × Json => f.1.map fun key => (key, f.2)) = some fields := by
    induction fields with
    | nil => rfl
    | cons f fields ih => simp [ih]
  rw [collect, hkeys]

mutual
/-- A value is read back from the front of a text, with fuel for each of its characters. -/
theorem readValue_write : ∀ (j : Json) (fuel : Nat) (cs : List Char), j.write.length ≤ fuel → ValueEnds cs →
    readValue fuel (j.write ++ cs) = some (j, cs)
  | j, 0, cs, hfuel, hcs => by
    obtain ⟨c, ds, hj, -⟩ := j.exists_write_eq
    rw [hj] at hfuel
    cases hfuel
  | .null, fuel + 1, cs, hfuel, hcs => by simp [write, readValue, expect]
  | .bool true, fuel + 1, cs, hfuel, hcs => by simp [write, readValue, expect]
  | .bool false, fuel + 1, cs, hfuel, hcs => by simp [write, readValue, expect]
  | .integer i, fuel + 1, cs, hfuel, hcs => readValue_integer i hcs
  | .decimal negative n e, fuel + 1, cs, hfuel, hcs => readValue_decimal negative e hcs
  | .text s, fuel + 1, cs, hfuel, hcs => readValue_text s cs
  | .garbled, fuel + 1, cs, hfuel, hcs => readValue_garbled cs
  | .list [], fuel + 1, cs, hfuel, hcs => by
    simp [write, readValue, skipSpace_cons (show isSpace ']' = false by decide)]
  | .list (j :: items), fuel + 1, cs, hfuel, hcs => by
    -- The fuel goes down by one for the bracket and is then shared by the parts, which are shorter than the whole.
    simp only [write, List.length_append, List.length_cons] at hfuel
    have hfirst := readValue_write j fuel (writeItems items ++ cs) (by omega) (valueEnds_writeItems items cs)
    have hrest := readItems_writeItems items fuel cs (by omega)
    obtain ⟨c, ds, hj, -, hclose, -⟩ := j.exists_write_eq
    have hspace := skipSpace_write j (writeItems items ++ cs)
    rw [hj, List.cons_append] at hfirst hspace
    simp only [write, hj, List.cons_append, List.append_assoc, readValue, hspace]
    split
    · next heq => exact absurd (List.cons.inj heq).1 hclose
    · simp [hfirst, skipSpace_writeItems, hrest]
  | .object [], fuel + 1, cs, hfuel, hcs => by
    simp [write, readValue, skipSpace_cons (show isSpace '\x7d' = false by decide)]
  | .object ((key, j) :: fields), fuel + 1, cs, hfuel, hcs => by
    simp only [write, writeText, List.length_append, List.length_cons] at hfuel
    -- The value of a field is read with less fuel than the field; the quotes of its key make up for that.
    obtain ⟨k, rfl⟩ : ∃ k, fuel = k + 1 := ⟨fuel - 1, by omega⟩
    have hfirst := readField_write key
      (readValue_write j k (writeFields fields ++ cs) (by omega) (valueEnds_writeFields fields cs))
    have hrest := readFields_writeFields fields (k + 1) cs (by omega)
    simp only [write, List.cons_append, List.append_assoc, readValue, skipSpace_writeText]
    split
    · next heq => simp [writeText] at heq
    · have hcollect := collect_some ((key, j) :: fields)
      rw [List.map_cons] at hcollect
      simp [hfirst, skipSpace_writeFields, hrest, hcollect]
theorem readItems_writeItems : ∀ (items : List Json) (fuel : Nat) (cs : List Char),
    (writeItems items).length ≤ fuel → readItems fuel (writeItems items ++ cs) = some (items, cs)
  | [], 0, cs, hfuel => by simp [writeItems] at hfuel
  | [], fuel + 1, cs, hfuel => by simp [writeItems, readItems]
  | j :: items, 0, cs, hfuel => by simp [writeItems] at hfuel
  | j :: items, fuel + 1, cs, hfuel => by
    simp only [writeItems, List.length_append, List.length_cons] at hfuel
    have hfirst := readValue_write j fuel (writeItems items ++ cs) (by omega) (valueEnds_writeItems items cs)
    have hrest := readItems_writeItems items fuel cs (by omega)
    simp [writeItems, readItems, skipSpace_write, hfirst, skipSpace_writeItems, hrest]
theorem readFields_writeFields : ∀ (fields : List (String × Json)) (fuel : Nat) (cs : List Char),
    (writeFields fields).length ≤ fuel →
      readFields fuel (writeFields fields ++ cs) = some (fields.map fun f => (some f.1, f.2), cs)
  | [], 0, cs, hfuel => by simp [writeFields] at hfuel
  | [], fuel + 1, cs, hfuel => by simp [writeFields, readFields]
  | (key, j) :: fields, 0, cs, hfuel => by simp [writeFields] at hfuel
  | (key, j) :: fields, fuel + 1, cs, hfuel => by
    simp only [writeFields, writeText, List.length_append, List.length_cons] at hfuel
    obtain ⟨k, rfl⟩ : ∃ k, fuel = k + 1 := ⟨fuel - 1, by omega⟩
    have hfirst := readField_write key
      (readValue_write j k (writeFields fields ++ cs) (by omega) (valueEnds_writeFields fields cs))
    have hrest := readFields_writeFields fields (k + 1) cs (by omega)
    simp only [writeFields, List.cons_append, List.append_assoc]
    rw [readFields, skipSpace_writeText]
    simp [hfirst, skipSpace_writeFields, hrest]
end

@[simp] theorem ofText?_toText (j : Json) : ofText? j.toText = some j := by
  have hread := readValue_write j (j.write.length + 1) [] (Nat.le_succ _) valueEnds_nil
  have hspace := skipSpace_write j []
  rw [List.append_nil] at hread hspace
  simp [ofText?, toText, hspace, hread, show skipSpace [] = [] from rfl]

end Subscriptions.Json
