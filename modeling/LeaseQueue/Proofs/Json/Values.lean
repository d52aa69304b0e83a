/-
Reading back the JSON texts that are written.

* `stringBody_escape`, `stringBody_flatMap_escape`: an escaped character and a quoted string read
  back;
* `number_ofNat`: the digits of a whole number read back;
* `items_compact`, `members_compact`: items and members read back as soon as each of their values
  does;
* `Exact`: values without loss: whole numbers of 64 bits, the members of objects in increasing order
  of keys;
* `value_compact`: such a value reads back exactly if it is no deeper than the reader goes, and so
  does a whole text (`parse?_write`).
-/
import LeaseQueue.Json.Reader
import LeaseQueue.Json.Writer
import LeaseQueue.Proofs.SortedMap

namespace LeaseQueue.Json

open Reader Writer

/-! ### Strings -/

lemma hexDigit?_hexDigit : ∀ n < 16, hexDigit? (hexDigit n) = some n := by decide

/-- The four digits of a control character stand for it. -/
lemma hexUnit?_control {c : Char} (h : c.toNat < 0x20) :
    hexUnit? '0' '0' (hexDigit (c.toNat / 16)) (hexDigit (c.toNat % 16)) = some c.toNat := by
  have hhigh := hexDigit?_hexDigit (c.toNat / 16) (by omega)
  have hlow := hexDigit?_hexDigit (c.toNat % 16) (by omega)
  have hzero : hexDigit? '0' = some 0 := by decide
  have hsum : ((0 * 16 + 0) * 16 + c.toNat / 16) * 16 + c.toNat % 16 = c.toNat := by omega
  simp [hexUnit?, hhigh, hlow, hzero]
  omega

/-- A character that needs no escape is read as it stands. -/
lemma stringBody_plain {c : Char} (hquote : c ≠ '"') (hback : c ≠ '\\') (hlow : ¬ c.toNat < 0x20)
    (rest : List Char) : stringBody .full (c :: rest) = push c (stringBody .full rest) := by
  rw [stringBody.eq_def]
  split <;> simp_all

/-- An escaped character reads back. -/
lemma stringBody_escape (c : Char) (rest : List Char) :
    stringBody .full (escape c ++ rest) = push c (stringBody .full rest) := by
  unfold escape
  split
  iterate 7 · simp [stringBody, escaped?]
  · rename_i hquote hback _ _ _ _ _
    split_ifs with hlow
    · have hunit := hexUnit?_control hlow
      have hback : Char.ofNat c.toNat = c := Char.ofNat_toNat c
      simp only [List.cons_append, List.nil_append, stringBody, hunit, hback]
      rw [if_neg (by simp), if_neg (by omega), if_neg (by omega)]
    · exact stringBody_plain hquote hback hlow rest

/-- Escaped characters up to the closing quote read back. -/
lemma stringBody_flatMap_escape (cs rest : List Char) :
    stringBody .full (cs.flatMap escape ++ '"' :: rest) = some (cs, rest) := by
  induction cs with
  | nil => simp [stringBody]
  | cons c cs ih =>
      rw [List.flatMap_cons, List.append_assoc, stringBody_escape, ih]
      rfl

lemma quoted_append (s : String) (rest : List Char) :
    quoted s ++ rest = '"' :: (s.toList.flatMap escape ++ '"' :: rest) := by
  simp [quoted]

/-! ### Numbers -/

/-- What may follow a written value: nothing, a comma or a closing bracket or brace. -/
def Delimited (rest : List Char) : Prop := ∀ c ∈ rest.head?, c = ',' ∨ c = ']' ∨ c = '\x7d'

lemma delimited_nil : Delimited [] := by simp [Delimited]

lemma delimited_comma (rest : List Char) : Delimited (',' :: rest) := by simp [Delimited]

lemma delimited_bracket (rest : List Char) : Delimited (']' :: rest) := by simp [Delimited]

lemma delimited_brace (rest : List Char) : Delimited ('\x7d' :: rest) := by simp [Delimited]

/-- The digits of a number end where the number does. -/
lemma digits_append {ds rest : List Char} (hds : ∀ c ∈ ds, c.isDigit = true)
    (hrest : Delimited rest) : digits (ds ++ rest) = (ds, rest) := by
  have hhead : rest.takeWhile Char.isDigit = [] ∧ rest.dropWhile Char.isDigit = rest := by
    cases rest with
    | nil => exact ⟨rfl, rfl⟩
    | cons c rest =>
        have hc : c.isDigit = false := by
          rcases hrest c rfl with rfl | rfl | rfl <;> decide
        simp [hc]
  rw [digits, List.span_eq_takeWhile_dropWhile, List.takeWhile_append_of_pos hds,
    List.dropWhile_append_of_pos hds, hhead.1, hhead.2, List.append_nil]

lemma fraction?_delimited {rest : List Char} (h : Delimited rest) :
    fraction? rest = some (none, rest) := by
  cases rest with
  | nil => rfl
  | cons c rest => rcases h c rfl with rfl | rfl | rfl <;> rfl

lemma exponent?_delimited {rest : List Char} (h : Delimited rest) :
    exponent? rest = some (none, rest) := by
  cases rest with
  | nil => rfl
  | cons c rest => rcases h c rfl with rfl | rfl | rfl <;> simp [exponent?]

/-- A number only grows by its further digits. -/
lemma le_ofDigitChars (n : Nat) (ds : List Char) : n ≤ Nat.ofDigitChars 10 ds n := by
  induction ds generalizing n with
  | nil => exact le_rfl
  | cons c ds ih =>
      rw [Nat.ofDigitChars_cons]
      exact le_trans (by omega) (ih _)

/-- Digits are taken in as long as the number stays below `2 ^ 64`. -/
lemma absorb_eq {n : Nat} {ds : List Char} (h : Nat.ofDigitChars 10 ds n < UInt64.size) :
    absorb n ds = (Nat.ofDigitChars 10 ds n, ds.length) := by
  induction ds generalizing n with
  | nil => rfl
  | cons c ds ih =>
      have hnext : n * 10 + (c.toNat - 48) = 10 * n + (c.toNat - '0'.toNat) := by
        rw [Nat.mul_comm]
        rfl
      rw [Nat.ofDigitChars_cons] at h ⊢
      rw [absorb, hnext, if_pos (lt_of_le_of_lt (le_ofDigitChars _ ds) h), ih h]
      rfl

/-- Only the number zero starts with the digit zero. -/
lemma head?_toDigits {n : Nat} (h : 0 < n) : (Nat.toDigits 10 n).head? ≠ some '0' := by
  induction n using Nat.strong_induction_on with
  | _ n ih =>
      by_cases hn : n < 10
      · rw [Nat.toDigits_of_lt_base hn]
        interval_cases n <;> decide
      · rw [Nat.toDigits_of_base_le (by decide) (by omega),
          List.head?_append_of_ne_nil _ Nat.toDigits_ne_nil]
        exact ih (n / 10) (by omega) (by omega)

/-- The digits of a number have no leading zero. -/
lemma leadingZero_ofNat (n : Nat) :
    ((Decimal.ofNat n).isEmpty ||
      ((Decimal.ofNat n).head? == some '0' && 1 < (Decimal.ofNat n).length)) = false := by
  rcases Nat.eq_zero_or_pos n with rfl | hn
  · decide
  · have hne : (Decimal.ofNat n).isEmpty = false := by simp [Decimal.ofNat, Nat.toDigits_ne_nil]
    have hhead : ((Decimal.ofNat n).head? == some '0') = false :=
      beq_eq_false_iff_ne.mpr (head?_toDigits hn)
    rw [hne, hhead]
    rfl

/-- The digits of a whole number read back. -/
lemma number_ofNat {n : Nat} (negative : Bool) {rest : List Char} (hn : n < UInt64.size)
    (hnegative : negative = true → 0 < n ∧ n ≤ Nat.pow 2 63) (hrest : Delimited rest) :
    number .full negative (Decimal.ofNat n ++ rest)
      = some (.whole (if negative then -(n : Int) else n), rest) := by
  have hds := digits_append (fun c => Decimal.isDigit_of_mem_ofNat (n := n)) hrest
  have hvalue : Nat.ofDigitChars 10 (Decimal.ofNat n) 0 = n := Nat.ofDigitChars_ten_toDigits
  have habsorb := @absorb_eq 0 (Decimal.ofNat n) (hvalue.symm ▸ hn)
  rw [hvalue] at habsorb
  have hnumber : numberValue? negative (Decimal.ofNat n) none none
      = some (.whole (if negative then -(n : Int) else n)) := by
    rw [numberValue?, habsorb]
    cases negative with
    | false => simp
    | true => simp [hnegative rfl]
  rw [number, hds]
  simp only [leadingZero_ofNat, Bool.false_eq_true, if_false, Option.bind_eq_bind,
    fraction?_delimited hrest, exponent?_delimited hrest, Option.bind_some, hnumber]
  rfl

/-! ### Values without parts -/

lemma skip_cons {c : Char} (h : isSpace c = false) (rest : List Char) :
    skip (c :: rest) = c :: rest := by
  rw [skip, List.dropWhile_cons_of_neg (by simp [h])]

/-- What starts with an opening bracket is read as an array. -/
lemma value_bracket (care : Care) (fuel depth : Nat) (rest : List Char) :
    value care fuel (depth + 1) ('[' :: rest)
      = (arrayBody (value care fuel depth) fuel rest).map
          fun (vs, rest) => (.array vs, rest) := rfl

/-- What starts with an opening brace is read as an object. -/
lemma value_brace (care : Care) (fuel depth : Nat) (rest : List Char) :
    value care fuel (depth + 1) ('\x7b' :: rest)
      = (objectBody care (fun _ => value care fuel depth) fuel rest).map
          fun (ms, rest) => (.object ms, rest) := rfl

/-- Where nothing may be nested any more, no array and no object is read. -/
lemma value_zero_opening (fuel : Nat) {c : Char} (hc : c = '[' ∨ c = '\x7b') (rest : List Char) :
    value .full fuel 0 (c :: rest) = none := by
  have hstart : skip (c :: rest) = c :: rest := by
    refine skip_cons ?_ rest
    rcases hc with rfl | rfl <;> decide
  have hdigits : digits (c :: rest) = ([], c :: rest) := by
    rw [digits, List.span_eq_takeWhile_dropWhile]
    rcases hc with rfl | rfl <;> simp
  have hnumber : number .full false (c :: rest) = none := by
    rw [number, hdigits]
    rfl
  change Reader.scalar .full (skip (c :: rest)) = none
  rw [hstart]
  rcases hc with rfl | rfl <;> exact hnumber

/-- What starts otherwise is read as a value without parts. -/
lemma value_scalar (fuel depth : Nat) {c : Char} (rest : List Char) (hspace : isSpace c = false)
    (hbracket : c ≠ '[') (hbrace : c ≠ '\x7b') :
    value .full fuel depth (c :: rest) = Reader.scalar .full (c :: rest) := by
  have hstart := skip_cons hspace rest
  cases depth with
  | zero => exact congrArg _ hstart
  | succ depth =>
      unfold value
      dsimp only
      rw [hstart]
      split <;> simp_all

lemma ofNat_eq_cons (n : Nat) : ∃ c cs, Decimal.ofNat n = c :: cs ∧ c.isDigit = true := by
  obtain ⟨c, cs, hcs⟩ := List.exists_cons_of_ne_nil (Nat.toDigits_ne_nil (n := n) (b := 10))
  exact ⟨c, cs, hcs, Decimal.isDigit_of_mem_ofNat (n := n) (by simp [Decimal.ofNat, hcs])⟩

lemma ne_of_isDigit {c d : Char} (hc : c.isDigit = true) (hd : d.isDigit = false) : c ≠ d := by
  rintro rfl
  exact absurd hc (by simp [hd])

lemma isSpace_of_isDigit {c : Char} (h : c.isDigit = true) : isSpace c = false := by
  simp [isSpace, ne_of_isDigit h]

/-- What starts with a digit is read as a number. -/
lemma scalar_of_isDigit {c : Char} (h : c.isDigit = true) (rest : List Char) :
    Reader.scalar .full (c :: rest) = number .full false (c :: rest) := by
  rw [Reader.scalar.eq_def]
  split
  iterate 5
    · rename_i heq
      exact absurd (List.cons.inj heq).1 (ne_of_isDigit h (by decide))
  · rfl

/-- A written whole number reads back. -/
lemma value_whole (fuel depth : Nat) {n : Int} (hlow : -2 ^ 63 ≤ n) (hhigh : n < 2 ^ 64)
    {rest : List Char} (hrest : Delimited rest) :
    value .full fuel depth (compact (.whole n) ++ rest) = some (.whole n, rest) := by
  have hcompact : compact (.whole n) = Decimal.ofInt n := by simp [compact, Writer.scalar]
  have hsize : UInt64.size = 2 ^ 64 := rfl
  rw [hcompact, Decimal.ofInt]
  split_ifs with hneg
  · have hnumber := number_ofNat (n := n.natAbs) true (by omega)
      (fun _ => ⟨by omega, by change _ ≤ 2 ^ 63; omega⟩) hrest
    rw [if_pos rfl, show -(n.natAbs : Int) = n by omega] at hnumber
    rw [List.cons_append, value_scalar _ _ _ (by decide) (by decide) (by decide)]
    exact hnumber
  · have hnumber := number_ofNat (n := n.natAbs) false (by omega) (by simp) hrest
    rw [if_neg (by simp), show (n.natAbs : Int) = n by omega] at hnumber
    obtain ⟨c, cs, hcs, hdigit⟩ := ofNat_eq_cons n.natAbs
    rw [← hnumber, hcs, List.cons_append, value_scalar _ _ _ (isSpace_of_isDigit hdigit)
      (ne_of_isDigit hdigit (by decide)) (ne_of_isDigit hdigit (by decide)),
      scalar_of_isDigit hdigit]

/-- A written string reads back, whatever follows it. -/
lemma value_string (fuel depth : Nat) (s : String) (rest : List Char) :
    value .full fuel depth (compact (.string s) ++ rest) = some (.string s, rest) := by
  have hcompact : compact (.string s) = quoted s := by simp [compact, Writer.scalar]
  have hbody : Reader.scalar .full ('"' :: (s.toList.flatMap escape ++ '"' :: rest))
      = (stringBody .full (s.toList.flatMap escape ++ '"' :: rest)).map
          fun read => (.string (String.ofList read.1), read.2) := rfl
  rw [hcompact, quoted_append, value_scalar _ _ _ (by decide) (by decide) (by decide), hbody,
    stringBody_flatMap_escape]
  simp

/-- A written truth value or null reads back, whatever follows it. -/
lemma value_word (fuel depth : Nat) (rest : List Char) :
    value .full fuel depth (compact .null ++ rest) = some (.null, rest) ∧
      ∀ b, value .full fuel depth (compact (.bool b) ++ rest) = some (.bool b, rest) := by
  refine ⟨?_, fun b => ?_⟩
  · exact value_scalar _ _ _ (by decide) (by decide) (by decide)
  · cases b <;> exact value_scalar _ _ _ (by decide) (by decide) (by decide)

/-! ### Items and members -/

/-- A written key reads back together with its colon. -/
lemma key_quoted (k : String) (rest : List Char) :
    key .full (quoted k ++ ':' :: rest) = some (k, rest) := by
  rw [key, quoted_append, skip_cons (by decide)]
  simp only [stringBody_flatMap_escape, Option.bind_eq_bind, Option.bind_some]
  rw [skip_cons (by decide)]
  simp

/-- Items read back when each of them does; one that is refused is refused with all the others. -/
lemma items_compact {read : List Char → Option (Json × List Char)} {p : Json → Bool} {fuel : Nat}
    {vs : List Json} (hne : vs ≠ []) (hfuel : vs.length ≤ fuel)
    (hread : ∀ v ∈ vs, ∀ rest, Delimited rest →
      read (compact v ++ rest) = if p v then some (v, rest) else none) (rest : List Char) :
    items read fuel (compactItems vs ++ rest) = if vs.all p then some (vs, rest) else none := by
  induction vs generalizing fuel with
  | nil => exact absurd rfl hne
  | cons v vs ih =>
      obtain ⟨fuel, rfl⟩ : ∃ n, fuel = n + 1 := ⟨fuel - 1, by simp at hfuel; omega⟩
      have hv := hread v (by simp)
      cases vs with
      | nil =>
          have hw : compactItems [v] ++ rest = compact v ++ ']' :: rest := by simp [compactItems]
          rw [hw, items, hv _ (delimited_bracket rest)]
          cases hp : p v <;> simp [hp, skip_cons (c := ']') (by decide)]
      | cons v' vs =>
          have hw : compactItems (v :: v' :: vs) ++ rest
              = compact v ++ ',' :: (compactItems (v' :: vs) ++ rest) := by
            simp [compactItems]
          have hih := @ih fuel (by simp) (by simpa using hfuel)
            fun a ha => hread a (List.mem_cons_of_mem _ ha)
          rw [hw, items, hv _ (delimited_comma _), List.all_cons]
          cases p v <;> cases hp : (v' :: vs).all p <;>
            simp [skip_cons (c := ',') (by decide), hih, hp]

/-- Members read back when each of their values does; one that is refused is refused with all the
others. -/
lemma members_compact {read : String → List Char → Option (Json × List Char)} {p : Json → Bool}
    {fuel : Nat} {ms : List (String × Json)} (hne : ms ≠ []) (hfuel : ms.length ≤ fuel)
    (hread : ∀ e ∈ ms, ∀ rest, Delimited rest →
      read e.1 (compact e.2 ++ rest) = if p e.2 then some (e.2, rest) else none)
    (rest : List Char) :
    members .full read fuel (compactMembers ms ++ rest)
      = if ms.all (fun e => p e.2) then some (ms, rest) else none := by
  induction ms generalizing fuel with
  | nil => exact absurd rfl hne
  | cons e ms ih =>
      obtain ⟨k, v⟩ := e
      obtain ⟨fuel, rfl⟩ : ∃ n, fuel = n + 1 := ⟨fuel - 1, by simp at hfuel; omega⟩
      have hv := hread (k, v) (by simp)
      cases ms with
      | nil =>
          have hw : compactMembers [(k, v)] ++ rest
              = quoted k ++ ':' :: (compact v ++ '\x7d' :: rest) := by
            simp [compactMembers]
          rw [hw, members, key_quoted]
          simp only [Option.bind_eq_bind, Option.bind_some, hv _ (delimited_brace rest)]
          cases hp : p v <;> simp [hp, skip_cons (c := '\x7d') (by decide)]
      | cons e' ms =>
          have hw : compactMembers ((k, v) :: e' :: ms) ++ rest
              = quoted k ++ ':' :: (compact v ++ ',' :: (compactMembers (e' :: ms) ++ rest)) := by
            simp [compactMembers]
          have hih := @ih fuel (by simp) (by simpa using hfuel)
            (fun a ha => hread a (List.mem_cons_of_mem _ ha))
          rw [hw, members, key_quoted, List.all_cons]
          simp only [Option.bind_eq_bind, Option.bind_some, hv _ (delimited_comma _)]
          cases p v <;> cases hp : (e' :: ms).all (fun e => p e.2) <;>
            simp [skip_cons (c := ',') (by decide), hih, hp]

/-- Each written item is part of the text, and has at least one character of its own. -/
lemma length_compactItems (vs : List Json) :
    vs.length ≤ (compactItems vs).length ∧
      ∀ v ∈ vs, (compact v).length ≤ (compactItems vs).length := by
  induction vs with
  | nil => simp
  | cons v vs ih =>
      cases vs with
      | nil => simp [compactItems]
      | cons v' vs =>
          simp only [compactItems, List.length_append, List.length_cons] at ih ⊢
          refine ⟨by omega, fun a ha => ?_⟩
          rcases List.mem_cons.mp ha with rfl | ha
          · omega
          · have := ih.2 a ha
            omega

/-- Each written member is part of the text, and has at least one character of its own. -/
lemma length_compactMembers (ms : List (String × Json)) :
    ms.length ≤ (compactMembers ms).length ∧
      ∀ e ∈ ms, (compact e.2).length ≤ (compactMembers ms).length := by
  induction ms with
  | nil => simp
  | cons e ms ih =>
      obtain ⟨k, v⟩ := e
      cases ms with
      | nil =>
          simp only [compactMembers, List.length_append, List.length_cons, List.mem_singleton,
            forall_eq]
          omega
      | cons e' ms =>
          simp only [compactMembers, List.length_append, List.length_cons] at ih ⊢
          refine ⟨by omega, fun a ha => ?_⟩
          rcases List.mem_cons.mp ha with rfl | ha
          · dsimp only
            omega
          · have := ih.2 a ha
            omega

/-! ### Values without loss -/

/-- A value that reads back as it was: its numbers are whole and of 64 bits, with sign or without,
and the members of its objects stand in increasing order of keys. -/
inductive Exact : Json → Prop where
  | null : Exact .null
  | bool (b : Bool) : Exact (.bool b)
  | whole {n : Int} (hlow : -2 ^ 63 ≤ n) (hhigh : n < 2 ^ 64) : Exact (.whole n)
  | string (s : String) : Exact (.string s)
  | array {vs : List Json} (h : ∀ v ∈ vs, Exact v) : Exact (.array vs)
  | object {ms : List (String × Json)} (hkeys : ms.Pairwise fun a b => a.1 < b.1)
    (h : ∀ e ∈ ms, Exact e.2) : Exact (.object ms)

/-- A written value starts with no space and no closing bracket. -/
lemma Exact.compact_eq_cons {v : Json} (h : Exact v) :
    ∃ c cs, compact v = c :: cs ∧ isSpace c = false ∧ c ≠ ']' := by
  cases h with
  | null => exact ⟨'n', _, rfl, by decide, by decide⟩
  | bool b => cases b <;> exact ⟨_, _, rfl, by decide, by decide⟩
  | @whole n =>
      have hcompact : compact (.whole n) = Decimal.ofInt n := by simp [compact, Writer.scalar]
      obtain ⟨c, cs, hcs, hdigit⟩ := ofNat_eq_cons n.natAbs
      rw [hcompact, Decimal.ofInt]
      split_ifs
      · exact ⟨'-', _, rfl, by decide, by decide⟩
      · exact ⟨c, cs, hcs, isSpace_of_isDigit hdigit, ne_of_isDigit hdigit (by decide)⟩
  | string s =>
      have hcompact : compact (.string s) = quoted s := by simp [compact, Writer.scalar]
      exact ⟨'"', _, hcompact, by decide, by decide⟩
  | array => exact ⟨'[', _, by rw [compact], by decide, by decide⟩
  | object => exact ⟨'\x7b', _, by rw [compact], by decide, by decide⟩

lemma depthItems_le_iff {vs : List Json} {n : Nat} :
    depthItems vs ≤ n ↔ ∀ v ∈ vs, v.depth ≤ n := by
  induction vs with
  | nil => simp [depthItems]
  | cons v vs ih => simp [depthItems, ih]

lemma depthMembers_le_iff {ms : List (String × Json)} {n : Nat} :
    depthMembers ms ≤ n ↔ ∀ e ∈ ms, e.2.depth ≤ n := by
  induction ms with
  | nil => simp [depthMembers]
  | cons e ms ih => simp [depthMembers, ih]

/-- The inside of a written array reads back when its items do. -/
lemma arrayBody_compact {read : List Char → Option (Json × List Char)} {p : Json → Bool}
    {fuel : Nat} {vs : List Json} (hexact : ∀ v ∈ vs, Exact v) (hfuel : vs.length ≤ fuel)
    (hread : ∀ v ∈ vs, ∀ rest, Delimited rest →
      read (compact v ++ rest) = if p v then some (v, rest) else none) (rest : List Char) :
    arrayBody read fuel (compactItems vs ++ rest)
      = if vs.all p then some (vs, rest) else none := by
  cases vs with
  | nil => simp [arrayBody, compactItems, skip_cons (c := ']') (by decide)]
  | cons v vs =>
      obtain ⟨c, cs, hcs, hspace, hne⟩ := (hexact v List.mem_cons_self).compact_eq_cons
      obtain ⟨tail, htail⟩ : ∃ tail, compactItems (v :: vs) ++ rest = c :: tail := by
        cases vs with
        | nil => exact ⟨_, by rw [compactItems, hcs]; rfl⟩
        | cons v' vs => exact ⟨_, by rw [compactItems, hcs]; exacts [rfl, by simp]⟩
      have hitems := items_compact (by simp) hfuel hread rest
      rw [← hitems, htail, arrayBody, skip_cons hspace]
      split
      · rename_i heq
        exact absurd (List.cons.inj heq).1 hne
      · rfl

/-- The inside of a written object reads back when its values do. -/
lemma objectBody_compact {read : String → List Char → Option (Json × List Char)} {p : Json → Bool}
    {fuel : Nat} {ms : List (String × Json)} (hfuel : ms.length ≤ fuel)
    (hread : ∀ e ∈ ms, ∀ rest, Delimited rest →
      read e.1 (compact e.2 ++ rest) = if p e.2 then some (e.2, rest) else none)
    (rest : List Char) :
    objectBody .full read fuel (compactMembers ms ++ rest)
      = if ms.all (fun e => p e.2) then some (ms, rest) else none := by
  cases ms with
  | nil => simp [objectBody, compactMembers, skip_cons (c := '\x7d') (by decide)]
  | cons e ms =>
      obtain ⟨tail, htail⟩ : ∃ tail, compactMembers (e :: ms) ++ rest = '"' :: tail := by
        obtain ⟨k, v⟩ := e
        cases ms with
        | nil => exact ⟨_, by rw [compactMembers, quoted]; rfl⟩
        | cons e' ms => exact ⟨_, by rw [compactMembers, quoted]; exacts [rfl, by simp]⟩
      have hmembers := members_compact (by simp) hfuel hread rest
      rw [← hmembers, htail, objectBody, skip_cons (by decide)]
      split
      · rename_i heq
        exact absurd (List.cons.inj heq).1 (by decide)
      · rfl

/-- A value without loss reads back from its text exactly if it is no deeper than the reader may
go. -/
theorem value_compact {v : Json} (h : Exact v) {fuel depth : Nat}
    (hfuel : (compact v).length ≤ fuel) {rest : List Char} (hrest : Delimited rest) :
    value .full fuel depth (compact v ++ rest)
      = if v.depth ≤ depth then some (v, rest) else none := by
  induction h generalizing depth rest with
  | null => exact (value_word fuel depth rest).1.trans (by simp [Json.depth])
  | bool b => exact ((value_word fuel depth rest).2 b).trans (by simp [Json.depth])
  | whole hlow hhigh =>
      exact (value_whole fuel depth hlow hhigh hrest).trans (by simp [Json.depth])
  | string s => exact (value_string fuel depth s rest).trans (by simp [Json.depth])
  | @array vs hexact ih =>
      obtain ⟨hlength, hitem⟩ := length_compactItems vs
      rw [compact, List.length_cons] at hfuel
      rw [compact, List.cons_append]
      cases depth with
      | zero => simp [value_zero_opening fuel (.inl rfl), Json.depth]
      | succ depth =>
          have hbody := arrayBody_compact (p := fun v => decide (v.depth ≤ depth)) hexact
            (hlength.trans (Nat.le_of_succ_le hfuel))
            (fun v hv rest hrest => by
              have hread := @ih v hv depth
                ((hitem v hv).trans (Nat.le_of_succ_le hfuel)) rest hrest
              simpa using hread) rest
          have hdepth : vs.all (fun v => decide (v.depth ≤ depth)) = true ↔
              (array vs).depth ≤ depth + 1 := by
            simp [Json.depth, depthItems_le_iff]
          rw [value_bracket, hbody]
          simp only [hdepth]
          split_ifs <;> rfl
  | @object ms hkeys hexact ih =>
      obtain ⟨hlength, hmember⟩ := length_compactMembers ms
      rw [compact, List.length_cons] at hfuel
      rw [compact, List.cons_append]
      cases depth with
      | zero => simp [value_zero_opening fuel (.inr rfl), Json.depth]
      | succ depth =>
          have hbody := @objectBody_compact (fun _ => value .full fuel depth)
            (fun v => decide (v.depth ≤ depth)) fuel ms
            (hlength.trans (Nat.le_of_succ_le hfuel))
            (fun e he rest hrest => by
              have hread := @ih e he depth
                ((hmember e he).trans (Nat.le_of_succ_le hfuel)) rest hrest
              simpa using hread) rest
          have hdepth : ms.all (fun e => decide (e.2.depth ≤ depth)) = true ↔
              (object ms).depth ≤ depth + 1 := by
            simp [Json.depth, depthMembers_le_iff]
          rw [value_brace, hbody]
          simp only [hdepth]
          split_ifs <;> rfl

/-- The text of a value without loss reads back exactly if the value is no deeper than texts may
be. -/
theorem parse?_write {v : Json} (h : Exact v) :
    parse? v.write = if v.depth ≤ maxDepth then some v else none := by
  have hlist : v.write.toList = compact v ++ [] := by
    rw [write, String.toList_ofList, List.append_nil]
  have hfuel : (compact v).length ≤ v.write.length := by
    rw [← String.length_toList, hlist, List.append_nil]
  rw [parse?, hlist, value_compact h hfuel delimited_nil]
  split_ifs <;> rfl

lemma canonicalItems_eq_map (vs : List Json) : canonicalItems vs = vs.map canonical := by
  induction vs with
  | nil => rfl
  | cons v vs ih => rw [canonicalItems, ih, List.map_cons]

lemma canonicalMembers_eq_map (ms : List (String × Json)) :
    canonicalMembers ms = ms.map fun e => (e.1, e.2.canonical) := by
  induction ms with
  | nil => rfl
  | cons e ms ih => rw [canonicalMembers, ih, List.map_cons]

/-- A value without loss is in canonical form. -/
lemma Exact.canonical_eq {v : Json} (h : Exact v) : v.canonical = v := by
  induction h with
  | null | bool | whole | string => simp [canonical]
  | @array vs _ ih => rw [canonical, canonicalItems_eq_map, List.map_congr_left ih, List.map_id']
  | @object ms hkeys _ ih =>
      have hmembers : ms.map (fun e => (e.1, e.2.canonical)) = ms := by
        rw [List.map_congr_left fun e he => by rw [ih e he], List.map_id']
      rw [canonical, canonicalMembers_eq_map, hmembers, SortedMap.ofList_entries ⟨ms, hkeys⟩]

/-- So does its canonical form. -/
lemma read?_write {v : Json} (h : Exact v) :
    read? v.write = if v.depth ≤ maxDepth then some v else none := by
  rw [read?, parse?_write h]
  split_ifs
  · rw [Option.map_some, h.canonical_eq]
  · rfl

end LeaseQueue.Json
