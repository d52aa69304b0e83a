/-
The order of texts is the order of their bytes.

* `Text.bytes`: the bytes of a text in UTF-8;
* `encode_append_lt`: of two characters the lesser one has the lesser bytes, whatever follows them;
* `bytes_lt_iff`: one text comes before another iff its bytes do.
-/
import Mathlib.Tactic

namespace LeaseQueue.Text

/-- The bytes of a text in UTF-8. -/
def bytes (s : String) : List UInt8 := s.toByteArray.data.toList

lemma bytes_eq_flatMap (s : String) : bytes s = s.toList.flatMap String.utf8EncodeChar := by
  rw [bytes, ← String.utf8Encode_toList, List.utf8Encode, List.data_toByteArray]

/-! ### Characters -/

/-- Bytes are compared from the first one on. -/
lemma cons_lt_cons {a b : Nat} {l l' : List UInt8} (hb : b < 256) (hle : a ≤ b)
    (h : a = b → l < l') : UInt8.ofNat a :: l < UInt8.ofNat b :: l' := by
  rw [List.cons_lt_cons_iff, UInt8.lt_iff_toNat_lt, UInt8.toNat_ofNat_of_lt' (hle.trans_lt hb),
    UInt8.toNat_ofNat_of_lt' hb]
  rcases hle.lt_or_eq with hlt | rfl
  · exact Or.inl hlt
  · exact Or.inr ⟨rfl, h rfl⟩

/-- Of two characters the lesser one has the lesser bytes, whatever follows them. -/
lemma encode_append_lt {c d : Char} (h : c < d) (l l' : List UInt8) :
    String.utf8EncodeChar c ++ l < String.utf8EncodeChar d ++ l' := by
  have hcd : c.val.toNat < d.val.toNat := h
  have hd : d.val.toNat < 0x110000 := by
    rcases d.valid with hlow | ⟨-, hhigh⟩
    · exact Nat.lt_trans hlow (by decide)
    · exact hhigh
  simp only [String.utf8EncodeChar]
  -- the first byte tells the number of bytes, so only characters of one length have it in common
  split_ifs <;> refine cons_lt_cons (by omega) (by omega) fun h₁ => ?_
  all_goals try omega
  · exact cons_lt_cons (by omega) (by omega) fun h₂ => by omega
  · exact cons_lt_cons (by omega) (by omega) fun h₂ =>
      cons_lt_cons (by omega) (by omega) fun h₃ => by omega
  · exact cons_lt_cons (by omega) (by omega) fun h₂ =>
      cons_lt_cons (by omega) (by omega) fun h₃ =>
      cons_lt_cons (by omega) (by omega) fun h₄ => by omega

/-! ### Texts -/

lemma flatMap_encode_lt {l l' : List Char} (h : l < l') :
    l.flatMap String.utf8EncodeChar < l'.flatMap String.utf8EncodeChar := by
  induction l generalizing l' with
  | nil =>
      cases l' with
      | nil => exact absurd h (List.lt_irrefl [])
      | cons d l' =>
          obtain ⟨b, bs, hd⟩ := List.exists_cons_of_ne_nil (@String.utf8EncodeChar_ne_nil d)
          rw [List.flatMap_nil, List.flatMap_cons, hd]
          exact List.nil_lt_cons b _
  | cons c l ih =>
      cases l' with
      | nil => exact absurd h (List.not_lt_nil _)
      | cons d l' =>
          rw [List.flatMap_cons, List.flatMap_cons]
          rcases List.cons_lt_cons_iff.mp h with hcd | ⟨rfl, hlt⟩
          · exact encode_append_lt hcd _ _
          · exact List.append_left_lt (ih hlt)

/-- One text comes before another iff its bytes do. -/
theorem bytes_lt_iff {s t : String} : bytes s < bytes t ↔ s < t := by
  have hbytes : ∀ {s t : String}, s < t → bytes s < bytes t := by
    intro s t h
    rw [bytes_eq_flatMap, bytes_eq_flatMap]
    exact flatMap_encode_lt h
  refine ⟨fun h => ?_, hbytes⟩
  by_contra hst
  have hts : ¬ t < s := fun hts => List.lt_asymm h (hbytes hts)
  obtain rfl := String.le_antisymm (String.not_lt.mp hts) (String.not_lt.mp hst)
  exact List.lt_irrefl _ h

end LeaseQueue.Text
