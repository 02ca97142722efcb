import RubricScore.Proofs.Text.Utf8

/-!
# The order of encodings

Encodings stand in the order of the characters: where two texts first differ, the bytes of the lesser
character come first, since a longer encoding begins with a greater byte and encodings of one length
compare like the numbers whose digits they are.

## Main results

* `utf8EncodeChar_append_lt`: the bytes of a lesser character, whatever stands behind them;
* `encode_lt_encode_iff`: encodings are in the order of the texts.
-/

namespace RubricScore.Text.Utf8

section Bytes

variable {m n : Nat} {rest others : List UInt8}

/-- Bytes compare by the first one. -/
theorem ofNat_cons_lt_of_lt (hn : n < 0x100) (h : m < n) :
    UInt8.ofNat m :: rest < UInt8.ofNat n :: others := by
  rw [List.cons_lt_cons_iff, UInt8.lt_iff_toNat_lt, toNat_ofNat (Nat.lt_trans h hn), toNat_ofNat hn]
  exact .inl h

/-- If the first one is the same, those behind it decide. -/
theorem ofNat_cons_lt (hn : n < 0x100) (hle : m ≤ n) (h : m = n → rest < others) :
    UInt8.ofNat m :: rest < UInt8.ofNat n :: others := by
  rcases Nat.lt_or_eq_of_le hle with hlt | rfl
  · exact ofNat_cons_lt_of_lt hn hlt
  · exact List.cons_lt_cons_iff.2 (.inr ⟨rfl, h rfl⟩)

end Bytes

/-- The bytes of a lesser character come first, whatever stands behind them. -/
theorem utf8EncodeChar_append_lt {c d : Char} (h : c.toNat < d.toNat) (rest others : List UInt8) :
    String.utf8EncodeChar c ++ rest < String.utf8EncodeChar d ++ others := by
  change c.val.toNat < d.val.toNat at h
  have hd : d.val.toNat < 0xD800 ∨ 0xDFFF < d.val.toNat ∧ d.val.toNat < 0x110000 := d.valid
  have hbound : d.val.toNat < 0x110000 := by omega
  rw [String.utf8EncodeChar, String.utf8EncodeChar]
  generalize c.val.toNat = m at h
  generalize d.val.toNat = n at h hbound
  -- The cases are those of one, two, three and four bytes of the lesser character. A greater one of
  -- more bytes begins with a greater byte, and one of as many bytes is compared byte by byte.
  split
  · split
    · exact ofNat_cons_lt_of_lt (by omega) (by omega)
    split
    · exact ofNat_cons_lt_of_lt (by omega) (by omega)
    split
    · exact ofNat_cons_lt_of_lt (by omega) (by omega)
    · exact ofNat_cons_lt_of_lt (by omega) (by omega)
  split
  · split
    · omega
    split
    · exact ofNat_cons_lt (by omega) (by omega) fun _ =>
        ofNat_cons_lt_of_lt (by omega) (by omega)
    split
    · exact ofNat_cons_lt_of_lt (by omega) (by omega)
    · exact ofNat_cons_lt_of_lt (by omega) (by omega)
  split
  · split
    · omega
    split
    · omega
    split
    · exact ofNat_cons_lt (by omega) (by omega) fun _ =>
        ofNat_cons_lt (by omega) (by omega) fun _ =>
          ofNat_cons_lt_of_lt (by omega) (by omega)
    · exact ofNat_cons_lt_of_lt (by omega) (by omega)
  · rw [if_neg (by omega), if_neg (by omega), if_neg (by omega)]
    exact ofNat_cons_lt (by omega) (by omega) fun _ =>
      ofNat_cons_lt (by omega) (by omega) fun _ =>
        ofNat_cons_lt (by omega) (by omega) fun _ =>
          ofNat_cons_lt_of_lt (by omega) (by omega)

theorem encode_cons (c : Char) (text : List Char) :
    encode (c :: text) = String.utf8EncodeChar c ++ encode text :=
  List.flatMap_cons

/-- The encoding of a lesser text comes first. -/
theorem encode_lt_encode {a b : List Char} (h : a.map Char.toNat < b.map Char.toNat) :
    encode a < encode b := by
  induction a generalizing b with
  | nil =>
    cases b with
    | nil => exact absurd h (List.not_lt_nil _)
    | cons d b =>
      obtain ⟨byte, bytes, hbytes⟩ := List.exists_cons_of_ne_nil (@String.utf8EncodeChar_ne_nil d)
      rw [encode_cons, hbytes]
      exact List.nil_lt_cons _ _
  | cons c a ih =>
    cases b with
    | nil => exact absurd h (List.not_lt_nil _)
    | cons d b =>
      rw [List.map_cons, List.map_cons, List.cons_lt_cons_iff] at h
      rw [encode_cons, encode_cons]
      rcases h with hlt | ⟨heq, hrest⟩
      · exact utf8EncodeChar_append_lt hlt _ _
      · rw [Char.toNat_inj.1 heq]
        exact List.append_left_lt (ih hrest)

/-- Encodings are in the order of the texts. -/
theorem encode_lt_encode_iff {a b : List Char} :
    encode a < encode b ↔ a.map Char.toNat < b.map Char.toNat := by
  -- If `a` did not stand before `b`, it would be the same or stand behind it.
  refine ⟨fun h => Decidable.byContradiction fun hnot => ?_, encode_lt_encode⟩
  rcases List.le_iff_lt_or_eq.1 (List.not_lt.1 hnot) with hlt | heq
  · exact List.lt_irrefl _ (List.lt_trans h (encode_lt_encode hlt))
  · have hab : b = a := (List.map_inj_right fun _ _ => Char.toNat_inj.1).1 heq
    exact List.lt_irrefl _ (hab ▸ h)

end RubricScore.Text.Utf8
