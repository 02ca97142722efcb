import RubricScore.Text.Utf8

/-!
# Decoding what was encoded

The bytes of a text decode to the text. The first byte of a character says how many bytes follow it
and holds the highest bits; each further byte adds six bits. The bounds for the second byte leave
out nothing that is a character.

## Main results

* `step_more`: a byte that continues a character adds its bits;
* `foldl_utf8EncodeChar`: the bytes of a character are read as the character;
* `decode_encode`, `decode?_encode`: the bytes of a text are read as the text.
-/

namespace RubricScore.Text.Utf8

variable {done : List Char}

/-! ## Single bytes -/

section First

variable {b : UInt8}

theorem first_of_one (h : b.toNat < 0x80) : first b = some (.inl (Char.ofNat b.toNat)) :=
  if_pos h

theorem first_of_two (hlow : 0xC2 ≤ b.toNat) (hhigh : b.toNat < 0xE0) :
    first b = some (.inr ⟨0, b.toNat % 0x20, 0x80, 0xBF⟩) := by
  rw [first, if_neg, if_neg, if_pos] <;> rw [UInt8.lt_iff_toNat_lt]
  · exact hhigh
  · exact Nat.not_lt.2 hlow
  · exact Nat.not_lt.2 (Nat.le_trans (by decide) hlow)

theorem first_of_three (hlow : 0xE0 ≤ b.toNat) (hhigh : b.toNat < 0xF0) :
    first b = some (.inr
      ⟨1, b.toNat % 0x10, if b = 0xE0 then 0xA0 else 0x80, if b = 0xED then 0x9F else 0xBF⟩) := by
  rw [first, if_neg, if_neg, if_neg, if_pos] <;> rw [UInt8.lt_iff_toNat_lt]
  · exact hhigh
  · exact Nat.not_lt.2 hlow
  · exact Nat.not_lt.2 (Nat.le_trans (by decide) hlow)
  · exact Nat.not_lt.2 (Nat.le_trans (by decide) hlow)

theorem first_of_four (hlow : 0xF0 ≤ b.toNat) (hhigh : b.toNat < 0xF5) :
    first b = some (.inr
      ⟨2, b.toNat % 0x08, if b = 0xF0 then 0x90 else 0x80, if b = 0xF4 then 0x8F else 0xBF⟩) := by
  rw [first, if_neg, if_neg, if_neg, if_neg, if_pos] <;> rw [UInt8.lt_iff_toNat_lt]
  · exact hhigh
  · exact Nat.not_lt.2 hlow
  · exact Nat.not_lt.2 (Nat.le_trans (by decide) hlow)
  · exact Nat.not_lt.2 (Nat.le_trans (by decide) hlow)
  · exact Nat.not_lt.2 (Nat.le_trans (by decide) hlow)

end First

theorem step_none {b : UInt8} {begun : Begun} (h : first b = some (.inr begun)) :
    step (done, none) b = (done, some begun) := by
  simp only [step, start, h]

theorem toNat_ofNat {n : Nat} (h : n < 0x100) : (UInt8.ofNat n).toNat = n :=
  UInt8.toNat_ofNat_of_lt' h

section Continuation

variable {bits n : Nat} {low high : UInt8} (hlow : low.toNat ≤ n % 64 + 128)
  (hhigh : n % 64 + 128 ≤ high.toNat)

include hlow hhigh

/-- A byte that continues a character adds its six bits. -/
theorem step_more (later : Nat) :
    step (done, some ⟨later + 1, bits, low, high⟩) (.ofNat (n % 64 + 128))
      = (done, some ⟨later, bits * 64 + n % 64, 0x80, 0xBF⟩) := by
  have hbits : (n % 64 + 128) % 64 = n % 64 := by omega
  simp only [step, UInt8.le_iff_toNat_le]
  rw [toNat_ofNat (by omega), if_pos ⟨hlow, hhigh⟩, hbits]

/-- The last byte of a character completes it. -/
theorem step_last :
    step (done, some ⟨0, bits, low, high⟩) (.ofNat (n % 64 + 128))
      = (Char.ofNat (bits * 64 + n % 64) :: done, none) := by
  have hbits : (n % 64 + 128) % 64 = n % 64 := by omega
  simp only [step, UInt8.le_iff_toNat_le]
  rw [toNat_ofNat (by omega), if_pos ⟨hlow, hhigh⟩, hbits]

end Continuation

/-! ## Characters -/

section Bounds

variable {b special bound : UInt8} {m : Nat}

/-- The least second byte, which is greater after one of the first bytes. -/
theorem low_le (h : b.toNat = special.toNat → bound.toNat ≤ m + 128) :
    (if b = special then bound else 0x80).toNat ≤ m + 128 := by
  split
  · next heq => exact h (congrArg UInt8.toNat heq)
  · exact Nat.le_add_left 128 m

/-- The greatest second byte, which is less after one of the first bytes. -/
theorem le_high (h : b.toNat = special.toNat → m + 128 ≤ bound.toNat) (hm : m < 64) :
    m + 128 ≤ (if b = special then bound else 0xBF).toNat := by
  split
  · next heq => exact h (congrArg UInt8.toNat heq)
  · change m + 128 ≤ 191
    omega

end Bounds

section Bytes

variable {n : Nat}

theorem foldl_one (h : n < 0x80) :
    [UInt8.ofNat n].foldl step (done, none) = (Char.ofNat n :: done, none) := by
  have hfirst := toNat_ofNat (n := n) (by omega)
  simp only [List.foldl_cons, List.foldl_nil, step, start]
  rw [first_of_one] <;> rw [hfirst]
  exact h

theorem foldl_two (hlow : 0x80 ≤ n) (hhigh : n < 0x800) :
    [UInt8.ofNat (n / 64 % 32 + 192), UInt8.ofNat (n % 64 + 128)].foldl step (done, none)
      = (Char.ofNat n :: done, none) := by
  have hfirst := toNat_ofNat (n := n / 64 % 32 + 192) (by omega)
  have hbits : (n / 64 % 32 + 192) % 0x20 * 64 + n % 64 = n := by omega
  simp only [List.foldl_cons, List.foldl_nil]
  rw [step_none (first_of_two _ _), step_last _ _, hfirst, hbits]
  · change 128 ≤ _
    omega
  · change _ ≤ 191
    omega
  · omega
  · omega

theorem foldl_three (hlow : 0x800 ≤ n) (hhigh : n < 0x10000) (hvalid : n < 0xD800 ∨ 0xDFFF < n) :
    [UInt8.ofNat (n / 4096 % 16 + 224), UInt8.ofNat (n / 64 % 64 + 128),
      UInt8.ofNat (n % 64 + 128)].foldl step (done, none) = (Char.ofNat n :: done, none) := by
  have hfirst := toNat_ofNat (n := n / 4096 % 16 + 224) (by omega)
  have hbits : ((n / 4096 % 16 + 224) % 0x10 * 64 + n / 64 % 64) * 64 + n % 64 = n := by omega
  simp only [List.foldl_cons, List.foldl_nil]
  rw [step_none (first_of_three _ _), step_more _ _, step_last _ _, hfirst, hbits]
  · change 128 ≤ _
    omega
  · change _ ≤ 191
    omega
  · -- What is less takes two bytes.
    refine low_le fun heq => ?_
    rw [hfirst] at heq
    change _ = 224 at heq
    change 160 ≤ _
    omega
  · -- The surrogates are no characters.
    refine le_high (fun heq => ?_) (Nat.mod_lt _ (by decide))
    rw [hfirst] at heq
    change _ = 237 at heq
    change _ ≤ 159
    omega
  · omega
  · omega

theorem foldl_four (hlow : 0x10000 ≤ n) (hhigh : n < 0x110000) :
    [UInt8.ofNat (n / 262144 % 8 + 240), UInt8.ofNat (n / 4096 % 64 + 128),
      UInt8.ofNat (n / 64 % 64 + 128), UInt8.ofNat (n % 64 + 128)].foldl step (done, none)
        = (Char.ofNat n :: done, none) := by
  have hfirst := toNat_ofNat (n := n / 262144 % 8 + 240) (by omega)
  have hbits : (((n / 262144 % 8 + 240) % 0x08 * 64 + n / 4096 % 64) * 64 + n / 64 % 64) * 64
      + n % 64 = n := by
    omega
  simp only [List.foldl_cons, List.foldl_nil]
  rw [step_none (first_of_four _ _), step_more _ _, step_more _ _, step_last _ _, hfirst, hbits]
  · change 128 ≤ _
    omega
  · change _ ≤ 191
    omega
  · change 128 ≤ _
    omega
  · change _ ≤ 191
    omega
  · -- What is less takes three bytes.
    refine low_le fun heq => ?_
    rw [hfirst] at heq
    change _ = 240 at heq
    change 144 ≤ _
    omega
  · -- No character is greater.
    refine le_high (fun heq => ?_) (Nat.mod_lt _ (by decide))
    rw [hfirst] at heq
    change _ = 244 at heq
    change _ ≤ 143
    omega
  · omega
  · omega

end Bytes

/-- The bytes of a character are read as the character. -/
theorem foldl_utf8EncodeChar (c : Char) :
    (String.utf8EncodeChar c).foldl step (done, none) = (c :: done, none) := by
  have hvalid : c.toNat < 0xD800 ∨ 0xDFFF < c.toNat ∧ c.toNat < 0x110000 := c.valid
  have hchar : Char.ofNat c.val.toNat = c := Char.ofNat_toNat c
  change c.val.toNat < 0xD800 ∨ 0xDFFF < c.val.toNat ∧ c.val.toNat < 0x110000 at hvalid
  rw [String.utf8EncodeChar]
  -- The cases are those of one, two, three and four bytes.
  split
  · rw [foldl_one (by omega), hchar]
  split
  · rw [foldl_two (by omega) (by omega), hchar]
  split
  · rw [foldl_three (by omega) (by omega) (by omega), hchar]
  · rw [foldl_four (by omega) (by omega), hchar]

/-! ## Texts -/

/-- Between characters nothing is left over, so texts are read one character after the other. -/
theorem foldl_encode (text : List Char) :
    (encode text).foldl step (done, none) = (text.reverse ++ done, none) := by
  induction text generalizing done with
  | nil => rfl
  | cons c rest ih =>
    rw [encode, List.flatMap_cons, List.foldl_append, foldl_utf8EncodeChar, ← encode, ih]
    simp

/-- The bytes of a text are read as the text. -/
theorem decode_encode (text : List Char) : decode (encode text) = text := by
  rw [decode, foldl_encode, List.append_nil, List.reverse_reverse]

theorem decode?_encode (text : List Char) : decode? (encode text) = some text := by
  rw [decode?, decode_encode]
  exact if_pos rfl

end RubricScore.Text.Utf8
