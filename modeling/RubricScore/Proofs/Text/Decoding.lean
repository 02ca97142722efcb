import Mathlib.Tactic.Ring
import RubricScore.Proofs.Text.Newlines
import RubricScore.Proofs.Text.Utf8

/-!
# Decoding as a clean-up

Decoding drops bytes that belong to no character, and never an ASCII byte: the bounds on the next byte
of a character that has begun keep every ASCII byte out, and a byte outside them is read afresh. Nor
does decoding invent an ASCII character, since no sequence of bytes within the bounds makes one.

## Main definitions

* `Begun.Sound`: whatever completes the character begun is a character beyond ASCII;
* `Settled`: what holds of the decoder between any two bytes;
* `IsForeign`: the byte occurs in no encoding.

## Main results

* `adds_step`: every byte leaves the decoder settled, an ASCII byte becomes a character, and
  another byte adds at most a character beyond ASCII;
* `filter_decode`: the ASCII characters of what is decoded are the ASCII bytes;
* `decode_parts`: texts between bytes that belong to no encoding are put together;
* `ofSource_cleans`: the source text of a file.
-/

namespace RubricScore.Text

namespace Utf8

variable {done : List Char}

/-! ## Characters that have begun -/

/-- Least code point that the character begun can become. -/
def Begun.least (begun : Begun) : Nat :=
  (begun.bits * 64 + begun.low.toNat % 64) * 64 ^ begun.later

/-- First code point above those that the character begun can become. -/
def Begun.bound (begun : Begun) : Nat :=
  (begun.bits * 64 + begun.high.toNat % 64 + 1) * 64 ^ begun.later

/-- The next byte has to be a continuation byte, and whatever completes the character begun is a
character beyond ASCII: no overlong form, no surrogate, and within the code points. -/
structure Begun.Sound (begun : Begun) : Prop where
  /-- No ASCII byte continues it. -/
  low_le : 0x80 ≤ begun.low.toNat
  /-- Nor does the first byte of another character. -/
  le_high : begun.high.toNat ≤ 0xBF
  /-- It does not become an ASCII character. -/
  least_le : 0x80 ≤ begun.least
  /-- It becomes a character. -/
  valid : begun.bound ≤ 0xD800 ∨ 0xE000 ≤ begun.least ∧ begun.bound ≤ 0x110000

/-- A character begun whose next byte is any continuation byte. -/
theorem sound_of_bits {later bits : Nat} (hleast : 0x80 ≤ bits * 64 * 64 ^ later)
    (hvalid : (bits + 1) * 64 * 64 ^ later ≤ 0xD800
      ∨ 0xE000 ≤ bits * 64 * 64 ^ later ∧ (bits + 1) * 64 * 64 ^ later ≤ 0x110000) :
    Begun.Sound ⟨later, bits, 0x80, 0xBF⟩ := by
  have hlow : (0x80 : UInt8).toNat % 64 = 0 := rfl
  have hhigh : (0xBF : UInt8).toNat % 64 = 63 := rfl
  have hfrom : Begun.least ⟨later, bits, 0x80, 0xBF⟩ = bits * 64 * 64 ^ later := by
    simp only [Begun.least, hlow, Nat.add_zero]
  have hto : Begun.bound ⟨later, bits, 0x80, 0xBF⟩ = (bits + 1) * 64 * 64 ^ later := by
    simp only [Begun.bound, hhigh, Nat.succ_mul]
  exact ⟨Nat.le_refl 128, Nat.le_refl 191, hfrom ▸ hleast, hfrom ▸ hto ▸ hvalid⟩

/-- A byte that begins a character lets only characters beyond ASCII come of it. -/
theorem sound_of_first {b : UInt8} {begun : Begun} (h : first b = some (.inr begun)) :
    begun.Sound := by
  unfold first at h
  simp only [UInt8.lt_iff_toNat_lt] at h
  split at h
  · exact absurd h nofun
  split at h
  · exact absurd h nofun
  split at h
  · next hlow hhigh =>
    obtain rfl := Sum.inr.inj (Option.some.inj h)
    change ¬b.toNat < 0xC2 at hlow
    change b.toNat < 0xE0 at hhigh
    exact sound_of_bits (by omega) (.inl (by omega))
  split at h
  · next hlow hhigh =>
    obtain rfl := Sum.inr.inj (Option.some.inj h)
    change ¬b.toNat < 0xE0 at hlow
    change b.toNat < 0xF0 at hhigh
    -- Two of the bytes narrow the bounds, to leave out overlong forms and surrogates.
    by_cases hE0 : b = 0xE0
    · subst hE0
      exact ⟨by decide, by decide, by decide, by decide⟩
    by_cases hED : b = 0xED
    · subst hED
      exact ⟨by decide, by decide, by decide, by decide⟩
    rw [if_neg hE0, if_neg hED]
    have hE0 : b.toNat ≠ 0xE0 := fun heq => hE0 (UInt8.toNat_inj.1 heq)
    have hED : b.toNat ≠ 0xED := fun heq => hED (UInt8.toNat_inj.1 heq)
    exact sound_of_bits (by omega) (by omega)
  split at h
  · next hlow hhigh =>
    obtain rfl := Sum.inr.inj (Option.some.inj h)
    change ¬b.toNat < 0xF0 at hlow
    change b.toNat < 0xF5 at hhigh
    -- Two others do so, to leave out overlong forms and what is beyond the last character.
    by_cases hF0 : b = 0xF0
    · subst hF0
      exact ⟨by decide, by decide, by decide, by decide⟩
    by_cases hF4 : b = 0xF4
    · subst hF4
      exact ⟨by decide, by decide, by decide, by decide⟩
    rw [if_neg hF0, if_neg hF4]
    have hF0 : b.toNat ≠ 0xF0 := fun heq => hF0 (UInt8.toNat_inj.1 heq)
    have hF4 : b.toNat ≠ 0xF4 := fun heq => hF4 (UInt8.toNat_inj.1 heq)
    exact sound_of_bits (by omega) (by omega)
  · exact absurd h nofun

/-- Where a byte between the bounds stands: a continuation byte, between their payload bits. -/
theorem Begun.Sound.payload {begun : Begun} {b : UInt8} (h : begun.Sound) (hlow : begun.low ≤ b)
    (hhigh : b ≤ begun.high) :
    begun.low.toNat % 64 ≤ b.toNat % 64 ∧ b.toNat % 64 ≤ begun.high.toNat % 64 := by
  have h80 := h.low_le
  have hBF := h.le_high
  rw [UInt8.le_iff_toNat_le] at hlow hhigh
  omega

/-- A continuation byte that is not the last one narrows the code points down. -/
theorem Begun.Sound.more {later bits : Nat} {low high b : UInt8}
    (h : Begun.Sound ⟨later + 1, bits, low, high⟩) (hlow : low ≤ b) (hhigh : b ≤ high) :
    Begun.Sound ⟨later, bits * 64 + b.toNat % 64, 0x80, 0xBF⟩ := by
  obtain ⟨hpayloadLow, hpayloadHigh⟩ := h.payload hlow hhigh
  have hfrom : Begun.least ⟨later + 1, bits, low, high⟩
      ≤ (bits * 64 + b.toNat % 64) * 64 * 64 ^ later := by
    rw [Begun.least, Nat.pow_succ', Nat.mul_assoc]
    exact Nat.mul_le_mul_right _ (Nat.add_le_add_left hpayloadLow _)
  have hto : (bits * 64 + b.toNat % 64 + 1) * 64 * 64 ^ later
      ≤ Begun.bound ⟨later + 1, bits, low, high⟩ := by
    rw [Begun.bound, Nat.pow_succ', Nat.mul_assoc]
    exact Nat.mul_le_mul_right _ (Nat.succ_le_succ (Nat.add_le_add_left hpayloadHigh _))
  refine sound_of_bits (Nat.le_trans h.least_le hfrom) ?_
  rcases h.valid with hvalid | ⟨hvalid, hcodes⟩
  · exact .inl (Nat.le_trans hto hvalid)
  · exact .inr ⟨Nat.le_trans hvalid hfrom, Nat.le_trans hto hcodes⟩

theorem toNat_charOfNat {n : Nat} (h : n.isValidChar) : (Char.ofNat n).toNat = n := by
  rw [Char.ofNat, dif_pos h]
  rfl

/-- The last byte completes a character beyond ASCII. -/
theorem Begun.Sound.last {bits : Nat} {low high b : UInt8} (h : Begun.Sound ⟨0, bits, low, high⟩)
    (hlow : low ≤ b) (hhigh : b ≤ high) :
    0x80 ≤ (Char.ofNat (bits * 64 + b.toNat % 64)).toNat := by
  obtain ⟨hpayloadLow, hpayloadHigh⟩ := h.payload hlow hhigh
  have hleast := h.least_le
  have hvalid := h.valid
  simp only [Begun.least, Begun.bound, Nat.pow_zero, Nat.mul_one] at hleast hvalid
  simp only at hpayloadLow hpayloadHigh
  have hchar : (bits * 64 + b.toNat % 64).isValidChar := by
    rcases hvalid with hvalid | ⟨hvalid, hcodes⟩
    · exact .inl (by omega)
    · exact .inr ⟨by omega, by omega⟩
  rw [toNat_charOfNat hchar]
  omega

/-! ## Steps -/

/-- Whatever the decoder has begun is sound. -/
def Settled (pending : Option Begun) : Prop :=
  ∀ begun ∈ pending, begun.Sound

theorem settled_none : Settled none :=
  nofun

/-- The character is an ASCII character. -/
def isAscii (c : Char) : Bool :=
  decide (c.toNat < 0x80)

/-- The ASCII character that a byte is, if it is one. -/
def asciiOf (b : UInt8) : List Char :=
  if b < 0x80 then [Char.ofNat b.toNat] else []

theorem filter_asciiOf (b : UInt8) : (asciiOf b).filter isAscii = asciiOf b := by
  unfold asciiOf
  split
  · next h =>
    change b.toNat < 128 at h
    have hchar : (Char.ofNat b.toNat).toNat = b.toNat := toNat_charOfNat (.inl (by omega))
    exact List.filter_eq_self.2 fun c hc => by
      rw [List.mem_singleton.1 hc, isAscii, hchar]
      exact decide_eq_true h
  · rfl

/-- A byte adds characters and leaves the decoder settled. -/
structure Adds (done : List Char) (b : UInt8) (after : List Char × Option Begun) : Prop where
  /-- The characters added; those of ASCII are the byte itself. -/
  added : ∃ added, after.1 = added ++ done ∧ added.filter isAscii = asciiOf b
  /-- Whatever has begun is sound. -/
  settled : Settled after.2

/-- A byte between characters. -/
theorem adds_start (done : List Char) (b : UInt8) : Adds done b (start done b) := by
  by_cases hascii : b < 0x80
  · have hstart : start done b = (Char.ofNat b.toNat :: done, none) := by
      rw [start, first_of_one hascii]
    rw [hstart]
    refine ⟨⟨asciiOf b, ?_, filter_asciiOf b⟩, settled_none⟩
    rw [asciiOf, if_pos hascii]
    rfl
  · have hnone : asciiOf b = [] := if_neg hascii
    unfold start
    split
    · next c hfirst =>
      -- Only an ASCII byte is a character on its own.
      unfold first at hfirst
      rw [if_neg hascii] at hfirst
      repeat' split at hfirst
      all_goals cases hfirst
    · next begun hfirst =>
      refine ⟨⟨[], rfl, hnone.symm⟩, ?_⟩
      rintro _ ⟨⟩
      exact sound_of_first hfirst
    · exact ⟨⟨[], rfl, hnone.symm⟩, settled_none⟩

/-- A byte, whatever has begun. -/
theorem adds_step (done : List Char) {pending : Option Begun} (hsettled : Settled pending)
    (b : UInt8) : Adds done b (step (done, pending) b) := by
  cases pending with
  | none => exact adds_start done b
  | some begun =>
    obtain ⟨later, bits, low, high⟩ := begun
    have hsound := hsettled _ rfl
    unfold step
    dsimp only
    split
    · next hbounds =>
      -- A byte inside a character is not ASCII, nor is the character that it ends.
      have hnone : asciiOf b = [] := by
        have hlow := hsound.low_le
        have hle := UInt8.le_iff_toNat_le.1 hbounds.1
        refine if_neg fun (hlt : b.toNat < 128) => ?_
        simp only at hlow
        omega
      cases later with
      | zero =>
        have hlast := hsound.last hbounds.1 hbounds.2
        refine ⟨⟨[_], rfl, ?_⟩, settled_none⟩
        rw [hnone]
        exact List.filter_eq_nil_iff.2 fun c hc hascii => by
          rw [List.mem_singleton.1 hc, isAscii, decide_eq_true_eq] at hascii
          omega
      | succ later =>
        refine ⟨⟨[], rfl, hnone.symm⟩, ?_⟩
        rintro _ ⟨⟩
        exact hsound.more hbounds.1 hbounds.2
    · exact adds_start done b

/-! ## Texts -/

/-- The ASCII characters after any bytes, last character first. -/
theorem filter_foldl_step (bytes : List UInt8) (done : List Char) {pending : Option Begun}
    (hsettled : Settled pending) :
    (bytes.foldl step (done, pending)).1.filter isAscii
      = (bytes.flatMap asciiOf).reverse ++ done.filter isAscii := by
  induction bytes generalizing done pending with
  | nil => rfl
  | cons b rest ih =>
    obtain ⟨⟨added, hadded, hascii⟩, hsettled⟩ := adds_step done hsettled b
    have hreverse : (asciiOf b).reverse = asciiOf b := by
      unfold asciiOf
      split <;> rfl
    rw [List.foldl_cons, ← Prod.eta (step (done, pending) b), ih _ hsettled, hadded,
      List.filter_append, hascii, List.flatMap_cons, List.reverse_append, List.append_assoc,
      hreverse]

/-- The ASCII characters of what is decoded are the ASCII bytes. -/
theorem filter_decode (bytes : List UInt8) :
    (decode bytes).filter isAscii = bytes.flatMap asciiOf := by
  have hrun := filter_foldl_step bytes [] settled_none
  rw [List.filter_nil, List.append_nil] at hrun
  rw [decode, List.filter_reverse, hrun, List.reverse_reverse]

/-- A byte that occurs in no encoding. -/
def IsForeign (b : UInt8) : Prop :=
  b = 0xC0 ∨ b = 0xC1 ∨ 0xF5 ≤ b

instance (b : UInt8) : Decidable (IsForeign b) :=
  inferInstanceAs (Decidable (_ ∨ _ ∨ _))

theorem first_of_isForeign {b : UInt8} (h : IsForeign b) : first b = none := by
  rcases h with rfl | rfl | h
  · rfl
  · rfl
  · have hlow : 0xF5 ≤ b.toNat := h
    unfold first
    simp only [UInt8.lt_iff_toNat_lt]
    rw [if_neg, if_neg, if_neg, if_neg, if_neg]
    · exact Nat.not_lt.2 hlow
    · exact Nat.not_lt.2 (Nat.le_trans (by decide) hlow)
    · exact Nat.not_lt.2 (Nat.le_trans (by decide) hlow)
    · exact Nat.not_lt.2 (Nat.le_trans (by decide) hlow)
    · exact Nat.not_lt.2 (Nat.le_trans (by decide) hlow)

/-- Between characters such bytes are dropped. -/
theorem foldl_foreign {bytes : List UInt8} (h : ∀ b ∈ bytes, IsForeign b) (done : List Char) :
    bytes.foldl step (done, none) = (done, none) := by
  induction bytes with
  | nil => rfl
  | cons b rest ih =>
    obtain ⟨hb, hrest⟩ := List.forall_mem_cons.1 h
    have hstep : step (done, none) b = (done, none) := by
      simp only [step, start, first_of_isForeign hb]
    rw [List.foldl_cons, hstep, ih hrest]

/-- Texts between bytes that occur in no encoding are put together. -/
theorem foldl_parts {parts : List (List UInt8 × List Char)}
    (h : ∀ part ∈ parts, ∀ b ∈ part.1, IsForeign b) (done : List Char) :
    (parts.flatMap fun part => part.1 ++ encode part.2).foldl step (done, none)
      = ((parts.flatMap Prod.snd).reverse ++ done, none) := by
  induction parts generalizing done with
  | nil => rfl
  | cons part rest ih =>
    obtain ⟨hpart, hrest⟩ := List.forall_mem_cons.1 h
    rw [List.flatMap_cons, List.foldl_append, List.foldl_append, foldl_foreign hpart, foldl_encode,
      ih hrest, List.flatMap_cons, List.reverse_append, List.append_assoc]

theorem decode_parts (text : List Char) {parts : List (List UInt8 × List Char)}
    (h : ∀ part ∈ parts, ∀ b ∈ part.1, IsForeign b) :
    decode (encode text ++ parts.flatMap fun part => part.1 ++ encode part.2)
      = text ++ parts.flatMap Prod.snd := by
  rw [decode, List.foldl_append, foldl_encode, foldl_parts h, List.append_nil, List.reverse_append,
    List.reverse_reverse, List.reverse_reverse]

end Utf8

open Utf8

/-! ## Source texts -/

theorem filter_flatMap_asciiOf (keep : Char → Bool) (bytes : List UInt8) :
    (bytes.flatMap asciiOf).filter keep
      = (bytes.filter fun b => decide (b < 0x80) && keep (Char.ofNat b.toNat)).map
          fun b => Char.ofNat b.toNat := by
  induction bytes with
  | nil => rfl
  | cons b rest ih =>
    rw [List.flatMap_cons, List.filter_append, ih, List.filter_cons, asciiOf]
    by_cases hascii : b < 0x80
    · rw [if_pos hascii, decide_eq_true hascii, Bool.true_and, List.filter_cons]
      cases keep (Char.ofNat b.toNat) <;> rfl
    · rw [if_neg hascii, decide_eq_false hascii, Bool.false_and, List.filter_nil]
      rfl

/-- An ASCII byte and an ASCII character are the same just when their codes are. -/
theorem charOfNat_bne {b code : UInt8} (hb : b < 0x80) (hcode : code < 0x80) :
    (Char.ofNat b.toNat != Char.ofNat code.toNat) = (b != code) := by
  change b.toNat < 128 at hb
  change code.toNat < 128 at hcode
  rw [Bool.eq_iff_iff, bne_iff_ne, bne_iff_ne, not_iff_not, ← UInt8.toNat_inj, ← Char.toNat_inj,
    toNat_charOfNat (.inl (by omega)), toNat_charOfNat (.inl (by omega))]

/-- The ASCII characters of a source text, newlines apart, are the ASCII bytes that end no lines. -/
theorem filter_ofSource (bytes : List UInt8) :
    ((ofSource bytes).filter fun c => isAscii c && c != '\n')
      = (bytes.filter fun b => decide (b < 0x80) && (b != 0x0D && b != 0x0A)).map
          fun b => Char.ofNat b.toNat := by
  have hreturn : ∀ c ∈ ofSource bytes, (isAscii c && c != '\n')
      = ((c != '\r' && c != '\n') && isAscii c) := by
    intro c hc
    have hne : (c != '\r') = true := bne_iff_ne.2 fun heq =>
      return_not_mem_universalNewlines _ (heq ▸ hc)
    rw [hne, Bool.true_and, Bool.and_comm]
  have hbytes : ∀ b ∈ bytes,
      (decide (b < 0x80) && (Char.ofNat b.toNat != '\r' && Char.ofNat b.toNat != '\n'))
        = (decide (b < 0x80) && (b != 0x0D && b != 0x0A)) := by
    intro b _
    by_cases hb : b < 0x80
    · have hcr : (Char.ofNat b.toNat != '\r') = (b != 0x0D) := @charOfNat_bne b 0x0D hb (by decide)
      have hlf : (Char.ofNat b.toNat != '\n') = (b != 0x0A) := @charOfNat_bne b 0x0A hb (by decide)
      rw [hcr, hlf]
    · simp [hb]
  rw [List.filter_congr hreturn, ofSource, filter_universalNewlines rfl rfl, ← List.filter_filter,
    filter_decode, filter_flatMap_asciiOf, List.filter_congr hbytes]

/-- Decoding cleans up and loses nothing. No carriage return is left, and the bytes of the text are
read as the same text. Line ends apart, the ASCII characters are the ASCII bytes, in their order. And
texts between bytes that occur in no encoding are put together, after which every pair of carriage
return and newline and every other carriage return becomes one newline. -/
theorem ofSource_cleans :
    (∀ bytes : List UInt8,
      '\r' ∉ ofSource bytes
      ∧ ofSource (encode (ofSource bytes)) = ofSource bytes
      ∧ ((ofSource bytes).filter fun c => isAscii c && c != '\n')
        = (bytes.filter fun b => decide (b < 0x80) && (b != 0x0D && b != 0x0A)).map
            fun b => Char.ofNat b.toNat)
    ∧ ∀ (text : List Char) (parts : List (List UInt8 × List Char)),
      (∀ part ∈ parts, ∀ b ∈ part.1, IsForeign b) →
        ofSource (encode text ++ parts.flatMap fun part => part.1 ++ encode part.2)
          = (joinPairs (text ++ parts.flatMap Prod.snd)).map newlineFor := by
  refine ⟨fun bytes => ⟨?_, ?_, filter_ofSource bytes⟩, ?_⟩
  · exact return_not_mem_universalNewlines _
  · calc ofSource (encode (ofSource bytes))
        = universalNewlines (ofSource bytes) := congrArg universalNewlines (decode_encode _)
      _ = ofSource bytes := universalNewlines_eq_self (return_not_mem_universalNewlines _)
  · intro text parts hforeign
    rw [ofSource, decode_parts text hforeign, universalNewlines_eq]

/-- A pair of carriage return and newline across bytes that are dropped makes one newline. -/
theorem ofSource_cleans_torn_pair :
    (∀ part ∈ [([0xC0, 0xFF], ['\n', 'b']), ([0xF5], ['é', '\r'])], ∀ b ∈ part.1, IsForeign b)
    ∧ ofSource (encode ['a', '\r'] ++ [0xC0, 0xFF] ++ encode ['\n', 'b'] ++ [0xF5]
        ++ encode ['é', '\r'])
      = ['a', '\n', 'b', 'é', '\n'] := by
  have hforeign : ∀ part ∈ [([0xC0, 0xFF], ['\n', 'b']), ([0xF5], ['é', '\r'])],
      ∀ b ∈ part.1, IsForeign b := by
    decide +kernel
  exact ⟨hforeign, ofSource_cleans.2 ['a', '\r'] _ hforeign⟩

end RubricScore.Text
