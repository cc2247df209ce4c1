import LayerGraph.Text.Utf8
import Mathlib.Tactic.SplitIfs

/-! Texts are read back from their bytes.

The leading byte of a character says how many bytes go on and bounds the first of them, so that only the shortest
encoding of a character that is none of the surrogates is read. Encoding writes just that.
-/

set_option autoImplicit false

namespace LayerGraph.Text

section
variable {n : Nat}

theorem leadingByte?_single (small : n < 0x80) : leadingByte? n = some (0, 0, 0) := if_pos small

theorem leadingByte?_two (low : 0xc2 ≤ n) (high : n ≤ 0xdf) : leadingByte? n = some (1, 0x80, 0xbf) := by
  unfold leadingByte?
  rw [if_neg (by omega), if_pos ⟨low, high⟩]

/-- Three bytes: not what two bytes hold already, and no surrogate. -/
theorem leadingByte?_three (low : 0xe0 ≤ n) (high : n ≤ 0xef) :
    leadingByte? n = some (2, if n = 0xe0 then 0xa0 else 0x80, if n = 0xed then 0x9f else 0xbf) := by
  unfold leadingByte?
  split_ifs <;> first | rfl | omega

/-- Four bytes: not what three bytes hold already, and no more than the last code point. -/
theorem leadingByte?_four (low : 0xf0 ≤ n) (high : n ≤ 0xf4) :
    leadingByte? n = some (3, if n = 0xf0 then 0x90 else 0x80, if n = 0xf4 then 0x8f else 0xbf) := by
  unfold leadingByte?
  split_ifs <;> first | rfl | omega

end

theorem toNat_byte {n : Nat} (small : n < 256) : (UInt8.ofNat n).toNat = n := by
  rw [UInt8.toNat_ofNat']
  exact Nat.mod_eq_of_lt small

section
variable {position value count low high n : Nat} {taken rest : List UInt8}

theorem continueChar_cons (small : n < 256) (least : low ≤ n) (most : n ≤ high) :
    continueChar position taken value (count + 1) low high (UInt8.ofNat n :: rest) =
      continueChar position (UInt8.ofNat n :: taken) (value * 64 + (n - 0x80)) count 0x80 0xbf rest := by
  rw [continueChar, toNat_byte small, if_pos ⟨least, most⟩]

/-- A leading byte and those that go on make up a character. -/
theorem decodeChar_of_leading (start : Nat) (small : n < 256) (leads : leadingByte? n = some (count + 1, low, high))
    (starts : n % Nat.pow 2 (6 - (count + 1)) = start)
    (continues : continueChar position [UInt8.ofNat n] start (count + 1) low high taken = .ok (value, rest)) :
    decodeChar position (UInt8.ofNat n) taken = .ok (Char.ofNat value, rest) := by
  unfold decodeChar
  rw [toNat_byte small, leads]
  change (continueChar position [UInt8.ofNat n] (n % Nat.pow 2 (6 - (count + 1))) (count + 1) low high taken).map _ = _
  rw [starts, continues]
  rfl

end

/-- A character is read back from its bytes, whatever follows. -/
theorem decodeChar_encodeChar (c : Char) (position : Nat) (rest : List UInt8) :
    ∃ lead tail, encodeChar c = lead :: tail ∧ decodeChar position lead (tail ++ rest) = .ok (c, rest) := by
  have valid : c.toNat < 0xd800 ∨ 0xdfff < c.toNat ∧ c.toNat < 0x110000 := c.valid
  have back : Char.ofNat c.toNat = c := Char.ofNat_toNat c
  have afterOne : Nat.pow 2 (6 - (0 + 1)) = 32 := rfl
  have afterTwo : Nat.pow 2 (6 - (1 + 1)) = 16 := rfl
  have afterThree : Nat.pow 2 (6 - (2 + 1)) = 8 := rfl
  unfold encodeChar
  dsimp only
  generalize c.toNat = n at valid back ⊢
  subst back
  -- One case for each length an encoding can have.
  split_ifs with one two three
  · refine ⟨_, [], rfl, ?_⟩
    unfold decodeChar
    rw [toNat_byte (by omega), leadingByte?_single one]
    rfl
  · refine ⟨_, _, rfl, decodeChar_of_leading (n / 64) (by omega) (leadingByte?_two (by omega) (by omega))
      (by rw [afterOne]; omega) ?_⟩
    have whole : n / 64 * 64 + (0x80 + n % 64 - 0x80) = n := by omega
    rw [List.singleton_append, continueChar_cons (by omega) (by omega) (by omega), continueChar, whole]
  · refine ⟨_, _, rfl, decodeChar_of_leading (n / 4096) (by omega) (leadingByte?_three (by omega) (by omega))
      (by rw [afterTwo]; omega) ?_⟩
    have whole : (n / 4096 * 64 + (0x80 + n / 64 % 64 - 0x80)) * 64 + (0x80 + n % 64 - 0x80) = n := by omega
    rw [List.cons_append, continueChar_cons (by omega) (by split_ifs <;> omega) (by split_ifs <;> omega),
      List.singleton_append, continueChar_cons (by omega) (by omega) (by omega), continueChar, whole]
  · refine ⟨_, _, rfl, decodeChar_of_leading (n / 262144) (by omega) (leadingByte?_four (by omega) (by omega))
      (by rw [afterThree]; omega) ?_⟩
    have whole : ((n / 262144 * 64 + (0x80 + n / 4096 % 64 - 0x80)) * 64 + (0x80 + n / 64 % 64 - 0x80)) * 64 +
        (0x80 + n % 64 - 0x80) = n := by omega
    rw [List.cons_append, continueChar_cons (by omega) (by split_ifs <;> omega) (by split_ifs <;> omega),
      List.cons_append, continueChar_cons (by omega) (by omega) (by omega),
      List.singleton_append, continueChar_cons (by omega) (by omega) (by omega), continueChar, whole]

theorem decodeFrom_encoded (cs : List Char) {fuel : Nat} (position : Nat) (read : List Char)
    (enough : cs.length ≤ fuel) :
    decodeFrom fuel position (cs.flatMap encodeChar) read = .ok (read.reverse ++ cs) := by
  induction cs generalizing fuel position read with
  | nil => cases fuel <;> simp [decodeFrom]
  | cons c cs ih =>
    obtain ⟨fuel, rfl⟩ : ∃ less, fuel = less + 1 := ⟨fuel - 1, by rw [List.length_cons] at enough; omega⟩
    obtain ⟨lead, tail, encoded, decoded⟩ := decodeChar_encodeChar c position (cs.flatMap encodeChar)
    rw [List.flatMap_cons, encoded, List.cons_append, decodeFrom, decoded]
    dsimp only
    rw [ih _ _ (by simpa using enough)]
    simp

/-- A text is read back from its bytes. -/
theorem decodeUtf8_encodeUtf8 (text : String) : decodeUtf8 (encodeUtf8 text) = .ok text := by
  have enough : text.toList.length ≤ (encodeUtf8 text).length := by
    unfold encodeUtf8
    induction text.toList with
    | nil => exact Nat.le_refl _
    | cons c cs ih =>
      obtain ⟨lead, tail, encoded, _⟩ := decodeChar_encodeChar c 0 []
      rw [List.flatMap_cons, encoded, List.cons_append, List.length_cons, List.length_cons, List.length_append]
      omega
  unfold decodeUtf8
  unfold encodeUtf8 at enough ⊢
  rw [decodeFrom_encoded _ _ _ enough]
  simp [Except.map]

end LayerGraph.Text
