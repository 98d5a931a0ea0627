import SqlMapper.Text.Utf8

/-! Texts as bytes and back. The bytes of a character take the reader from its start to its start
again, with the character as the only thing read on the way. -/

namespace SqlMapper.Text

theorem toList_loop (bytes : ByteArray) (i : Nat) (passed : List UInt8) :
    ByteArray.toList.loop bytes i passed = passed.reverse ++ bytes.data.toList.drop i := by
  induction i, passed using ByteArray.toList.loop.induct bytes with
  | case1 i passed hi ih =>
    have hdrop : bytes.data.toList.drop i = bytes.get! i :: bytes.data.toList.drop (i + 1) := by
      rw [List.drop_eq_getElem_cons (by simpa using hi)]
      simp [ByteArray.get!, hi]
    rw [ByteArray.toList.loop, if_pos hi, ih, hdrop]
    simp
  | case2 i passed hi =>
    have hdrop : bytes.data.toList.drop i = [] := List.drop_of_length_le (by simpa using hi)
    rw [ByteArray.toList.loop, if_neg hi, hdrop, List.append_nil]

theorem toUtf8_eq (s : String) : toUtf8 s = s.toList.flatMap String.utf8EncodeChar := by
  have hlist : s.toUTF8.toList = s.toByteArray.data.toList := by
    simp [ByteArray.toList, toList_loop]
  rw [toUtf8, hlist, ← String.utf8Encode_toList]
  exact List.toList_data_toByteArray

theorem utf8Chars_ascii {b : UInt8} (h : b.toNat < 0x80) (rest : List UInt8) :
    utf8Chars .start (b :: rest) = some (Char.ofNat b.toNat) :: utf8Chars .start rest := by
  simp [utf8Chars, utf8Step, h]

theorem utf8Chars_leading {b : UInt8} {n low high : Nat}
    (h : followers? b.toNat = some (n, low, high)) (rest : List UInt8) :
    utf8Chars .start (b :: rest) =
      utf8Chars (.within (leadingBits b.toNat n) n low high) rest := by
  have hb : ¬b.toNat < 0x80 := by
    intro hlt
    have hnone : followers? b.toNat = none := by
      simp [followers?, show ¬0xc2 ≤ b.toNat by omega, show ¬b.toNat = 0xe0 by omega,
        show ¬b.toNat = 0xed by omega, show ¬0xe1 ≤ b.toNat by omega,
        show ¬b.toNat = 0xf0 by omega, show ¬0xf1 ≤ b.toNat by omega,
        show ¬b.toNat = 0xf4 by omega]
    simp [hnone] at h
  simp [utf8Chars, utf8Step, hb, h]

theorem utf8Chars_last {bits low high : Nat} {b : UInt8} (h : low ≤ b.toNat ∧ b.toNat ≤ high)
    (rest : List UInt8) :
    utf8Chars (.within bits 1 low high) (b :: rest) =
      some (Char.ofNat (bits * 64 + b.toNat % 64)) :: utf8Chars .start rest := by
  simp [utf8Chars, utf8Step, h]

theorem utf8Chars_inner {bits needed low high : Nat} {b : UInt8}
    (h : low ≤ b.toNat ∧ b.toNat ≤ high) (rest : List UInt8) :
    utf8Chars (.within bits (needed + 2) low high) (b :: rest) =
      utf8Chars (.within (bits * 64 + b.toNat % 64) (needed + 1) 0x80 0xbf) rest := by
  simp [utf8Chars, utf8Step, h]

theorem toNat_byte {n : Nat} (h : n < 256) : (UInt8.ofNat n).toNat = n := by
  simp only [UInt8.toNat_ofNat', Nat.reducePow]
  omega

theorem followers?_two {b : Nat} (h : 0xc2 ≤ b ∧ b ≤ 0xdf) :
    followers? b = some (1, 0x80, 0xbf) ∧ leadingBits b 1 = b % 32 :=
  ⟨if_pos h, rfl⟩

/-- The bounds of the second byte rule out what fewer bytes could say and the halves of pairs. -/
theorem followers?_three {b : Nat} (h : 0xe0 ≤ b ∧ b ≤ 0xef) :
    ∃ low high, followers? b = some (2, low, high) ∧ leadingBits b 2 = b % 16 ∧
      low = (if b = 0xe0 then 0xa0 else 0x80) ∧ high = if b = 0xed then 0x9f else 0xbf := by
  have htwo : ¬(0xc2 ≤ b ∧ b ≤ 0xdf) := by omega
  by_cases h0 : b = 0xe0
  · subst h0
    exact ⟨_, _, rfl, rfl, rfl, rfl⟩
  · by_cases hd : b = 0xed
    · subst hd
      exact ⟨_, _, rfl, rfl, rfl, rfl⟩
    · have hother : 0xe1 ≤ b ∧ b ≤ 0xef := by omega
      refine ⟨0x80, 0xbf, ?_, rfl, (if_neg h0).symm, (if_neg hd).symm⟩
      simp only [followers?, htwo, h0, hd, hother, if_false, if_true, and_self]

theorem followers?_four {b : Nat} (h : 0xf0 ≤ b ∧ b ≤ 0xf4) :
    ∃ low high, followers? b = some (3, low, high) ∧ leadingBits b 3 = b % 8 ∧
      low = (if b = 0xf0 then 0x90 else 0x80) ∧ high = if b = 0xf4 then 0x8f else 0xbf := by
  obtain rfl | rfl | rfl | rfl | rfl : b = 0xf0 ∨ b = 0xf1 ∨ b = 0xf2 ∨ b = 0xf3 ∨ b = 0xf4 := by
    omega
  all_goals exact ⟨_, _, rfl, rfl, rfl, rfl⟩

/-- The bytes of a character are read as that character, whatever follows them. -/
theorem utf8Chars_utf8EncodeChar (c : Char) (rest : List UInt8) :
    utf8Chars .start (String.utf8EncodeChar c ++ rest) = some c :: utf8Chars .start rest := by
  have hc : c.toNat < 0xd800 ∨ 0xdfff < c.toNat ∧ c.toNat < 0x110000 := c.valid
  have hself : Char.ofNat c.toNat = c := Char.ofNat_toNat c
  have hv : c.val.toNat = c.toNat := rfl
  rw [String.utf8EncodeChar, hv]
  generalize c.toNat = v at hc hself
  subst hself
  -- one to four bytes; the bounds of the second one are where `hc` is needed
  split
  · have h0 := toNat_byte (n := v) (by omega)
    rw [List.cons_append, List.nil_append, utf8Chars_ascii (by omega), h0]
  split
  · have h0 := toNat_byte (n := v / 64 % 0x20 + 0xc0) (by omega)
    have h1 := toNat_byte (n := v % 0x40 + 0x80) (by omega)
    obtain ⟨hf, hl⟩ := followers?_two (b := v / 64 % 0x20 + 0xc0) (by omega)
    have hbits : (v / 64 % 0x20 + 0xc0) % 32 * 64 + (v % 0x40 + 0x80) % 64 = v := by omega
    simp only [List.cons_append, List.nil_append]
    rw [utf8Chars_leading (h0 ▸ hf), h0, hl, utf8Chars_last (by omega), h1, hbits]
  split
  · have h0 := toNat_byte (n := v / 4096 % 0x10 + 0xe0) (by omega)
    have h1 := toNat_byte (n := v / 64 % 0x40 + 0x80) (by omega)
    have h2 := toNat_byte (n := v % 0x40 + 0x80) (by omega)
    obtain ⟨low, high, hf, hl, hlow, hhigh⟩ :=
      followers?_three (b := v / 4096 % 0x10 + 0xe0) (by omega)
    have hbits : ((v / 4096 % 0x10 + 0xe0) % 16 * 64 + (v / 64 % 0x40 + 0x80) % 64) * 64 +
        (v % 0x40 + 0x80) % 64 = v := by omega
    have hsecond : low ≤ v / 64 % 0x40 + 0x80 ∧ v / 64 % 0x40 + 0x80 ≤ high := by
      split at hlow <;> split at hhigh <;> omega
    simp only [List.cons_append, List.nil_append]
    rw [utf8Chars_leading (h0 ▸ hf), h0, hl, utf8Chars_inner (by omega), h1,
      utf8Chars_last (by omega), h2, hbits]
  · have h0 := toNat_byte (n := v / 262144 % 0x08 + 0xf0) (by omega)
    have h1 := toNat_byte (n := v / 4096 % 0x40 + 0x80) (by omega)
    have h2 := toNat_byte (n := v / 64 % 0x40 + 0x80) (by omega)
    have h3 := toNat_byte (n := v % 0x40 + 0x80) (by omega)
    obtain ⟨low, high, hf, hl, hlow, hhigh⟩ :=
      followers?_four (b := v / 262144 % 0x08 + 0xf0) (by omega)
    have hbits : (((v / 262144 % 0x08 + 0xf0) % 8 * 64 + (v / 4096 % 0x40 + 0x80) % 64) * 64 +
        (v / 64 % 0x40 + 0x80) % 64) * 64 + (v % 0x40 + 0x80) % 64 = v := by omega
    have hsecond : low ≤ v / 4096 % 0x40 + 0x80 ∧ v / 4096 % 0x40 + 0x80 ≤ high := by
      split at hlow <;> split at hhigh <;> omega
    simp only [List.cons_append, List.nil_append]
    rw [utf8Chars_leading (h0 ▸ hf), h0, hl, utf8Chars_inner (by omega), h1,
      utf8Chars_inner (by omega), h2, utf8Chars_last (by omega), h3, hbits]

theorem utf8Chars_toUtf8 (s : String) : utf8Chars .start (toUtf8 s) = s.toList.map some := by
  rw [toUtf8_eq]
  induction s.toList with
  | nil => rfl
  | cons c cs ih => rw [List.flatMap_cons, utf8Chars_utf8EncodeChar, ih, List.map_cons]

theorem ofUtf8?_toUtf8 (s : String) : ofUtf8? (toUtf8 s) = some s := by
  have hall : (s.toList.map some).mapM id = some s.toList := by
    rw [List.mapM_map]
    exact (List.mapM_pure (f := id)).trans (congrArg some s.toList.map_id)
  rw [ofUtf8?, utf8Chars_toUtf8, hall, Option.map_some, String.ofList_toList]

end SqlMapper.Text
