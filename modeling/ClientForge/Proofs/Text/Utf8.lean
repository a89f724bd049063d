import ClientForge.Proofs.Except
import ClientForge.Text.Utf8

namespace ClientForge.Text.Utf8

theorem toNat_ofNat_of_isValid {n : Nat} (h : n.isValidChar) : (Char.ofNat n).val.toNat = n := by
  rw [Char.ofNat, dif_pos h]
  rfl

theorem isTail_iff {b : UInt8} : isTail b = true ↔ 128 ≤ b.toNat ∧ b.toNat < 192 := by
  rw [isTail, Bool.and_eq_true, decide_eq_true_iff, decide_eq_true_iff, UInt8.le_iff_toNat_le, UInt8.lt_iff_toNat_lt]
  rfl

theorem fitsSecond_iff {a b : UInt8} : fitsSecond a b = true ↔ isTail b = true ∧ (a.toNat = 224 → 160 ≤ b.toNat) ∧
    (a.toNat = 237 → b.toNat < 160) ∧ (a.toNat = 240 → 144 ≤ b.toNat) ∧ (a.toNat = 244 → b.toNat < 144) := by
  simp only [fitsSecond, Bool.and_eq_true, Bool.or_eq_true, bne_iff_ne, decide_eq_true_iff, UInt8.le_iff_toNat_le,
    UInt8.lt_iff_toNat_lt, ne_eq, ← UInt8.toNat_inj, ← imp_iff_not_or, and_assoc]
  rfl

theorem encodeChar_one {a : UInt8} (h : a.toNat < 128) : String.utf8EncodeChar (Char.ofNat a.toNat) = [a] := by
  have hvalid : a.toNat.isValidChar := .inl (by omega)
  rw [String.utf8EncodeChar, toNat_ofNat_of_isValid hvalid]
  rw [if_pos (by omega), UInt8.ofNat_toNat]

theorem encodeChar_two {a b : UInt8} (ha : 194 ≤ a.toNat ∧ a.toNat < 224) (hb : isTail b = true) :
    String.utf8EncodeChar (join (a.toNat - 192) [b]) = [a, b] := by
  rw [isTail_iff] at hb
  obtain ⟨n, hn⟩ : ∃ n, n = (a.toNat - 192) * 64 + (b.toNat - 128) := ⟨_, rfl⟩
  have hvalid : n.isValidChar := .inl (by omega)
  have hfirst : n / 64 % 32 + 192 = a.toNat := by omega
  have hsecond : n % 64 + 128 = b.toNat := by omega
  have hjoin : join (a.toNat - 192) [b] = Char.ofNat n := by rw [hn]; rfl
  rw [hjoin, String.utf8EncodeChar, toNat_ofNat_of_isValid hvalid]
  rw [if_neg (by omega), if_pos (by omega), hfirst, hsecond, UInt8.ofNat_toNat, UInt8.ofNat_toNat]

theorem encodeChar_three {a b c : UInt8} (ha : 224 ≤ a.toNat ∧ a.toNat < 240) (hb : fitsSecond a b = true)
    (hc : isTail c = true) : String.utf8EncodeChar (join (a.toNat - 224) [b, c]) = [a, b, c] := by
  rw [fitsSecond_iff, isTail_iff] at hb
  rw [isTail_iff] at hc
  obtain ⟨n, hn⟩ : ∃ n, n = ((a.toNat - 224) * 64 + (b.toNat - 128)) * 64 + (c.toNat - 128) := ⟨_, rfl⟩
  have hvalid : n.isValidChar := by
    by_cases hbelow : n < 55296
    · exact .inl hbelow
    · exact .inr ⟨by omega, by omega⟩
  have hfirst : n / 4096 % 16 + 224 = a.toNat := by omega
  have hsecond : n / 64 % 64 + 128 = b.toNat := by omega
  have hthird : n % 64 + 128 = c.toNat := by omega
  have hjoin : join (a.toNat - 224) [b, c] = Char.ofNat n := by rw [hn]; rfl
  rw [hjoin, String.utf8EncodeChar, toNat_ofNat_of_isValid hvalid]
  rw [if_neg (by omega), if_neg (by omega), if_pos (by omega), hfirst, hsecond, hthird, UInt8.ofNat_toNat,
    UInt8.ofNat_toNat, UInt8.ofNat_toNat]

theorem encodeChar_four {a b c d : UInt8} (ha : 240 ≤ a.toNat ∧ a.toNat < 245) (hb : fitsSecond a b = true)
    (hc : isTail c = true) (hd : isTail d = true) :
    String.utf8EncodeChar (join (a.toNat - 240) [b, c, d]) = [a, b, c, d] := by
  rw [fitsSecond_iff, isTail_iff] at hb
  rw [isTail_iff] at hc hd
  obtain ⟨n, hn⟩ : ∃ n, n = (((a.toNat - 240) * 64 + (b.toNat - 128)) * 64 + (c.toNat - 128)) * 64 + (d.toNat - 128) :=
    ⟨_, rfl⟩
  have hvalid : n.isValidChar := .inr ⟨by omega, by omega⟩
  have hfirst : n / 262144 % 8 + 240 = a.toNat := by omega
  have hsecond : n / 4096 % 64 + 128 = b.toNat := by omega
  have hthird : n / 64 % 64 + 128 = c.toNat := by omega
  have hfourth : n % 64 + 128 = d.toNat := by omega
  have hjoin : join (a.toNat - 240) [b, c, d] = Char.ofNat n := by rw [hn]; rfl
  rw [hjoin, String.utf8EncodeChar, toNat_ofNat_of_isValid hvalid]
  rw [if_neg (by omega), if_neg (by omega), if_neg (by omega), hfirst, hsecond, hthird, hfourth, UInt8.ofNat_toNat,
    UInt8.ofNat_toNat, UInt8.ofNat_toNat, UInt8.ofNat_toNat]

theorem encode_decodeChar {bytes rest : List UInt8} {c : Char} (h : decodeChar? bytes = some (.ok (c, rest))) :
    bytes = String.utf8EncodeChar c ++ rest := by
  cases bytes with
  | nil => cases h
  | cons a tails =>
    replace h := Option.some.inj h
    simp only [UInt8.lt_iff_toNat_lt, UInt8.reduceToNat] at h
    split at h
    · next hone =>
      obtain ⟨rfl, rfl⟩ := Prod.mk.inj (Except.ok.inj h)
      rw [encodeChar_one hone]
      rfl
    split at h
    · cases h
    split at h
    · next _ hlow hhigh =>
      split at h
      · cases h
      split at h
      · next b _ hb =>
        obtain ⟨rfl, rfl⟩ := Prod.mk.inj (Except.ok.inj h)
        rw [encodeChar_two ⟨by omega, hhigh⟩ hb]
        rfl
      · cases h
    split at h
    · next _ _ hlow hhigh =>
      split at h
      · cases h
      next b tails =>
      split at h
      · cases h
      next hb =>
      rw [Bool.not_eq_true, Bool.not_eq_false'] at hb
      split at h
      · cases h
      next d tails =>
      split at h
      · cases h
      next hd =>
      rw [Bool.not_eq_true, Bool.not_eq_false'] at hd
      split at h
      · next hthree =>
        obtain ⟨rfl, rfl⟩ := Prod.mk.inj (Except.ok.inj h)
        rw [encodeChar_three ⟨by omega, hthree⟩ hb hd]
        rfl
      next hfour =>
      split at h
      · cases h
      split at h
      · cases h
      next hlast =>
      rw [Bool.not_eq_true, Bool.not_eq_false'] at hlast
      obtain ⟨rfl, rfl⟩ := Prod.mk.inj (Except.ok.inj h)
      rw [encodeChar_four ⟨by omega, hhigh⟩ hb hd hlast]
      rfl
    · cases h

theorem encode_decodeFrom {start fuel : Nat} {bytes : List UInt8} {text : List Char} (hfuel : bytes.length ≤ fuel)
    (h : decodeFrom start fuel bytes = .ok text) : encode text = bytes := by
  induction fuel generalizing start bytes text with
  | zero =>
    cases h
    rw [List.length_eq_zero_iff.mp (Nat.le_zero.mp hfuel)]
    rfl
  | succ fuel ih =>
    rw [decodeFrom] at h
    split at h
    · next hnone =>
      cases h
      cases bytes with
      | nil => rfl
      | cons => cases hnone
    · cases h
    · next c rest hchar =>
      obtain ⟨others, hothers, rfl⟩ := except_map_eq_ok.mp h
      have hbytes := encode_decodeChar hchar
      have hpos : 0 < (String.utf8EncodeChar c).length := List.length_pos_iff.mpr String.utf8EncodeChar_ne_nil
      have hlength := congrArg List.length hbytes
      rw [List.length_append] at hlength
      rw [encode, List.flatMap_cons, ← encode, ih (by omega) hothers, hbytes]

theorem encode_decode {bytes : List UInt8} {text : String} (h : decode bytes = .ok text) :
    encode text.toList = bytes := by
  obtain ⟨chars, hchars, rfl⟩ := except_map_eq_ok.mp h
  rw [String.toList_ofList]
  exact encode_decodeFrom (Nat.le_refl _) hchars

theorem mem_encodeChar {b : UInt8} {c : Char} (hb : b.toNat < 128) :
    b ∈ String.utf8EncodeChar c ↔ b.toNat = c.val.toNat := by
  have hbyte (n : Nat) : b = UInt8.ofNat n ↔ b.toNat = n % 256 := by
    rw [← UInt8.toNat_inj, UInt8.toNat_ofNat']
  rw [String.utf8EncodeChar]
  split
  · rw [List.mem_singleton, hbyte]
    omega
  split
  · simp only [List.mem_cons, List.not_mem_nil, or_false, hbyte]
    omega
  split
  · simp only [List.mem_cons, List.not_mem_nil, or_false, hbyte]
    omega
  · simp only [List.mem_cons, List.not_mem_nil, or_false, hbyte]
    omega

theorem return_mem_encode {text : List Char} : 13 ∈ encode text ↔ '\r' ∈ text := by
  have hreturn (c : Char) : 13 ∈ String.utf8EncodeChar c ↔ '\r' = c := by
    rw [mem_encodeChar (by decide), ← Char.val_inj, ← UInt32.toNat_inj]
    rfl
  simp only [encode, List.mem_flatMap, hreturn, exists_eq_right']

end ClientForge.Text.Utf8
