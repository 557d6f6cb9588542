import StudyHall.Bytes.Base64Url

/-!
# Base 64 reads back

What is written in base 64 is read back as the bytes it was written from, and only what is written
in this way is read at all, so bytes have one written form. No character of it is a dot, so that
dots can stand between written parts.

## Main results

* `decode?_encode` — reading undoes writing.
* `decode?_eq_some_iff` — bytes are read from their written form and from nothing else.
* `dot_notMem_encode` — the alphabet has no dot.
-/

namespace StudyHall.Base64Url

/-! ## Bytes from digits

Three bytes are cut into four digits below 64. Each lemma puts one byte together again. -/

theorem first_byte (a : UInt8) (q : Nat) (hq : q < 16) :
    UInt8.ofNat (a.toNat / 4 * 4 + (a.toNat % 4 * 16 + q) / 16) = a := by
  have h : a.toNat / 4 * 4 + (a.toNat % 4 * 16 + q) / 16 = a.toNat := by omega
  rw [h, UInt8.ofNat_toNat]

theorem second_byte (a b : UInt8) (r : Nat) (hr : r < 4) :
    UInt8.ofNat ((a.toNat % 4 * 16 + b.toNat / 16) % 16 * 16 + (b.toNat % 16 * 4 + r) / 4)
      = b := by
  have hb := b.toNat_lt
  have h : (a.toNat % 4 * 16 + b.toNat / 16) % 16 * 16 + (b.toNat % 16 * 4 + r) / 4
      = b.toNat := by
    omega
  rw [h, UInt8.ofNat_toNat]

theorem third_byte (b c : UInt8) :
    UInt8.ofNat ((b.toNat % 16 * 4 + c.toNat / 64) % 4 * 64 + c.toNat % 64) = c := by
  have hc := c.toNat_lt
  have h : (b.toNat % 16 * 4 + c.toNat / 64) % 4 * 64 + c.toNat % 64 = c.toNat := by omega
  rw [h, UInt8.ofNat_toNat]

/-! ## Round trip -/

/-- Reading undoes writing. -/
theorem decode?_encode (bytes : List UInt8) : decode? (encode bytes) = some bytes := by
  fun_induction encode bytes with
  | case1 => rfl
  | case2 a =>
      have ha := a.toNat_lt
      have unused : a.toNat % 4 * 16 % 16 = 0 := by omega
      have byte := first_byte a 0 (by decide)
      simp only [Nat.add_zero] at byte
      simp only [decode?, digitValue?_digitChar (show a.toNat / 4 < 64 by omega),
        digitValue?_digitChar (show a.toNat % 4 * 16 < 64 by omega), Option.bind_eq_bind,
        Option.bind_some, unused, if_true, byte]
  | case3 a b =>
      have ha := a.toNat_lt
      have hb := b.toNat_lt
      have unused : b.toNat % 16 * 4 % 4 = 0 := by omega
      have byte := second_byte a b 0 (by decide)
      simp only [Nat.add_zero] at byte
      simp only [decode?, digitValue?_digitChar (show a.toNat / 4 < 64 by omega),
        digitValue?_digitChar (show a.toNat % 4 * 16 + b.toNat / 16 < 64 by omega),
        digitValue?_digitChar (show b.toNat % 16 * 4 < 64 by omega), Option.bind_eq_bind,
        Option.bind_some, unused, if_true, byte,
        first_byte a (b.toNat / 16) (show b.toNat / 16 < 16 by omega)]
  | case4 a b c rest ih =>
      have ha := a.toNat_lt
      have hb := b.toNat_lt
      have hc := c.toNat_lt
      simp only [decode?, digitValue?_digitChar (show a.toNat / 4 < 64 by omega),
        digitValue?_digitChar (show a.toNat % 4 * 16 + b.toNat / 16 < 64 by omega),
        digitValue?_digitChar (show b.toNat % 16 * 4 + c.toNat / 64 < 64 by omega),
        digitValue?_digitChar (show c.toNat % 64 < 64 by omega), ih, Option.bind_eq_bind,
        Option.bind_some, third_byte,
        first_byte a (b.toNat / 16) (show b.toNat / 16 < 16 by omega),
        second_byte a b (c.toNat / 64) (show c.toNat / 64 < 4 by omega)]

/-! ## The one written form -/

/-- A character of the alphabet is the one of its value. -/
theorem digitChar_of_digitValue? {c : Char} {v : Nat} (h : digitValue? c = some v) :
    v < 64 ∧ digitChar v = c := by
  have between {a b : Char} (h : a ≤ c ∧ c ≤ b) : a.toNat ≤ c.toNat ∧ c.toNat ≤ b.toNat := by
    simpa only [Char.le_def, UInt32.le_iff_toNat_le, Char.toNat] using h
  unfold digitValue? at h
  split at h
  · next range =>
      obtain ⟨low, high⟩ : 65 ≤ c.toNat ∧ c.toNat ≤ 90 := between range
      cases h
      refine ⟨by omega, ?_⟩
      rw [digitChar, if_pos (by omega), Nat.add_sub_cancel' low, Char.ofNat_toNat]
  · split at h
    · next range =>
        obtain ⟨low, high⟩ : 97 ≤ c.toNat ∧ c.toNat ≤ 122 := between range
        cases h
        refine ⟨by omega, ?_⟩
        rw [digitChar, if_neg (by omega), if_pos (by omega), Nat.add_sub_cancel' (by omega),
          Char.ofNat_toNat]
    · split at h
      · next range =>
          obtain ⟨low, high⟩ : 48 ≤ c.toNat ∧ c.toNat ≤ 57 := between range
          cases h
          refine ⟨by omega, ?_⟩
          rw [digitChar, if_neg (by omega), if_neg (by omega), if_pos (by omega),
            Nat.add_sub_cancel, Char.ofNat_toNat]
      · split at h
        · next dash =>
            cases h
            exact ⟨by decide, dash ▸ rfl⟩
        · split at h
          · next underscore =>
              cases h
              exact ⟨by decide, underscore ▸ rfl⟩
          · cases h

theorem toNat_byte {n : Nat} (h : n < 256) : (UInt8.ofNat n).toNat = n := by
  rw [UInt8.toNat_ofNat']
  exact Nat.mod_eq_of_lt h

/-- Writing undoes reading, so no two texts are read as the same bytes. -/
theorem encode_of_decode? {cs : List Char} {bytes : List UInt8} (h : decode? cs = some bytes) :
    encode bytes = cs := by
  fun_induction decode? cs generalizing bytes with
  | case1 =>
      cases h
      rfl
  | case2 => cases h
  | case3 w x =>
      simp only [Option.bind_eq_bind, Option.bind_eq_some_iff] at h
      obtain ⟨p, hp, q, hq, h⟩ := h
      obtain ⟨hp, rfl⟩ := digitChar_of_digitValue? hp
      obtain ⟨hq, rfl⟩ := digitChar_of_digitValue? hq
      split at h
      · next unused =>
          cases h
          rw [encode, toNat_byte (by omega), show (p * 4 + q / 16) / 4 = p by omega,
            show (p * 4 + q / 16) % 4 * 16 = q by omega]
      · cases h
  | case4 w x y =>
      simp only [Option.bind_eq_bind, Option.bind_eq_some_iff] at h
      obtain ⟨p, hp, q, hq, r, hr, h⟩ := h
      obtain ⟨hp, rfl⟩ := digitChar_of_digitValue? hp
      obtain ⟨hq, rfl⟩ := digitChar_of_digitValue? hq
      obtain ⟨hr, rfl⟩ := digitChar_of_digitValue? hr
      split at h
      · next unused =>
          cases h
          rw [encode, toNat_byte (by omega), toNat_byte (by omega),
            show (p * 4 + q / 16) / 4 = p by omega,
            show (p * 4 + q / 16) % 4 * 16 + (q % 16 * 16 + r / 4) / 16 = q by omega,
            show (q % 16 * 16 + r / 4) % 16 * 4 = r by omega]
      · cases h
  | case5 w x y z rest ih =>
      simp only [Option.bind_eq_bind, Option.bind_eq_some_iff] at h
      obtain ⟨p, hp, q, hq, r, hr, s, hs, tail, ht, h⟩ := h
      obtain ⟨hp, rfl⟩ := digitChar_of_digitValue? hp
      obtain ⟨hq, rfl⟩ := digitChar_of_digitValue? hq
      obtain ⟨hr, rfl⟩ := digitChar_of_digitValue? hr
      obtain ⟨hs, rfl⟩ := digitChar_of_digitValue? hs
      cases h
      rw [encode, ih ht, toNat_byte (by omega), toNat_byte (by omega), toNat_byte (by omega),
        show (p * 4 + q / 16) / 4 = p by omega,
        show (p * 4 + q / 16) % 4 * 16 + (q % 16 * 16 + r / 4) / 16 = q by omega,
        show (q % 16 * 16 + r / 4) % 16 * 4 + (r % 4 * 64 + s) / 64 = r by omega,
        show (r % 4 * 64 + s) % 64 = s by omega]

theorem decode?_eq_some_iff {cs : List Char} {bytes : List UInt8} :
    decode? cs = some bytes ↔ cs = encode bytes := by
  constructor
  · intro h
    exact (encode_of_decode? h).symm
  · rintro rfl
    exact decode?_encode bytes

/-! ## The alphabet -/

/-- Every character of the written form is a digit. -/
theorem digit_of_mem_encode {bytes : List UInt8} {c : Char} (mem : c ∈ encode bytes) :
    ∃ v < 64, c = digitChar v := by
  fun_induction encode bytes with
  | case1 => exact absurd mem List.not_mem_nil
  | case2 a =>
      have ha := a.toNat_lt
      simp only [List.mem_cons, List.not_mem_nil, or_false] at mem
      rcases mem with rfl | rfl
      · exact ⟨_, by omega, rfl⟩
      · exact ⟨_, by omega, rfl⟩
  | case3 a b =>
      have ha := a.toNat_lt
      have hb := b.toNat_lt
      simp only [List.mem_cons, List.not_mem_nil, or_false] at mem
      rcases mem with rfl | rfl | rfl
      · exact ⟨_, by omega, rfl⟩
      · exact ⟨_, by omega, rfl⟩
      · exact ⟨_, by omega, rfl⟩
  | case4 a b c rest ih =>
      have ha := a.toNat_lt
      have hb := b.toNat_lt
      have hc := c.toNat_lt
      simp only [List.mem_cons] at mem
      rcases mem with rfl | rfl | rfl | rfl | mem
      · exact ⟨_, by omega, rfl⟩
      · exact ⟨_, by omega, rfl⟩
      · exact ⟨_, by omega, rfl⟩
      · exact ⟨_, by omega, rfl⟩
      · exact ih mem

/-- What holds of the digits holds of every character of the written form. -/
theorem of_mem_encode {P : Char → Prop} (digits : ∀ v ∈ List.range 64, P (digitChar v))
    {bytes : List UInt8} {c : Char} (mem : c ∈ encode bytes) : P c := by
  obtain ⟨v, small, rfl⟩ := digit_of_mem_encode mem
  exact digits v (List.mem_range.mpr small)

/-- No character of the written form is a dot. -/
theorem dot_notMem_encode (bytes : List UInt8) : '.' ∉ encode bytes := by
  intro mem
  exact of_mem_encode (P := (· ≠ '.')) (by decide) mem rfl

end StudyHall.Base64Url
