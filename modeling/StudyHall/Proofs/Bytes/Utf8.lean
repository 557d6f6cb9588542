import StudyHall.Bytes.Utf8

/-!
# UTF-8 reads back

The bytes of a run of characters are read back as those characters, with no ill-formed part.

A character is cut into six bits a byte. The first byte tells how many bytes follow and bounds the
second one; the bounds hold for every character, since none is overlong, none is a surrogate and
none lies above U+10FFFF. After that the bits are put together byte by byte.

## Main results

* `decodeFrom_encodeChar` — the bytes of one character give it and leave the reader at rest.
* `decode_encode` — the bytes of a run of characters give these characters.
-/

namespace StudyHall.Utf8

theorem toNat_ofNat {n : Nat} (h : n < 0x100) : (UInt8.ofNat n).toNat = n := by
  rw [UInt8.toNat_ofNat']
  exact Nat.mod_eq_of_lt h

/-! ## First bytes -/

theorem lead_one {n : Nat} (h : n < 0x80) :
    lead (UInt8.ofNat n) = ([some (Char.ofNat n)], none) := by
  simp only [lead, toNat_ofNat (show n < 0x100 by omega), h, if_true]

theorem lead_two {n : Nat} (low : 2 ≤ n) (high : n < 0x20) :
    lead (UInt8.ofNat (0xc0 + n)) = ([], some ⟨1, 0x80, 0xbf, n⟩) := by
  have above : ¬ 0xc0 + n < 0x80 := by omega
  have within : (decide (0xc2 ≤ 0xc0 + n) && decide (0xc0 + n ≤ 0xdf)) = true := by
    simp only [Bool.and_eq_true, decide_eq_true_eq]
    omega
  simp only [lead, toNat_ofNat (show 0xc0 + n < 0x100 by omega), above, within, if_true, if_false,
    Nat.add_sub_cancel_left]

/-- After the first of three bytes the second one lies within bounds, unless the character would
be overlong or a surrogate. -/
theorem lead_three {n m : Nat} (hn : n < 0x10) (hm : m < 0x40) (overlong : n = 0 → 0x20 ≤ m)
    (surrogate : n = 0xd → m < 0x20) :
    ∃ low high, lead (UInt8.ofNat (0xe0 + n)) = ([], some ⟨2, low, high, n⟩)
      ∧ low ≤ 0x80 + m ∧ 0x80 + m ≤ high := by
  have toNat := toNat_ofNat (show 0xe0 + n < 0x100 by omega)
  have above : ¬ 0xe0 + n < 0x80 := by omega
  have not_two : (decide (0xc2 ≤ 0xe0 + n) && decide (0xe0 + n ≤ 0xdf)) = false := by
    simp only [Bool.and_eq_false_iff, decide_eq_false_iff_not]
    omega
  by_cases zero : n = 0
  · subst zero
    exact ⟨0xa0, 0xbf, rfl, by omega, by omega⟩
  by_cases thirteen : n = 0xd
  · subst thirteen
    exact ⟨0x80, 0x9f, rfl, by omega, by omega⟩
  have first : (0xe0 + n == 0xe0) = false := beq_false_of_ne (by omega)
  have fourteenth : (0xe0 + n == 0xed) = false := beq_false_of_ne (by omega)
  have within : (decide (0xe1 ≤ 0xe0 + n) && decide (0xe0 + n ≤ 0xef)) = true := by
    simp only [Bool.and_eq_true, decide_eq_true_eq]
    omega
  refine ⟨0x80, 0xbf, ?_, by omega, by omega⟩
  simp only [lead, toNat, above, not_two, first, fourteenth, within, if_true, if_false,
    Bool.false_eq_true, Nat.add_sub_cancel_left]

/-- After the first of four bytes the second one lies within bounds, unless the character would be
overlong or above U+10FFFF. -/
theorem lead_four {n m : Nat} (hn : n ≤ 4) (hm : m < 0x40) (overlong : n = 0 → 0x10 ≤ m)
    (above : n = 4 → m < 0x10) :
    ∃ low high, lead (UInt8.ofNat (0xf0 + n)) = ([], some ⟨3, low, high, n⟩)
      ∧ low ≤ 0x80 + m ∧ 0x80 + m ≤ high := by
  have cases : n = 0 ∨ n = 1 ∨ n = 2 ∨ n = 3 ∨ n = 4 := by omega
  rcases cases with rfl | rfl | rfl | rfl | rfl
  · exact ⟨0x90, 0xbf, rfl, by omega, by omega⟩
  · exact ⟨0x80, 0xbf, rfl, by omega, by omega⟩
  · exact ⟨0x80, 0xbf, rfl, by omega, by omega⟩
  · exact ⟨0x80, 0xbf, rfl, by omega, by omega⟩
  · exact ⟨0x80, 0x8f, rfl, by omega, by omega⟩

/-! ## Further bytes -/

variable {low high bits m : Nat} {bs : List UInt8}

/-- The last byte of a sequence completes its character. -/
theorem decodeFrom_last (hm : m < 0x40) (hl : low ≤ 0x80 + m) (hh : 0x80 + m ≤ high) :
    decodeFrom (some ⟨1, low, high, bits⟩) (UInt8.ofNat (0x80 + m) :: bs)
      = some (Char.ofNat (0x40 * bits + m)) :: decodeFrom none bs := by
  have within : (decide (low ≤ 0x80 + m) && decide (0x80 + m ≤ high)) = true := by
    simp only [Bool.and_eq_true, decide_eq_true_eq]
    exact ⟨hl, hh⟩
  simp only [decodeFrom, step, toNat_ofNat (show 0x80 + m < 0x100 by omega), within, if_true,
    Nat.le_refl, Nat.add_sub_cancel_left, List.cons_append, List.nil_append]

/-- A byte that is not the last one adds its bits. -/
theorem decodeFrom_more (owed : Nat) (hm : m < 0x40) (hl : low ≤ 0x80 + m)
    (hh : 0x80 + m ≤ high) :
    decodeFrom (some ⟨owed + 2, low, high, bits⟩) (UInt8.ofNat (0x80 + m) :: bs)
      = decodeFrom (some ⟨owed + 1, 0x80, 0xbf, 0x40 * bits + m⟩) bs := by
  have within : (decide (low ≤ 0x80 + m) && decide (0x80 + m ≤ high)) = true := by
    simp only [Bool.and_eq_true, decide_eq_true_eq]
    exact ⟨hl, hh⟩
  have further : ¬ owed + 2 ≤ 1 := by omega
  simp only [decodeFrom, step, toNat_ofNat (show 0x80 + m < 0x100 by omega), within, further,
    if_true, if_false, Nat.add_sub_cancel_left, Nat.add_one_sub_one, List.nil_append]

/-! ## Round trip -/

/-- The bytes of one character give it and leave the reader at rest. -/
theorem decodeFrom_encodeChar (c : Char) (bs : List UInt8) :
    decodeFrom none (encodeChar c ++ bs) = some c :: decodeFrom none bs := by
  have valid : c.toNat < 0xd800 ∨ 0xdfff < c.toNat ∧ c.toNat < 0x110000 := c.valid
  have back : some (Char.ofNat c.toNat) :: decodeFrom none bs = some c :: decodeFrom none bs := by
    rw [Char.ofNat_toNat]
  rw [← back]
  unfold encodeChar
  generalize c.toNat = n at valid
  simp only
  split
  · next h => simp only [List.cons_append, List.nil_append, decodeFrom, step, lead_one h]
  split
  · next h₁ h₂ =>
      simp only [List.cons_append, List.nil_append]
      rw [decodeFrom, step, lead_two (by omega) (by omega), List.nil_append,
        decodeFrom_last (by omega) (by omega) (by omega)]
      rw [show 0x40 * (n / 0x40) + n % 0x40 = n by omega]
  split
  · next h₁ h₂ h₃ =>
      obtain ⟨low, high, first, hl, hh⟩ := lead_three (n := n / 0x1000) (m := n / 0x40 % 0x40)
        (by omega) (by omega) (by omega) (by omega)
      simp only [List.cons_append, List.nil_append]
      rw [decodeFrom, step, first, List.nil_append, decodeFrom_more 0 (by omega) hl hh,
        decodeFrom_last (by omega) (by omega) (by omega)]
      rw [show 0x40 * (0x40 * (n / 0x1000) + n / 0x40 % 0x40) + n % 0x40 = n by omega]
  · next h₁ h₂ h₃ =>
      obtain ⟨low, high, first, hl, hh⟩ := lead_four (n := n / 0x40000) (m := n / 0x1000 % 0x40)
        (by omega) (by omega) (by omega) (by omega)
      simp only [List.cons_append, List.nil_append]
      rw [decodeFrom, step, first, List.nil_append, decodeFrom_more 1 (by omega) hl hh,
        decodeFrom_more 0 (by omega) (by omega) (by omega),
        decodeFrom_last (by omega) (by omega) (by omega)]
      rw [show 0x40 * (0x40 * (0x40 * (n / 0x40000) + n / 0x1000 % 0x40) + n / 0x40 % 0x40)
        + n % 0x40 = n by omega]

/-- The bytes of a run of characters give these characters. -/
theorem decode_encode (cs : List Char) : decode (encode cs) = cs.map some := by
  unfold decode encode
  induction cs with
  | nil => rfl
  | cons c cs ih => rw [List.flatMap_cons, decodeFrom_encodeChar, ih, List.map_cons]

end StudyHall.Utf8
