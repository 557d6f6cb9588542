import StudyHall.Uuid

/-!
# Identifiers read back

The hyphenated form of an identifier is read back as the identifier. The same form is what the
digits of every other accepted form are put into, so this fixes what a text denotes.

## Main results

* `ofDigits?_chars` — written digits are read back.
* `ofHyphenated?_groups` — the hyphens of five groups are taken out.
* `parse?_toText` — reading undoes writing.
-/

namespace StudyHall.Uuid

/-! ## Digits -/

theorem digit?_digitChar (d : Fin 16) : digit? (Hex.digitChar d.val) = some d := by
  unfold digit?
  rw [Hex.digitValue?_digitChar d.isLt]
  simp only
  rw [dif_pos d.isLt]

theorem mapM_digit?_chars (ds : List (Fin 16)) : (chars ds).mapM digit? = some ds := by
  unfold chars
  induction ds with
  | nil => rfl
  | cons d ds ih =>
      rw [List.map_cons, List.mapM_cons, digit?_digitChar, ih]
      rfl

/-- Written digits are read back. -/
theorem ofDigits?_chars (u : Uuid) : ofDigits? (chars u.digits) = some u := by
  unfold ofDigits?
  rw [mapM_digit?_chars]
  simp only
  rw [dif_pos u.length_digits]

theorem chars_append (ds es : List (Fin 16)) : chars (ds ++ es) = chars ds ++ chars es :=
  List.map_append

@[simp]
theorem length_chars (ds : List (Fin 16)) : (chars ds).length = ds.length :=
  List.length_map _

/-! ## Groups -/

/-- The hyphens of five groups are taken out. -/
theorem ofHyphenated?_groups {a b c d e : List Char} (ha : a.length = 8) (hb : b.length = 4)
    (hc : c.length = 4) (hd : d.length = 4) (he : e.length = 12) :
    ofHyphenated? (a ++ '-' :: b ++ '-' :: c ++ '-' :: d ++ '-' :: e)
      = ofDigits? (a ++ b ++ c ++ d ++ e) := by
  unfold ofHyphenated?
  rw [if_pos (by simp [List.drop_append, ha, hb, hc, hd, he])]
  simp (disch := omega) [List.drop_append, List.drop_eq_nil_of_le, ha, hb, hc, hd]

theorem digits_groups (ds : List (Fin 16)) :
    ds.take 8 ++ (ds.drop 8).take 4 ++ (ds.drop 12).take 4 ++ (ds.drop 16).take 4 ++ ds.drop 20
      = ds := by
  have h₈ : ds.drop 12 = (ds.drop 8).drop 4 := by rw [List.drop_drop]
  have h₁₂ : ds.drop 16 = (ds.drop 12).drop 4 := by rw [List.drop_drop]
  have h₁₆ : ds.drop 20 = (ds.drop 16).drop 4 := by rw [List.drop_drop]
  rw [h₁₆, List.append_assoc, List.take_append_drop, h₁₂, List.append_assoc,
    List.take_append_drop, h₈, List.append_assoc, List.take_append_drop, List.take_append_drop]

/-! ## Round trip -/

/-- The hyphenated form of an identifier is read back as the identifier. -/
theorem ofHyphenated?_toChars (u : Uuid) : ofHyphenated? u.toChars = some u := by
  have len := u.length_digits
  unfold toChars
  rw [ofHyphenated?_groups (by simp [len]) (by simp [len]) (by simp [len]) (by simp [len])
    (by simp [len]), ← chars_append, ← chars_append, ← chars_append, ← chars_append,
    digits_groups, ofDigits?_chars]

theorem length_toChars (u : Uuid) : u.toChars.length = 36 := by
  have len := u.length_digits
  simp [toChars, len]

/-- Reading undoes writing. -/
theorem parse?_toText (u : Uuid) : parse? u.toText = some u := by
  have len := u.length_toChars
  unfold parse? toText ofChars?
  rw [String.toList_ofList, len, if_neg (by decide), if_pos rfl, ofHyphenated?_toChars]

end StudyHall.Uuid
