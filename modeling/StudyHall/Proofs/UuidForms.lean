import Mathlib.Data.List.Forall2
import StudyHall.Proofs.Uuid

/-!
# What denotes an identifier

An identifier can be written in four forms: its digits alone, in five groups with hyphens between
them, the groups in braces, and the groups after `urn:uuid:`. The reader tells them apart by their
length and accepts nothing else, so a text denotes at most one identifier. Every form comes down to
32 hexadecimal digits, each of which may be a small or a capital letter.

## Main results

* `ofHyphenated?_eq_some_iff` — what is read as five groups.
* `parse?_eq_some_iff` — what is read as an identifier.
-/

namespace StudyHall.Uuid

/-! ## Digits -/

/-- Characters that are hexadecimal digits, in either case, with the values of them. -/
def Digits (cs : List Char) (ds : List (Fin 16)) : Prop :=
  List.Forall₂ (fun c d => Hex.digitValue? c = some d.val) cs ds

theorem Digits.length {cs : List Char} {ds : List (Fin 16)} (digits : Digits cs ds) :
    cs.length = ds.length :=
  List.Forall₂.length_eq digits

theorem digit?_eq_some_iff {c : Char} {d : Fin 16} :
    digit? c = some d ↔ Hex.digitValue? c = some d.val := by
  unfold digit?
  cases value : Hex.digitValue? c with
  | none => simp
  | some v =>
      by_cases small : v < 16
      · simp only [dif_pos small, Option.some.injEq, Fin.ext_iff]
      · have large : v ≠ d.val := by omega
        simp only [dif_neg small, reduceCtorEq, Option.some.injEq, large]

theorem mapM_digit?_eq_some_iff {cs : List Char} {ds : List (Fin 16)} :
    cs.mapM digit? = some ds ↔ Digits cs ds := by
  unfold Digits
  induction cs generalizing ds with
  | nil => simp [eq_comm]
  | cons c cs ih =>
      rw [List.mapM_cons, List.forall₂_cons_left_iff]
      simp only [Option.bind_eq_bind, Option.bind_eq_some_iff, Option.pure_def, Option.some.injEq,
        ih, digit?_eq_some_iff]
      constructor
      · rintro ⟨d, value, rest, digits, rfl⟩
        exact ⟨d, rest, value, digits, rfl⟩
      · rintro ⟨d, rest, value, digits, rfl⟩
        exact ⟨d, value, rest, digits, rfl⟩

/-- Exactly 32 digits are read as the identifier that has them. -/
theorem ofDigits?_eq_some_iff {cs : List Char} {u : Uuid} :
    ofDigits? cs = some u ↔ Digits cs u.digits := by
  rw [← mapM_digit?_eq_some_iff]
  unfold ofDigits?
  cases values : cs.mapM digit? with
  | none => simp
  | some ds =>
      by_cases enough : ds.length = 32
      · simp only [dif_pos enough, Option.some.injEq]
        constructor
        · rintro rfl
          rfl
        · rintro rfl
          rfl
      · simp only [dif_neg enough, reduceCtorEq, Option.some.injEq, false_iff]
        rintro rfl
        exact enough u.length_digits

/-! ## Forms -/

/-- The digits of an identifier in groups of 8, 4, 4, 4 and 12 with hyphens between them. -/
inductive Hyphenated : List Char → Uuid → Prop
  | groups {a b c d e : List Char} {u : Uuid} (ha : a.length = 8) (hb : b.length = 4)
      (hc : c.length = 4) (hd : d.length = 4) (digits : Digits (a ++ b ++ c ++ d ++ e) u.digits) :
      Hyphenated (a ++ '-' :: b ++ '-' :: c ++ '-' :: d ++ '-' :: e) u

/-- The characters that denote an identifier. -/
inductive Denotes : List Char → Uuid → Prop
  | plain {cs : List Char} {u : Uuid} (digits : Digits cs u.digits) : Denotes cs u
  | hyphenated {cs : List Char} {u : Uuid} (groups : Hyphenated cs u) : Denotes cs u
  | braced {cs : List Char} {u : Uuid} (groups : Hyphenated cs u) :
      Denotes ('\x7b' :: (cs ++ ['\x7d'])) u
  | urn {mark cs : List Char} {u : Uuid} (isMark : isUrnMark mark = true)
      (groups : Hyphenated cs u) : Denotes (mark ++ cs) u

/-- The last group has twelve digits, because there are 32 altogether. -/
theorem length_lastGroup {a b c d e : List Char} {u : Uuid} (ha : a.length = 8) (hb : b.length = 4)
    (hc : c.length = 4) (hd : d.length = 4) (digits : Digits (a ++ b ++ c ++ d ++ e) u.digits) :
    e.length = 12 := by
  have count := digits.length
  simp only [List.length_append, u.length_digits] at count
  omega

theorem Hyphenated.length {cs : List Char} {u : Uuid} (written : Hyphenated cs u) :
    cs.length = 36 := by
  cases written with
  | groups ha hb hc hd digits =>
      have he := length_lastGroup ha hb hc hd digits
      simp [ha, hb, hc, hd, he]

/-- Characters with a given one at a place are those before it, it, and those after it. -/
theorem eq_take_append_cons {cs : List Char} {n : Nat} {x : Char}
    (here : (cs.drop n).head? = some x) : cs = cs.take n ++ x :: cs.drop (n + 1) := by
  obtain ⟨rest, there⟩ := List.head?_eq_some_iff.mp here
  have after : rest = cs.drop (n + 1) := by
    rw [← List.drop_drop, there, List.drop_one, List.tail_cons]
  rw [← after, ← there, List.take_append_drop]

/-- Characters with a hyphen in the four places, cut there. -/
theorem eq_groups {cs : List Char} (h₈ : (cs.drop 8).head? = some '-')
    (h₁₃ : (cs.drop 13).head? = some '-') (h₁₈ : (cs.drop 18).head? = some '-')
    (h₂₃ : (cs.drop 23).head? = some '-') :
    cs = cs.take 8 ++ '-' :: (cs.drop 9).take 4 ++ '-' :: (cs.drop 14).take 4
      ++ '-' :: (cs.drop 19).take 4 ++ '-' :: cs.drop 24 := by
  have second : cs.drop 9 = (cs.drop 9).take 4 ++ '-' :: cs.drop 14 := by
    rw [← List.drop_drop (i := 5) (j := 9)]
    exact eq_take_append_cons (by rwa [List.drop_drop])
  have third : cs.drop 14 = (cs.drop 14).take 4 ++ '-' :: cs.drop 19 := by
    rw [← List.drop_drop (i := 5) (j := 14)]
    exact eq_take_append_cons (by rwa [List.drop_drop])
  have fourth : cs.drop 19 = (cs.drop 19).take 4 ++ '-' :: cs.drop 24 := by
    rw [← List.drop_drop (i := 5) (j := 19)]
    exact eq_take_append_cons (by rwa [List.drop_drop])
  calc cs = cs.take 8 ++ '-' :: cs.drop 9 := eq_take_append_cons h₈
    _ = cs.take 8 ++ '-' :: ((cs.drop 9).take 4 ++ '-' :: ((cs.drop 14).take 4
          ++ '-' :: ((cs.drop 19).take 4 ++ '-' :: cs.drop 24))) := by
        rw [← fourth, ← third, ← second]
    _ = _ := by simp only [List.append_assoc, List.cons_append]

/-- What is read as five groups is written in five groups. -/
theorem ofHyphenated?_eq_some_iff {cs : List Char} {u : Uuid} :
    ofHyphenated? cs = some u ↔ Hyphenated cs u := by
  constructor
  · intro read
    unfold ofHyphenated? at read
    split at read
    · next shape =>
        obtain ⟨len, h₈, h₁₃, h₁₈, h₂₃⟩ := shape
        rw [eq_groups h₈ h₁₃ h₁₈ h₂₃]
        exact .groups (by simp [len]) (by simp [len]) (by simp [len]) (by simp [len])
          (ofDigits?_eq_some_iff.mp read)
    · cases read
  · intro written
    cases written with
    | groups ha hb hc hd digits =>
        rw [ofHyphenated?_groups ha hb hc hd (length_lastGroup ha hb hc hd digits),
          ofDigits?_eq_some_iff]
        exact digits

/-! ## The reader -/

theorem length_of_isUrnMark {mark : List Char} (isMark : isUrnMark mark = true) :
    mark.length = 9 := by
  have written := congrArg List.length (of_decide_eq_true isMark)
  simpa using written

/-- What stands between the first of 38 characters and the last. -/
theorem eq_braced {cs : List Char} {x y : Char} (len : cs.length = 38) (first : cs.head? = some x)
    (last : cs.getLast? = some y) : cs = x :: ((cs.drop 1).take 36 ++ [y]) := by
  obtain ⟨rest, rfl⟩ := List.head?_eq_some_iff.mp first
  obtain ⟨init, cut⟩ := List.getLast?_eq_some_iff.mp last
  cases init with
  | nil =>
      rw [cut] at len
      cases len
  | cons c init =>
      rw [List.cons_append] at cut
      obtain ⟨rfl, rfl⟩ := List.cons.inj cut
      have inner : init.length = 36 := by simpa using len
      rw [List.drop_one, List.tail_cons, List.take_left' inner]

theorem ofChars?_eq_some_iff {cs : List Char} {u : Uuid} :
    ofChars? cs = some u ↔ Denotes cs u := by
  constructor
  · intro read
    unfold ofChars? at read
    split at read
    · exact .plain (ofDigits?_eq_some_iff.mp read)
    · split at read
      · exact .hyphenated (ofHyphenated?_eq_some_iff.mp read)
      · split at read
        · next shape =>
            obtain ⟨len, first, last⟩ := shape
            rw [eq_braced len first last]
            exact .braced (ofHyphenated?_eq_some_iff.mp read)
        · split at read
          · next shape =>
              rw [← List.take_append_drop 9 cs]
              exact .urn shape.2 (ofHyphenated?_eq_some_iff.mp read)
          · cases read
  · intro written
    unfold ofChars?
    cases written with
    | plain digits =>
        rw [if_pos (digits.length.trans u.length_digits)]
        exact ofDigits?_eq_some_iff.mpr digits
    | hyphenated groups =>
        rw [if_neg (by rw [groups.length]; decide), if_pos groups.length]
        exact ofHyphenated?_eq_some_iff.mpr groups
    | @braced cs _ groups =>
        have inner := groups.length
        have len : ('\x7b' :: (cs ++ ['\x7d'])).length = 38 := by simp [inner]
        have last : ('\x7b' :: (cs ++ ['\x7d'])).getLast? = some '\x7d' := by
          rw [← List.cons_append, List.getLast?_concat]
        rw [if_neg (by rw [len]; decide), if_neg (by rw [len]; decide),
          if_pos ⟨len, rfl, last⟩, List.drop_one, List.tail_cons, List.take_left' inner]
        exact ofHyphenated?_eq_some_iff.mpr groups
    | @urn mark cs _ isMark groups =>
        have front := length_of_isUrnMark isMark
        have len : (mark ++ cs).length = 45 := by simp [front, groups.length]
        rw [if_neg (by rw [len]; decide), if_neg (by rw [len]; decide),
          if_neg (fun shape => absurd (len.symm.trans shape.1) (by decide)),
          List.take_left' front, List.drop_left' front,
          if_pos ⟨len, isMark⟩]
        exact ofHyphenated?_eq_some_iff.mpr groups

/-- A text is read as an identifier exactly if it is written in one of the four forms. -/
theorem parse?_eq_some_iff {s : String} {u : Uuid} :
    parse? s = some u ↔ Denotes s.toList u :=
  ofChars?_eq_some_iff

theorem parse?_eq_none_iff {s : String} : parse? s = none ↔ ∀ u, ¬ Denotes s.toList u := by
  simp only [Option.eq_none_iff_forall_ne_some, ne_eq, parse?_eq_some_iff]

end StudyHall.Uuid
