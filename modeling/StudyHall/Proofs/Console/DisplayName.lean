import StudyHall.Console.Directory
import StudyHall.Proofs.Text.SmallForms
import StudyHall.Proofs.Text.Words

/-!
# The names of the first operator

The settings give the first operator one name for display. The directory needs three: a user name, a
first name and a last name. Each of them is brought into a normal form, and what is in that form
already stays as it is.

A user name in normal form is in lower case, has no space and no two underscores in a row. The pairs
of underscores are replaced from the left, and what is put in is not looked at again. So of three
underscores the last one stays; but no second one can follow it, since the two would have been
replaced. And what is put in is a dot, neither a capital nor half a pair, so that the replacement
undoes nothing of what was reached before.

A first name in normal form is a word, and a last name is single-spaced. A display name that has any
words keeps them all, in their order.

## Main results

* `replacePair_of_apart`, `not_pair_infix_replacePair` — pairs that are replaced, and that none is
  left.
* `slugify_eq_self_iff`, `slugify_slugify` — the normal form of user names.
* `words_splitName`, `IsFullName.splitName_joined` — no word is lost, and the two names are found
  again.
* `Directory.seeded_names_in_normal_form` — all this of the operator in a new directory.
-/

namespace StudyHall

open Text

/-! ## Replacing pairs -/

namespace Text

section Replacing

variable {a b r : Char}

theorem mem_replacePair {c : Char} {cs : List Char} (mem : c ∈ replacePair a b r cs) :
    c = r ∨ c ∈ cs := by
  induction cs using replacePair.induct a b with
  | case1 => cases mem
  | case2 d => exact .inr mem
  | case3 d e cs pair ih =>
      rw [replacePair, if_pos pair] at mem
      rcases List.mem_cons.mp mem with new | later
      · exact .inl new
      · exact (ih later).imp_right fun old => List.mem_cons_of_mem d (List.mem_cons_of_mem e old)
  | case4 d e cs other ih =>
      rw [replacePair, if_neg other] at mem
      rcases List.mem_cons.mp mem with here | later
      · exact .inr (List.mem_cons.mpr (.inl here))
      · exact (ih later).imp_right (List.mem_cons_of_mem d)

/-- Where there is no pair, nothing is replaced. -/
theorem replacePair_of_apart {cs : List Char} (apart : ¬ [a, b] <:+: cs) :
    replacePair a b r cs = cs := by
  induction cs using replacePair.induct a b with
  | case1 => rfl
  | case2 d => rfl
  | case3 d e cs pair ih =>
      rw [pair_infix_cons_iff, not_or] at apart
      exact absurd ⟨pair.1, congrArg some pair.2⟩ apart.1
  | case4 d e cs other ih =>
      rw [pair_infix_cons_iff, not_or] at apart
      rw [replacePair, if_neg other, ih apart.2]

/-- What a replacement begins with is new, or stood there before. -/
theorem head_of_replacePair (other : r ≠ a) {d : Char} {cs : List Char}
    (head : (replacePair a b r (d :: cs)).head? = some a) : d = a := by
  cases cs with
  | nil => exact Option.some.inj head
  | cons e cs =>
      rw [replacePair] at head
      split at head
      · exact absurd (Option.some.inj head) other
      · exact Option.some.inj head

/-- No pair of equal characters is left. -/
theorem not_pair_infix_replacePair (other : r ≠ a) (cs : List Char) :
    ¬ [a, a] <:+: replacePair a a r cs := by
  induction cs using replacePair.induct a a with
  | case1 => simp [replacePair]
  | case2 d => simp [replacePair, pair_infix_cons_iff]
  | case3 d e cs pair ih =>
      rw [replacePair, if_pos pair, pair_infix_cons_iff]
      rintro (⟨same, -⟩ | later)
      · exact other same
      · exact ih later
  | case4 d e cs apart ih =>
      rw [replacePair, if_neg apart, pair_infix_cons_iff]
      rintro (⟨first, second⟩ | later)
      · exact apart ⟨first, head_of_replacePair other second⟩
      · exact ih later

end Replacing

end Text

/-! ## User names -/

/-- A user name in normal form: in lower case, without spaces and without two underscores in a
row. -/
structure IsSlug (cs : List Char) : Prop where
  small : ∀ c ∈ cs, IsSmall c
  solid : ' ' ∉ cs
  apart : ¬ ['_', '_'] <:+: cs

theorem isSlug_slugify (full : String) : IsSlug (slugify full).toList := by
  rw [slugify, String.toList_ofList]
  refine ⟨fun c mem => ?_, fun mem => ?_, not_pair_infix_replacePair (by decide) _⟩
  · rcases mem_replacePair mem with rfl | small
    · decide +kernel
    · exact isSmall_of_mem_lowerFrom small
  · rcases mem_replacePair mem with dot | small
    · cases dot
    · -- No blank is brought in by lower-casing, and all spaces were replaced before it.
      have kept := mem_of_mem_lowerFrom_of_isBlank (by decide) small
      obtain ⟨c, -, space⟩ := List.mem_map.mp kept
      split at space
      · cases space
      · next other => exact other space

theorem IsSlug.slugify_eq {s : String} (slug : IsSlug s.toList) : slugify s = s := by
  have kept : ∀ c ∈ s.toList, (if c = ' ' then '.' else c) = id c := by
    intro c mem
    refine if_neg fun space => slug.solid ?_
    rwa [space] at mem
  have dotted : (s.toList.map fun c => if c = ' ' then '.' else c) = s.toList := by
    rw [List.map_congr_left kept, List.map_id]
  rw [slugify, dotted, lowerChars_eq_self_iff.mpr slug.small, replacePair_of_apart slug.apart,
    String.ofList_toList]

/-- What is derived as a user name, and nothing else, is its own user name. -/
theorem slugify_eq_self_iff {s : String} : slugify s = s ↔ IsSlug s.toList := by
  constructor
  · intro same
    rw [← same]
    exact isSlug_slugify s
  · exact IsSlug.slugify_eq

theorem slugify_slugify (full : String) : slugify (slugify full) = slugify full :=
  (isSlug_slugify full).slugify_eq

/-! ## First and last names -/

/-- A first and a last name in normal form. -/
structure IsFullName (first last : String) : Prop where
  first : IsWord first.toList
  last : SingleSpaced last.toList

theorem splitName_of_words {full : String} {first : List Char} {others : List (List Char)}
    (words : wordsOf full.toList = first :: others) :
    splitName full = (String.ofList first, String.ofList (joinWith [' '] others)) := by
  rw [splitName, words]

theorem splitName_of_none {full : String} (none : wordsOf full.toList = []) :
    splitName full = ("Admin", "User") := by
  rw [splitName, none]

theorem isFullName_splitName (full : String) :
    IsFullName (splitName full).1 (splitName full).2 := by
  cases found : wordsOf full.toList with
  | nil =>
      rw [splitName_of_none found]
      exact ⟨⟨by decide, forall_mem_of_all (by decide)⟩,
        .of_visible (forall_mem_of_all (by decide))⟩
  | cons first others =>
      obtain ⟨word, rest⟩ := isWord_of_wordsOf_eq_cons found
      rw [splitName_of_words found]
      refine ⟨by rwa [String.toList_ofList], ?_⟩
      rw [String.toList_ofList]
      exact singleSpaced_joinWith rest

/-- The words of a name are those of its first and of its last name. -/
theorem words_splitName {full : String} (some : words full ≠ []) :
    words (splitName full).1 ++ words (splitName full).2 = words full := by
  cases found : wordsOf full.toList with
  | nil => exact absurd (by rw [words, found]; rfl) some
  | cons first others =>
      obtain ⟨word, rest⟩ := isWord_of_wordsOf_eq_cons found
      rw [splitName_of_words found]
      simp only [words, String.toList_ofList, wordsOf_word word, wordsOf_joinWith rest, found,
        List.map_cons, List.map_nil, List.singleton_append]

section Joined

variable {first last : String}

theorem splitName_of_word (word : IsWord first.toList) : splitName first = (first, "") := by
  rw [splitName_of_words (wordsOf_word word), String.ofList_toList]
  rfl

/-- A first and a last name are found again in the whole name. -/
theorem IsFullName.splitName_joined (name : IsFullName first last) :
    splitName (first ++ " " ++ last) = (first, last) := by
  have found : wordsOf (first ++ " " ++ last).toList = first.toList :: wordsOf last.toList := by
    have whole : (first ++ " " ++ last).toList = first.toList ++ ' ' :: last.toList := by
      simp [String.toList_append]
    rw [whole, wordsOf_append_blank (by decide), wordsOf_word name.first, List.singleton_append]
  rw [splitName_of_words found, name.last.joinWith_wordsOf, String.ofList_toList,
    String.ofList_toList]

end Joined

/-! ## The first operator -/

/-- The names of the first operator are derived from the name for display, whatever that is, and
they are in normal form. The user name has no space, no two underscores in a row, and is its own
user name. The first name is a word and the last name is single-spaced. If the name for display has
any words, these are the words of the first and then of the last name. The two joined by a space
give the same two names again, and so does the first one alone where there is no last one. -/
theorem Directory.seeded_names_in_normal_form (p : AdminProfile) :
    let name := p.displayName
    let slug := slugify name
    let first := (splitName name).1
    let last := (splitName name).2
    ((Directory.seeded p).operators.map fun o => (o.username, o.firstName, o.lastName))
        = [(slug, first, last)]
      ∧ ' ' ∉ slug.toList
      ∧ ¬ ['_', '_'] <:+: slug.toList
      ∧ slugify slug = slug
      ∧ first ≠ ""
      ∧ (∀ c ∈ first.toList, isBlank c = false)
      ∧ SingleSpaced last.toList
      ∧ (words name ≠ [] → words first ++ words last = words name)
      ∧ splitName (first ++ " " ++ last) = (first, last)
      ∧ (last = "" → splitName first = (first, last)) := by
  intro name slug first last
  have normal : IsSlug slug.toList := isSlug_slugify name
  have names : IsFullName first last := isFullName_splitName name
  refine ⟨rfl, normal.solid, normal.apart, normal.slugify_eq, fun nothing => ?_,
    names.first.visible, names.last, words_splitName, names.splitName_joined, fun alone => ?_⟩
  · exact names.first.ne_nil (by rw [nothing]; rfl)
  · rw [splitName_of_word names.first, alone]

theorem Directory.seeded_names_in_normal_form_sample :
    let p : AdminProfile :=
      ⟨.ofNat 7, "\u3000Ada  King\u00a0DE__LOVELACE ", "ada@x", .superAdmin, .jee, .epoch, []⟩
    let root : AdminProfile := { p with displayName := " Root" }
    words p.displayName = ["Ada", "King", "DE__LOVELACE"]
      ∧ splitName p.displayName = ("Ada", "King DE__LOVELACE")
      ∧ slugify p.displayName = "\u3000ada..king\u00a0de.lovelace."
      ∧ words (splitName p.displayName).1 ++ words (splitName p.displayName).2
          = words p.displayName
      ∧ splitName root.displayName = ("Root", "")
      ∧ splitName (splitName root.displayName).1 = splitName root.displayName := by
  intro p root
  have found : words p.displayName = ["Ada", "King", "DE__LOVELACE"] := by decide +kernel
  have alone : splitName root.displayName = ("Root", "") := by decide +kernel
  obtain ⟨-, -, -, -, -, -, -, kept, -, -⟩ := Directory.seeded_names_in_normal_form p
  obtain ⟨-, -, -, -, -, -, -, -, -, again⟩ := Directory.seeded_names_in_normal_form root
  have some : words p.displayName ≠ [] := by
    rw [found]
    exact List.cons_ne_nil _ _
  exact ⟨found, by decide +kernel, by decide +kernel, kept some, alone, again (by rw [alone])⟩

end StudyHall
