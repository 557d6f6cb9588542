import StudyHall.Log.Directive
import StudyHall.Proofs.Domain.Failure
import StudyHall.Proofs.Text.CodeCase
import StudyHall.Proofs.Text.Numeral
import StudyHall.Proofs.Text.Pieces

/-!
# Reading a directive

The signs of a directive are looked for in the text without the blanks around it, and its parts are
cut out of the text with them. If no blank is in front then both begin at the same place, and every
cut is made where a sign was found. So none is made within a character, and the reading ends with a
directive or a refusal.

## Main results

* `splitAtByte?_append` — a text is cut where two parts of it meet.
* `Directive.failsBy_parse` — a text without a blank in front is a directive or refused.
* `Directive.target_of_parse` — the target of a directive that has a level.
-/

namespace StudyHall.Log

open Text

/-! ## Cutting by bytes -/

theorem byteCount_cons (c : Char) (cs : List Char) :
    byteCount (c :: cs) = c.utf8Size + byteCount cs := by
  have shift (ds : List Char) (n : Nat) :
      ds.foldl (fun n d => n + d.utf8Size) n = n + byteCount ds := by
    unfold byteCount
    induction ds generalizing n with
    | nil => rfl
    | cons d ds ih =>
        rw [List.foldl_cons, List.foldl_cons, ih, ih (0 + d.utf8Size)]
        omega
  rw [byteCount, List.foldl_cons, shift, Nat.zero_add]

theorem byteCount_append (a b : List Char) : byteCount (a ++ b) = byteCount a + byteCount b := by
  induction a with
  | nil =>
      show byteCount b = 0 + byteCount b
      rw [Nat.zero_add]
  | cons c a ih =>
      rw [List.cons_append, byteCount_cons, byteCount_cons, ih]
      omega

/-- A text is cut where two parts of it meet. -/
theorem splitAtByte?_append (a b : List Char) :
    splitAtByte? (byteCount a) (a ++ b) = some (a, b) := by
  induction a with
  | nil => cases b <;> rfl
  | cons c a ih =>
      have positive := c.utf8Size_pos
      rw [byteCount_cons, List.cons_append, splitAtByte?, if_neg (by omega), if_neg (by omega),
        Nat.add_sub_cancel_left, ih]
      rfl

/-- Whether characters are what is left of a text from a distance on. -/
def LeftAt (text : List Char) (start : Nat) (rest : List Char) : Prop :=
  ∃ front, text = front ++ rest ∧ byteCount front = start

namespace LeftAt

variable {text a b rest : List Char} {start : Nat} {c : Char}

theorem whole (text : List Char) : LeftAt text 0 text :=
  ⟨[], rfl, rfl⟩

theorem skip (left : LeftAt text start (a ++ b)) : LeftAt text (start + byteCount a) b := by
  obtain ⟨front, rfl, rfl⟩ := left
  exact ⟨front ++ a, (List.append_assoc ..).symm, byteCount_append ..⟩

/-- A sign is one byte long. -/
theorem skip_sign (left : LeftAt text start (c :: rest)) (sign : c.utf8Size = 1) :
    LeftAt text (start + 1) rest := by
  have single : byteCount [c] = 1 := by rw [byteCount_cons, sign]; rfl
  have skipped : LeftAt text (start + byteCount [c]) rest :=
    skip (show LeftAt text start ([c] ++ rest) from left)
  rwa [single] at skipped

theorem cut_rest (left : LeftAt text start rest) : cut text start none = .ok rest := by
  obtain ⟨front, rfl, rfl⟩ := left
  simp only [cut, splitAtByte?_append]

theorem cut_part (left : LeftAt text start (a ++ b)) :
    cut text start (some (byteCount a)) = .ok a := by
  obtain ⟨front, rfl, rfl⟩ := left
  simp only [cut, splitAtByte?_append]

end LeftAt

/-! ## Directives without a blank in front -/

namespace Directive

/-- Whether a failure is a refusal of the text. -/
def IsRefusal (fault : Fault DirectiveFault) : Prop :=
  ∃ cause, fault = .refused cause

theorem isRefusal_refused (cause : DirectiveFault) : IsRefusal (.refused cause) :=
  ⟨cause, rfl⟩

variable {text after : List Char} {start : Nat} {d : Directive}

theorem failsBy_readVerbosity {rest : List Char} (left : LeftAt text start rest) :
    FailsBy IsRefusal (readVerbosity text start) := by
  unfold readVerbosity
  rw [left.cut_rest]
  refine FailsBy.bind (.ok rest) fun word => ?_
  split
  · exact .ok _
  · exact .ok _
  · exact .error (isRefusal_refused _)

theorem failsBy_readBehind {cs : List Char} (left : LeftAt text start (cs ++ after)) :
    FailsBy IsRefusal (readBehind text d start cs) := by
  unfold readBehind
  split
  · exact .ok _
  · exact FailsBy.map (failsBy_readVerbosity (left.skip_sign (by decide)))
  · exact .error (isRefusal_refused _)

/-- What a scan stops at, with what it has passed. -/
theorem exists_stop {p : Char → Bool} {cs rest : List Char} {c : Char}
    (stopped : cs.dropWhile p = c :: rest) :
    cs = cs.takeWhile p ++ c :: rest ∧ p c = false := by
  constructor
  · rw [← stopped, List.takeWhile_append_dropWhile]
  · have first := List.head?_dropWhile_not p cs
    rw [stopped] at first
    simpa using first

theorem failsBy_readField {cs : List Char} (left : LeftAt text start (cs ++ after)) :
    FailsBy IsRefusal (readField text d start cs) := by
  unfold readField
  split
  · exact .error (isRefusal_refused _)
  · next c rest stopped =>
      obtain ⟨parts, closing⟩ := exists_stop stopped
      have brace : c = '\x7d' := by simpa using closing
      rw [parts, List.append_assoc] at left
      refine FailsBy.bind (by rw [left.cut_part]; exact .ok _) fun field => ?_
      split
      · exact .error (isRefusal_refused _)
      · exact .error (isRefusal_refused _)
      · next rest' =>
          have behind := (left.skip.skip_sign (by rw [brace]; decide)).skip_sign (by decide)
          exact failsBy_readBehind behind
      · exact .error (isRefusal_refused _)

theorem failsBy_readSpan {target : Option (List Char)} {cs : List Char}
    (left : LeftAt text start (cs ++ after)) :
    FailsBy IsRefusal (readSpan text target start cs) := by
  unfold readSpan
  split
  · exact .error (isRefusal_refused _)
  · next c rest stopped =>
      obtain ⟨parts, closing⟩ := exists_stop stopped
      have sign : c = ']' ∨ c = '\x7b' := by
        by_cases bracket : c = ']'
        · exact .inl bracket
        · simpa [bracket] using closing
      rw [parts, List.append_assoc] at left
      have behind := left.skip.skip_sign (by rcases sign with rfl | rfl <;> decide)
      refine FailsBy.bind (by rw [left.cut_part]; exact .ok _) fun name => ?_
      split
      · exact failsBy_readBehind behind
      · exact failsBy_readField behind

theorem failsBy_readWord {cs : List Char} (whole : text = cs ++ after) :
    FailsBy IsRefusal (readWord text cs) := by
  unfold readWord
  split
  · split
    · exact .ok _
    · exact .ok _
  · next c rest stopped =>
      obtain ⟨parts, closing⟩ := exists_stop stopped
      have sign : c = '=' ∨ c = '[' := by
        by_cases equals : c = '='
        · exact .inl equals
        · simpa [isWordChar, equals] using closing
      have left : LeftAt text 0 (cs ++ after) := whole ▸ LeftAt.whole text
      rw [parts, List.append_assoc] at left
      have behind := left.skip.skip_sign (by rcases sign with rfl | rfl <;> decide)
      rw [Nat.zero_add] at behind
      refine FailsBy.bind (by rw [left.cut_part]; exact .ok _) fun target => ?_
      split
      · exact FailsBy.map (failsBy_readVerbosity behind)
      · exact failsBy_readSpan behind

/-- A text without a blank in front goes on with blanks behind what trimming leaves of it. -/
theorem exists_blanks_behind (first : ∀ c ∈ text.head?, isBlank c = false) :
    ∃ after, text = trimChars text ++ after ∧ ∀ c ∈ after, isBlank c = true := by
  obtain ⟨before, after, parts, front, back, -⟩ := exists_blanks_around text
  cases before with
  | nil => exact ⟨after, parts, back⟩
  | cons c before =>
      have visible : isBlank c = false := first c (by rw [parts]; rfl)
      rw [front c List.mem_cons_self] at visible
      cases visible

/-- A text without a blank in front is a directive or refused. -/
theorem failsBy_parse (first : ∀ c ∈ text.head?, isBlank c = false) :
    FailsBy IsRefusal (parse text) := by
  obtain ⟨after, parts, -⟩ := exists_blanks_behind first
  unfold parse
  split
  · exact .error (isRefusal_refused _)
  · next rest trimmed =>
      have left : LeftAt text 0 ('[' :: (rest ++ after)) := by
        rw [trimmed] at parts
        exact parts ▸ LeftAt.whole text
      exact failsBy_readSpan (left.skip_sign (by decide))
  · next c cs _ trimmed =>
      split
      · exact failsBy_readWord (by rw [← trimmed]; exact parts)
      · exact .error (isRefusal_refused _)

/-- A text that begins a target is read as a word. -/
theorem parse_of_start {c : Char} {cs : List Char} (starts : isTargetStart c = true)
    (trimmed : trimChars text = c :: cs) : parse text = readWord text (c :: cs) := by
  have bracket : c ≠ '[' := by
    rintro rfl
    exact absurd starts (by decide +kernel)
  rw [parse, trimmed]
  split
  · next nothing => cases nothing
  · next other => exact absurd (List.cons.inj other).1 bracket
  · next same =>
      obtain ⟨rfl, rfl⟩ := List.cons.inj same
      rw [if_pos starts]

/-- Trimming leaves an equals sign of a text and what stands in front of it. -/
theorem exists_trimmed_equals {name rest : List Char}
    (first : ∀ c ∈ (name ++ '=' :: rest).head?, isBlank c = false) :
    ∃ r, trimChars (name ++ '=' :: rest) = name ++ '=' :: r := by
  obtain ⟨after, parts, blank⟩ := exists_blanks_behind first
  have visible : '=' ∉ after := fun mem => absurd (blank _ mem) (by decide)
  obtain ⟨more, trimmed, rests⟩ | ⟨more, -, rests⟩ := List.append_eq_append_iff.mp parts
  · cases more with
    | nil =>
        rw [List.nil_append] at rests
        exact absurd (rests ▸ List.mem_cons_self) visible
    | cons c r =>
        obtain ⟨rfl, -⟩ := List.cons.inj rests
        exact ⟨r, trimmed⟩
  · exact absurd (rests ▸ List.mem_append_right _ List.mem_cons_self) visible

/-- A text that begins with a visible character before an equals sign has no blank in front. -/
theorem visible_head {name rest : List Char} {c : Char} (begins : name.head? = some c)
    (visible : isBlank c = false) : ∀ d ∈ (name ++ '=' :: rest).head?, isBlank d = false := by
  intro d first
  rw [List.head?_append, begins] at first
  obtain rfl : c = d := Option.some.inj first
  exact visible

/-- The target of a directive that has a level is what stands in front of the first equals sign. -/
theorem target_of_parse {name rest : List Char} {c : Char} (begins : name.head? = some c)
    (starts : isTargetStart c = true) (visible : isBlank c = false)
    (plain : ∀ c ∈ name, isWordChar c = true) (read : parse (name ++ '=' :: rest) = .ok d) :
    d.target = some name := by
  have first : ∀ d ∈ (name ++ '=' :: rest).head?, isBlank d = false := visible_head begins visible
  obtain ⟨r, trimmed⟩ := exists_trimmed_equals first
  obtain ⟨cs, rfl⟩ := List.head?_eq_some_iff.mp begins
  have ends : ('=' :: r).takeWhile isWordChar = [] ∧ ('=' :: r).dropWhile isWordChar = '=' :: r :=
    ⟨rfl, rfl⟩
  have taken : (c :: cs ++ '=' :: r).takeWhile isWordChar = c :: cs := by
    rw [List.takeWhile_append_of_pos plain, ends.1, List.append_nil]
  have left : (c :: cs ++ '=' :: r).dropWhile isWordChar = '=' :: r := by
    rw [List.dropWhile_append_of_pos plain, ends.2]
  have word : readWord (c :: cs ++ '=' :: rest) (c :: cs ++ '=' :: r) = .ok d := by
    rwa [parse_of_start starts trimmed] at read
  have whole : LeftAt (c :: cs ++ '=' :: rest) 0 (c :: cs ++ '=' :: rest) := .whole _
  rw [readWord, taken, left] at word
  simp only [whole.cut_part] at word
  obtain ⟨v, -, made⟩ := map_eq_ok_iff.mp word
  rw [made]

end Directive

/-! ## Words for levels -/

/-- Whether a character can stand in a word for a level that has no plus sign. -/
def IsLevelChar (c : Char) : Prop :=
  isDigit c = true ∨ 'a' ≤ asciiLowerChar c ∧ asciiLowerChar c ≤ 'z'

instance (c : Char) : Decidable (IsLevelChar c) := by
  unfold IsLevelChar
  infer_instance

namespace IsLevelChar

variable {c : Char}

theorem small (own : IsLevelChar c) : c.toNat < 0x80 := by
  by_contra large
  rcases own with digit | ⟨-, last⟩
  · simp only [isDigit, Bool.and_eq_true, decide_eq_true_eq] at digit
    have bound : c.toNat ≤ 0x39 := digit.2
    omega
  · rw [asciiLowerChar_of_large (by omega)] at last
    have bound : c.toNat ≤ 0x7a := last
    omega

/-- Such a character begins targets, and is none of the signs between directives and their parts. -/
theorem plain (own : IsLevelChar c) :
    Directive.isTargetStart c = true ∧ Directive.isWordChar c = true ∧ isBlank c = false
      ∧ c ≠ ',' := by
  have table : ∀ n ∈ List.range 0x80, IsLevelChar (Char.ofNat n) →
      Directive.isTargetStart (Char.ofNat n) = true
        ∧ Directive.isWordChar (Char.ofNat n) = true ∧ isBlank (Char.ofNat n) = false
        ∧ Char.ofNat n ≠ ',' := by
    decide +kernel
  have known := table c.toNat (List.mem_range.mpr own.small)
  rw [Char.ofNat_toNat] at known
  exact known own

end IsLevelChar

/-- A word for a level that has no plus sign in front. -/
structure NamesLevel (cs : List Char) (v : Verbosity) : Prop where
  names : verbosity? cs = some v
  signless : cs.head? ≠ some '+'

namespace NamesLevel

variable {cs : List Char} {v : Verbosity}

/-- A word that is no number is, in small letters, the name of a level or the word for none. -/
theorem exists_name {word : String}
    (names : (if word = "off" then some 0
      else (Level.all.find? fun l => l.code == word).map Level.rank) = some v) :
    ∃ name ∈ "off" :: Level.all.map Level.code, word = name := by
  by_cases off : word = "off"
  · exact ⟨"off", List.mem_cons_self, off⟩
  · rw [if_neg off] at names
    obtain ⟨l, found, -⟩ := Option.map_eq_some_iff.mp names
    have code : l.code = word := beq_iff_eq.mp (by simpa using List.find?_some found)
    have mem : l.code ∈ Level.all.map Level.code :=
      List.mem_map_of_mem (List.mem_of_find?_eq_some found)
    exact ⟨l.code, List.mem_cons_of_mem _ mem, code.symm⟩

theorem chars (own : NamesLevel cs v) : cs ≠ [] ∧ ∀ c ∈ cs, IsLevelChar c := by
  have names := own.names
  unfold verbosity? at names
  split at names
  · next n numeral =>
      rcases (readUnsigned_eq_ok_iff.mp numeral).1 with spelt | _
      · exact ⟨spelt.nonempty, fun c mem => .inl (spelt.digits c mem)⟩
      · exact absurd rfl own.signless
  · have letters : ∀ name ∈ "off" :: Level.all.map Level.code,
        name.toList ≠ [] ∧ (name.toList.all fun d => decide ('a' ≤ d ∧ d ≤ 'z')) = true := by
      decide
    obtain ⟨name, mem, same⟩ := exists_name names
    obtain ⟨filled, checked⟩ := letters name mem
    have small := forall_mem_of_all checked
    rw [← same, String.toList_ofList] at filled small
    constructor
    · rintro rfl
      exact filled rfl
    · exact fun c mem => .inr (small _ (List.mem_map_of_mem mem))

/-- Such a word is a directive for everything. -/
theorem parse_eq (own : NamesLevel cs v) :
    Directive.parse cs = .ok ⟨none, false, none, v⟩ := by
  obtain ⟨filled, chars⟩ := own.chars
  have visible : ∀ c ∈ cs, isBlank c = false := fun c mem => (chars c mem).plain.2.2.1
  have word : ∀ c ∈ cs, Directive.isWordChar c = true := fun c mem => (chars c mem).plain.2.1
  have nothing : cs.dropWhile Directive.isWordChar = [] := List.dropWhile_eq_nil_iff.mpr word
  obtain ⟨c, rest, rfl⟩ := List.exists_cons_of_ne_nil filled
  have starts : Directive.isTargetStart c = true := (chars c List.mem_cons_self).plain.1
  rw [Directive.parse_of_start starts (trimChars_of_trimmed (.of_visible visible)),
    Directive.readWord, nothing]
  simp only [own.names]

end NamesLevel

end StudyHall.Log
