import StudyHall.Proofs.Domain.Code
import StudyHall.Proofs.Text.CodeCase
import StudyHall.Proofs.Wire.Name

/-!
# Vocabularies

Exams, roles, states, metrics and windows each have a closed set of names, which is kept in three
tables: the codes that are shown, the names in documents, which are made of identifiers, and the
names that are known once a text is trimmed and folded. The reader of documents takes its names as
they are written; the reader of what people write passes over blanks and the case of ASCII letters
and knows some names besides. That the three agree is shown here. Some codes are in capitals and are
compared in capitals, the others in small letters; since no letter beyond ASCII is touched, this
makes no difference to which texts spell a name.

## Main results

* `asciiUpper_eq_iff` — texts agree in capitals exactly if they agree in small letters.
* `Vocabulary.consistent_of_reader` — it is enough to know which names the reader of texts finds.
* `vocabularies_consistent` — the six sets of names.
-/

namespace StudyHall

open Text

/-! ## The case of ASCII letters -/

namespace Text

theorem asciiUpperChar_of_large {c : Char} (large : 0x7b ≤ c.toNat) : asciiUpperChar c = c := by
  unfold asciiUpperChar
  rw [if_neg]
  intro small
  have last : c.toNat ≤ 0x7a := small.2
  omega

/-- Whether a character is put into one case or into the other first makes no difference. -/
theorem ascii_folds (c : Char) :
    asciiLowerChar (asciiUpperChar c) = asciiLowerChar c
      ∧ asciiUpperChar (asciiLowerChar c) = asciiUpperChar c := by
  by_cases ascii : c.toNat < 0x80
  · have table : ∀ n ∈ List.range 0x80,
        asciiLowerChar (asciiUpperChar (Char.ofNat n)) = asciiLowerChar (Char.ofNat n)
          ∧ asciiUpperChar (asciiLowerChar (Char.ofNat n)) = asciiUpperChar (Char.ofNat n) := by
      decide +kernel
    have own := table c.toNat (List.mem_range.mpr ascii)
    rwa [Char.ofNat_toNat] at own
  · rw [asciiUpperChar_of_large (by omega), asciiLowerChar_of_large (by omega),
      asciiUpperChar_of_large (by omega)]
    exact ⟨rfl, rfl⟩

theorem asciiLower_asciiUpper (s : String) : asciiLower (asciiUpper s) = asciiLower s := by
  simp only [asciiLower, asciiUpper, String.toList_ofList, List.map_map, Function.comp_def,
    ascii_folds]

theorem asciiUpper_asciiLower (s : String) : asciiUpper (asciiLower s) = asciiUpper s := by
  simp only [asciiLower, asciiUpper, String.toList_ofList, List.map_map, Function.comp_def,
    ascii_folds]

/-- Texts agree in capitals exactly if they agree in small letters. -/
theorem asciiUpper_eq_iff {s t : String} :
    asciiUpper s = asciiUpper t ↔ asciiLower s = asciiLower t := by
  constructor
  · intro same
    rw [← asciiLower_asciiUpper s, same, asciiLower_asciiUpper]
  · intro same
    rw [← asciiUpper_asciiLower s, same, asciiUpper_asciiLower]

theorem asciiUpper_eq_capitals_iff {s t : String} (capitals : asciiUpper t = t) :
    asciiUpper s = t ↔ asciiLower s = asciiLower t := by
  rw [← asciiUpper_eq_iff, capitals]

end Text

/-! ## Vocabularies -/

/-- A closed set of names: the code of each value, what it is called besides, the two readers, how
it is written in JSON, and how a text that is refused is reported. -/
structure Vocabulary (α ε : Type) where
  code : α → String
  aliases : List (String × α)
  parse : String → Except ε α
  ofJson? : Json → Option α
  toJson : α → Json
  message : ε → String

namespace Vocabulary

variable {α ε : Type} {v : Vocabulary α ε}

/-- A name of a value: its code or another name. -/
def Names (v : Vocabulary α ε) (name : String) (a : α) : Prop :=
  name = v.code a ∨ (name, a) ∈ v.aliases

/-- A text spells a value if it is one of its names, but for blanks around the text and the case of
ASCII letters. -/
def Spells (v : Vocabulary α ε) (text : String) (a : α) : Prop :=
  ∃ name, v.Names name a ∧ asciiLower (trim text) = asciiLower name

/-- Whether the readers of a vocabulary agree with each other and with what is written. -/
structure Consistent (v : Vocabulary α ε) : Prop where
  /-- The names that are read from JSON are the codes. -/
  coded : ∀ (j : Json) (a : α), v.ofJson? j = some a ↔ j.name? = some (v.code a)
  /-- A name that is read from JSON is read from the text, as the same value. -/
  decoded : ∀ (j : Json) (name : String) (a : α), j.name? = some name → v.ofJson? j = some a →
    v.parse name = .ok a
  /-- A text is read as the value that it spells. -/
  read : ∀ (text : String) (a : α), v.parse text = .ok a ↔ v.Spells text a
  /-- No name is a name of two values, whatever the case of its letters. -/
  apart : ∀ (m n : String) (a b : α), v.Names m a → v.Names n b → asciiLower m = asciiLower n →
    a = b
  /-- What is written for a value is read as that value by both readers. -/
  written : ∀ a, v.parse (v.code a) = .ok a ∧ v.toJson a = .text (v.code a)
    ∧ v.ofJson? (v.toJson a) = some a

/-- Whether all texts that are read as no value are reported in a certain way. -/
def Reports (v : Vocabulary α ε) (report : String → String) : Prop :=
  ∀ text, (∀ a, ¬ v.Spells text a) → ∃ e, v.parse text = .error e ∧ v.message e = report text

/-- It is enough to know which names the reader of texts finds, and that the names in documents lead
to their values and are the codes. -/
theorem consistent_of_reader {values : List α} {wireName : α → String}
    (read : ∀ text a, v.parse text = .ok a ↔ v.Spells text a)
    (codes : ∀ a, (v.code a).toList.any isBlank = false)
    (others : ∀ p ∈ v.aliases, p.1.toList.any isBlank = false)
    (own : ∀ a, byName? values wireName (wireName a) = some a)
    (same : ∀ a, wireName a = v.code a)
    (json : v.ofJson? = Json.code? (byName? values wireName))
    (text : ∀ a, v.toJson a = .text (wireName a)) : v.Consistent := by
  have plain {name : String} {a : α} (own : v.Names name a) : trim name = name := by
    rcases own with rfl | other
    · exact trim_of_visible (codes a)
    · exact trim_of_visible (others (name, a) other)
  have named {name : String} {a : α} (own : v.Names name a) : v.parse name = .ok a :=
    (read name a).mpr ⟨name, own, by rw [plain own]⟩
  have single (j : Json) (a : α) : v.ofJson? j = some a ↔ j.name? = some (v.code a) := by
    rw [json, Json.code?_byName?_eq_some_iff own, same]
  refine ⟨single, ?decoded, read, ?apart, ?written⟩
  case decoded =>
    intro j name a known found
    obtain rfl : name = v.code a := Option.some.inj (known.symm.trans ((single j a).mp found))
    exact named (.inl rfl)
  case apart =>
    intro m n a b first second alike
    have other : v.parse m = .ok b := (read m b).mpr ⟨n, second, by rw [plain first, alike]⟩
    exact Except.ok.inj ((named first).symm.trans other)
  case written =>
    intro a
    have shown : v.toJson a = .text (v.code a) := by rw [text, same]
    refine ⟨named (.inl rfl), shown, (single _ a).mpr ?_⟩
    rw [shown]
    rfl

/-- A text that spells no value is refused, so it is enough to know how refused texts are
reported. -/
theorem reports_of_refused {report : String → String}
    (read : ∀ text a, v.parse text = .ok a ↔ v.Spells text a)
    (refused : ∀ text e, v.parse text = .error e → v.message e = report text) :
    v.Reports report := by
  intro text none
  cases result : v.parse text with
  | ok a => exact absurd ((read text a).mp result) (none a)
  | error e => exact ⟨e, rfl, refused text e result⟩

theorem spells_iff {text : String} {a : α} :
    v.Spells text a ↔ asciiLower (trim text) = asciiLower (v.code a)
      ∨ ∃ name, (name, a) ∈ v.aliases ∧ asciiLower (trim text) = asciiLower name := by
  unfold Spells Names
  constructor
  · rintro ⟨name, rfl | other, spelt⟩
    · exact .inl spelt
    · exact .inr ⟨name, other, spelt⟩
  · rintro (spelt | ⟨name, other, spelt⟩)
    · exact ⟨v.code a, .inl rfl, spelt⟩
    · exact ⟨name, .inr other, spelt⟩

end Vocabulary

/-! ## Six vocabularies -/

/-- The names of exams. -/
def Exam.vocabulary : Vocabulary Exam UnknownCode :=
  ⟨Exam.code, [], Exam.parse, Exam.ofJson?, Exam.toJson, UnknownCode.message⟩

/-- The names of account roles. -/
def Role.vocabulary : Vocabulary Role UnknownCode :=
  ⟨Role.code, [("SUPERADMIN", .superAdmin)], Role.parse, Role.ofJson?, Role.toJson,
    UnknownCode.message⟩

/-- The names of operator roles. -/
def OperatorRole.vocabulary : Vocabulary OperatorRole UnknownCode :=
  ⟨OperatorRole.code, [], OperatorRole.parse, OperatorRole.ofJson?, OperatorRole.toJson,
    UnknownCode.message⟩

/-- The names of the states of operators. -/
def OperatorStatus.vocabulary : Vocabulary OperatorStatus UnknownCode :=
  ⟨OperatorStatus.code, [], OperatorStatus.parse, OperatorStatus.ofJson?, OperatorStatus.toJson,
    UnknownCode.message⟩

/-- The names of metrics. -/
def Metric.vocabulary : Vocabulary Metric ConsoleError :=
  ⟨Metric.code, [], Metric.parse, Metric.ofJson?, Metric.toJson, ConsoleError.message⟩

/-- The names of windows; to say nothing means a week. -/
def Window.vocabulary : Vocabulary Window ConsoleError :=
  ⟨Window.code, [("", .week), ("7day", .week), ("7days", .week), ("30day", .month),
    ("30days", .month)], Window.parse, Window.ofJson?, Window.toJson, ConsoleError.message⟩

/-! ### What the readers of texts find -/

theorem Exam.vocabulary_parse_iff (text : String) (e : Exam) :
    Exam.vocabulary.parse text = .ok e ↔ Exam.vocabulary.Spells text e := by
  -- By rewriting: unification would open the reader down to the letters of the text.
  have own : Exam.vocabulary.parse = Exam.parse := by simp only [Exam.vocabulary]
  have capital : asciiUpper e.code = e.code := by cases e <;> decide
  rw [own, Exam.parse_eq_ok_iff, Exam.parse?_eq_some_iff, Vocabulary.spells_iff, Exam.NamedBy,
    asciiUpper_eq_capitals_iff capital]
  simp [Exam.vocabulary]

theorem Role.vocabulary_parse_iff (text : String) (r : Role) :
    Role.vocabulary.parse text = .ok r ↔ Role.vocabulary.Spells text r := by
  have own : Role.vocabulary.parse = Role.parse := by simp only [Role.vocabulary]
  have capital : asciiUpper r.code = r.code := by cases r <;> decide
  have second : asciiUpper "SUPERADMIN" = "SUPERADMIN" := by decide
  rw [own, Role.parse_eq_ok_iff, Role.parse?_eq_some_iff, Vocabulary.spells_iff, Role.NamedBy,
    asciiUpper_eq_capitals_iff capital, asciiUpper_eq_capitals_iff second]
  simp [Role.vocabulary, and_comm]

theorem OperatorRole.vocabulary_parse_iff (text : String) (r : OperatorRole) :
    OperatorRole.vocabulary.parse text = .ok r ↔ OperatorRole.vocabulary.Spells text r := by
  have own : OperatorRole.vocabulary.parse = OperatorRole.parse := by
    simp only [OperatorRole.vocabulary]
  have small : asciiLower r.code = r.code := by cases r <;> decide
  rw [own, OperatorRole.parse_eq_ok_iff, OperatorRole.parse?_eq_some_iff, Vocabulary.spells_iff,
    OperatorRole.NamedBy]
  simp [OperatorRole.vocabulary, small]

theorem OperatorStatus.vocabulary_parse_iff (text : String) (t : OperatorStatus) :
    OperatorStatus.vocabulary.parse text = .ok t ↔ OperatorStatus.vocabulary.Spells text t := by
  have own : OperatorStatus.vocabulary.parse = OperatorStatus.parse := by
    simp only [OperatorStatus.vocabulary]
  have small : asciiLower t.code = t.code := by cases t <;> decide
  rw [own, OperatorStatus.parse_eq_ok_iff, OperatorStatus.parse?_eq_some_iff, Vocabulary.spells_iff,
    OperatorStatus.NamedBy]
  simp [OperatorStatus.vocabulary, small]

theorem Metric.parse_eq_ok_iff {text : String} {x : Metric} :
    Metric.parse text = .ok x ↔ Metric.parse? text = some x := by
  unfold Metric.parse
  cases Metric.parse? text <;> simp

theorem Metric.parse_eq_error_iff {text : String} {e : ConsoleError} :
    Metric.parse text = .error e ↔ Metric.parse? text = none ∧ e = .invalidMetric := by
  unfold Metric.parse
  cases Metric.parse? text <;> simp [eq_comm]

theorem Metric.ofName?_eq_some_iff {name : String} {m : Metric} :
    Metric.ofName? name = some m ↔ name = m.code := by
  unfold Metric.ofName?
  split <;> cases m <;> simp_all [Metric.code]

theorem Metric.vocabulary_parse_iff (text : String) (m : Metric) :
    Metric.vocabulary.parse text = .ok m ↔ Metric.vocabulary.Spells text m := by
  have own : Metric.vocabulary.parse = Metric.parse := by simp only [Metric.vocabulary]
  have small : asciiLower m.code = m.code := by cases m <;> decide
  rw [own, Metric.parse_eq_ok_iff, Metric.parse?, Metric.ofName?_eq_some_iff, Vocabulary.spells_iff]
  simp [Metric.vocabulary, small]

theorem Window.parse_eq_ok_iff {text : String} {x : Window} :
    Window.parse text = .ok x ↔ Window.parse? text = some x := by
  unfold Window.parse
  cases Window.parse? text <;> simp

theorem Window.parse_eq_error_iff {text : String} {e : ConsoleError} :
    Window.parse text = .error e ↔ Window.parse? text = none ∧ e = .invalidRange := by
  unfold Window.parse
  cases Window.parse? text <;> simp [eq_comm]

/-- A window is found by its code or by another name. -/
theorem Window.ofName?_eq_some_iff {name : String} {w : Window} :
    Window.ofName? name = some w ↔ name = w.code ∨ (name, w) ∈ Window.vocabulary.aliases := by
  unfold Window.ofName?
  split <;> cases w <;> simp_all [Window.code, Window.vocabulary, Window.usual]

theorem Window.vocabulary_parse_iff (text : String) (w : Window) :
    Window.vocabulary.parse text = .ok w ↔ Window.vocabulary.Spells text w := by
  have own : Window.vocabulary.parse = Window.parse := by simp only [Window.vocabulary]
  have small : asciiLower (Window.vocabulary.code w) = w.code := by cases w <;> decide
  have others : ∀ p ∈ Window.vocabulary.aliases, asciiLower p.1 = p.1 := by decide
  rw [own, Window.parse_eq_ok_iff, Window.parse?, Window.ofName?_eq_some_iff,
    Vocabulary.spells_iff, small]
  refine or_congr_right ⟨fun mem => ⟨_, mem, (others _ mem).symm⟩, ?_⟩
  rintro ⟨name, mem, same⟩
  rw [same, others _ mem]
  exact mem

/-! ### The six are consistent -/

theorem Exam.consistent : Exam.vocabulary.Consistent :=
  Exam.vocabulary.consistent_of_reader Exam.vocabulary_parse_iff
    (by intro e; cases e <;> decide) nofun Exam.byName?_wireName
    Exam.wireName_eq_code rfl fun _ => rfl

theorem Role.consistent : Role.vocabulary.Consistent :=
  Role.vocabulary.consistent_of_reader Role.vocabulary_parse_iff
    (by intro r; cases r <;> decide) (by decide) Role.byName?_wireName
    Role.wireName_eq_code rfl fun _ => rfl

theorem OperatorRole.consistent : OperatorRole.vocabulary.Consistent :=
  OperatorRole.vocabulary.consistent_of_reader OperatorRole.vocabulary_parse_iff
    (by intro r; cases r <;> decide) nofun OperatorRole.byName?_wireName
    OperatorRole.wireName_eq_code rfl fun _ => rfl

theorem OperatorStatus.consistent : OperatorStatus.vocabulary.Consistent :=
  OperatorStatus.vocabulary.consistent_of_reader OperatorStatus.vocabulary_parse_iff
    (by intro t; cases t <;> decide) nofun OperatorStatus.byName?_wireName
    OperatorStatus.wireName_eq_code rfl fun _ => rfl

theorem Metric.consistent : Metric.vocabulary.Consistent :=
  Metric.vocabulary.consistent_of_reader Metric.vocabulary_parse_iff
    (by intro m; cases m <;> decide) nofun Metric.byName?_wireName
    Metric.wireName_eq_code rfl fun _ => rfl

theorem Window.consistent : Window.vocabulary.Consistent :=
  Window.vocabulary.consistent_of_reader Window.vocabulary_parse_iff
    (by intro w; cases w <;> decide) (by decide) Window.byName?_wireName
    Window.wireName_eq_code rfl fun _ => rfl

/-! ### How they report a text -/

theorem Exam.reports : Exam.vocabulary.Reports fun text => "invalid exam: " ++ text := by
  apply Vocabulary.reports_of_refused Exam.vocabulary_parse_iff
  intro text e refused
  simp only [Exam.vocabulary, Exam.parse_eq_error_iff] at refused ⊢
  simp only [refused.2, UnknownCode.message, CodeKind.word, String.reduceAppend]

theorem Role.reports : Role.vocabulary.Reports fun text => "invalid role: " ++ text := by
  apply Vocabulary.reports_of_refused Role.vocabulary_parse_iff
  intro text e refused
  simp only [Role.vocabulary, Role.parse_eq_error_iff] at refused ⊢
  simp only [refused.2, UnknownCode.message, CodeKind.word, String.reduceAppend]

theorem OperatorRole.reports :
    OperatorRole.vocabulary.Reports fun text => "invalid role: " ++ text := by
  apply Vocabulary.reports_of_refused OperatorRole.vocabulary_parse_iff
  intro text e refused
  simp only [OperatorRole.vocabulary, OperatorRole.parse_eq_error_iff] at refused ⊢
  simp only [refused.2, UnknownCode.message, CodeKind.word, String.reduceAppend]

theorem OperatorStatus.reports :
    OperatorStatus.vocabulary.Reports fun text => "invalid status: " ++ text := by
  apply Vocabulary.reports_of_refused OperatorStatus.vocabulary_parse_iff
  intro text e refused
  simp only [OperatorStatus.vocabulary, OperatorStatus.parse_eq_error_iff] at refused ⊢
  simp only [refused.2, UnknownCode.message, CodeKind.word, String.reduceAppend]

theorem Metric.reports : Metric.vocabulary.Reports fun _ => "invalid metric" := by
  apply Vocabulary.reports_of_refused Metric.vocabulary_parse_iff
  intro text e refused
  simp only [Metric.vocabulary, Metric.parse_eq_error_iff] at refused ⊢
  rw [refused.2, ConsoleError.message]

theorem Window.reports : Window.vocabulary.Reports fun _ => "invalid range" := by
  apply Vocabulary.reports_of_refused Window.vocabulary_parse_iff
  intro text e refused
  simp only [Window.vocabulary, Window.parse_eq_error_iff] at refused ⊢
  rw [refused.2, ConsoleError.message]

/-! ## Main result -/

/-- Each of the six sets of names is consistent: the names that are read from JSON are the codes,
and whatever name is read there is read from the text as the same value; a text is read exactly if
it is a code or another name but for blanks around it and the case of ASCII letters, and no name
stands for two values; and what is written for a value is its code and is read as that value. A text
that is read as no exam, role or state is reported as it was given, one that is no metric or window
is not repeated. -/
theorem vocabularies_consistent :
    (Exam.vocabulary.Consistent ∧ Exam.vocabulary.Reports fun text => "invalid exam: " ++ text)
      ∧ (Role.vocabulary.Consistent ∧ Role.vocabulary.Reports fun text => "invalid role: " ++ text)
      ∧ (OperatorRole.vocabulary.Consistent
        ∧ OperatorRole.vocabulary.Reports fun text => "invalid role: " ++ text)
      ∧ (OperatorStatus.vocabulary.Consistent
        ∧ OperatorStatus.vocabulary.Reports fun text => "invalid status: " ++ text)
      ∧ (Metric.vocabulary.Consistent ∧ Metric.vocabulary.Reports fun _ => "invalid metric")
      ∧ (Window.vocabulary.Consistent ∧ Window.vocabulary.Reports fun _ => "invalid range") :=
  ⟨⟨Exam.consistent, Exam.reports⟩, ⟨Role.consistent, Role.reports⟩,
    ⟨OperatorRole.consistent, OperatorRole.reports⟩,
    ⟨OperatorStatus.consistent, OperatorStatus.reports⟩, ⟨Metric.consistent, Metric.reports⟩,
    ⟨Window.consistent, Window.reports⟩⟩

end StudyHall
