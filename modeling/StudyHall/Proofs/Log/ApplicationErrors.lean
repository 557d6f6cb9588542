import StudyHall.Proofs.Log.Filter

/-!
# Errors of the application in the log

Where no list of directives is given, the service logs by the text that is given for the level. That
text becomes part of a list: it stands there by itself, and once more behind the target of the
requests, and the directive for the database follows. The text may be a list too. Then its first
part alone is what stands behind the target of the requests, and the other parts are said twice.

None of the directives that are put around the text fits an event of the application. So what is
logged of these events is up to the directives in the text, and saying some of them twice makes no
difference. A single word for a level lets errors pass unless it means nothing; any other text lets
them pass as far as it says so.

## Main results

* `deciding?_of_level` — what decides about events of the application.
* `filter?_of_level` — whether there is a filter.
* `application_errors_logged_iff` — which errors of the application are logged.
-/

namespace StudyHall.Log

open Text

/-- Whether an event comes from a module of the application. -/
def Event.OfApplication (e : Event) : Prop :=
  e.target = "prep_api".toList ∨ "prep_api::".toList <+: e.target

namespace Filter

variable {e : Event} {f : Filter} {level : String}

/-! ## The texts in the list of a level -/

/-- The list of a level has the parts of the word, the first of them behind the target of the
requests, the others again, and the directive for the database. -/
theorem exists_directiveTexts (level : String) :
    ∃ first others,
      directiveTexts (levelWord level) = directiveTexts (String.ofList first) ++ others
        ∧ directiveTexts (levelDirectives level)
          = directiveTexts (levelWord level) ++ ["tower_http".toList ++ '=' :: first] ++ others
            ++ ["sqlx".toList ++ '=' :: "warn".toList] := by
  obtain ⟨p, ps, cut⟩ : ∃ p ps, pieces (· == ',') (levelWord level).toList = p :: ps :=
    List.exists_cons_of_ne_nil (pieces_ne_nil _ _)
  have plain : ',' ∉ p := notMem_of_mem_pieces (cut ▸ List.mem_cons_self)
  refine ⟨p, ps.filter fun p => !p.isEmpty, ?_, ?_⟩
  · rw [directiveTexts, directiveTexts, cut, String.toList_ofList, pieces_eq_singleton plain,
      ← List.filter_append, List.singleton_append]
  · have whole : (levelDirectives level).toList
        = (levelWord level).toList
          ++ ',' :: (("tower_http=".toList ++ (levelWord level).toList)
          ++ ',' :: "sqlx=warn".toList) := by
      simp only [levelDirectives, String.toList_append, List.append_assoc]
      rfl
    have requests : pieces (· == ',') ("tower_http=".toList ++ (levelWord level).toList)
        = ("tower_http".toList ++ '=' :: p) :: ps := pieces_append_of_eq (by decide) cut
    have database : pieces (· == ',') "sqlx=warn".toList
        = ["sqlx".toList ++ '=' :: "warn".toList] := pieces_eq_singleton (by decide)
    rw [directiveTexts, whole, pieces_append_sep, pieces_append_sep, requests, database,
      List.filter_append, List.filter_append, directiveTexts]
    simp [List.append_assoc]

/-! ## What decides about the application -/

/-- A directive for a target that begins otherwise does not fit. -/
theorem not_fits_of_target {d : Directive} {c : Char} {cs : List Char}
    (targeted : d.target = some (c :: cs)) (other : c ≠ 'p') (own : e.OfApplication) :
    d.fits e = false := by
  obtain ⟨rest, begins⟩ : ∃ rest, e.target = 'p' :: rest := by
    rcases own with whole | ⟨rest, parts⟩
    · exact ⟨_, whole⟩
    · exact ⟨_, parts.symm⟩
  simp [Directive.fits, targeted, begins, other]

theorem not_fits_requests {first : List Char} (own : e.OfApplication) :
    ∀ d ∈ stated ["tower_http".toList ++ '=' :: first], d.fits e = false := by
  intro d mem
  obtain ⟨text, single, read⟩ := mem_stated_iff.mp mem
  rw [List.mem_singleton.mp single] at read
  have targeted : d.target = some "tower_http".toList :=
    Directive.target_of_parse rfl (IsLevelChar.plain (by decide)).1 (by decide)
      (forall_mem_of_all (by decide)) read
  exact not_fits_of_target targeted (by decide) own

theorem not_fits_database (own : e.OfApplication) :
    ∀ d ∈ stated ["sqlx".toList ++ '=' :: "warn".toList], d.fits e = false := by
  intro d mem
  obtain ⟨text, single, read⟩ := mem_stated_iff.mp mem
  rw [List.mem_singleton.mp single] at read
  have targeted : d.target = some "sqlx".toList :=
    Directive.target_of_parse rfl (IsLevelChar.plain (by decide)).1 (by decide)
      (forall_mem_of_all (by decide)) read
  exact not_fits_of_target targeted (by decide) own

/-- What decides about events of the application is what decides among the directives in the
text. -/
theorem deciding?_of_level (own : e.OfApplication) :
    deciding? (stated (directiveTexts (levelDirectives level))) e
      = deciding? (stated (directiveTexts (levelWord level))) e := by
  obtain ⟨first, others, parts, whole⟩ := exists_directiveTexts level
  rw [whole, stated_append, stated_append, stated_append, deciding?_append, deciding?_append,
    deciding?_append, deciding?_of_no_fit (not_fits_requests own),
    deciding?_of_no_fit (not_fits_database own), later_none, later_none, ← deciding?_append, parts,
    stated_append, deciding?_repeated]

/-! ## Whether there is a filter -/

/-- A level gives a filter if every part of the text is a directive or refused. -/
theorem filter?_of_level_eq_some_iff :
    (Setup.of level none).filter? = some f
      ↔ (∀ text ∈ directiveTexts (levelWord level),
          FailsBy Directive.IsRefusal (Directive.parse text))
        ∧ f = stated (directiveTexts (levelDirectives level)) := by
  have read : (Setup.of level none).filter?
      = (readTexts (directiveTexts (levelDirectives level))).2 := by
    simp only [Setup.of, lenient, Option.map_none]
  rw [read, readTexts_eq_some_iff]
  obtain ⟨first, others, parts, whole⟩ := exists_directiveTexts level
  have requests : FailsBy Directive.IsRefusal
      (Directive.parse ("tower_http".toList ++ '=' :: first)) :=
    Directive.failsBy_parse (Directive.visible_head rfl (by decide))
  have database : FailsBy Directive.IsRefusal
      (Directive.parse ("sqlx".toList ++ '=' :: "warn".toList)) :=
    Directive.failsBy_parse (Directive.visible_head rfl (by decide))
  refine and_congr_left fun _ => ?_
  rw [whole]
  simp only [List.forall_mem_append, List.forall_mem_singleton]
  constructor
  · exact fun each => each.1.1.1
  · intro each
    refine ⟨⟨⟨each, requests⟩, fun text mem => each text ?_⟩, database⟩
    rw [parts]
    exact List.mem_append_right _ mem

end Filter

/-! ## Single words -/

/-- A word for a level is one directive. -/
theorem NamesLevel.directiveTexts_eq {word : String} {v : Verbosity}
    (own : NamesLevel word.toList v) : Filter.directiveTexts word = [word.toList] := by
  obtain ⟨filled, chars⟩ := own.chars
  have plain : ',' ∉ word.toList := fun mem => (chars _ mem).plain.2.2.2 rfl
  have kept : word.toList.isEmpty = false := by simpa using filled
  rw [Filter.directiveTexts, pieces_eq_singleton plain]
  simp [kept]

/-- Such a directive decides about every event. -/
theorem NamesLevel.decides {word : String} {v : Verbosity} (own : NamesLevel word.toList v)
    (e : Event) :
    Filter.Decides (Filter.stated (Filter.directiveTexts word)) e ⟨none, false, none, v⟩ := by
  have single : Filter.stated (Filter.directiveTexts word) = [⟨none, false, none, v⟩] := by
    rw [own.directiveTexts_eq]
    simp [Filter.stated, own.parse_eq, Except.toOption]
  exact ⟨[], [], single, rfl, List.forall_mem_nil _, List.forall_mem_nil _⟩

/-- Whether a text for the level is nothing, or a word for a level that lets something pass. -/
def SaysLevel (level : String) : Prop :=
  trim level = "" ∨ ∃ v, NamesLevel (trim level).toList v ∧ v ≠ 0

theorem SaysLevel.word {level : String} (told : SaysLevel level) :
    ∃ v, NamesLevel (levelWord level).toList v ∧ v ≠ 0 := by
  unfold levelWord
  by_cases nothing : trim level = ""
  · rw [if_pos nothing]
    exact ⟨3, ⟨by decide +kernel, by decide +kernel⟩, by decide⟩
  · rw [if_neg nothing]
    exact told.resolve_left nothing

/-! ## Main result -/

/-- Where no list of directives is given, the text for the level alone decides about the errors of
the application, blank text standing for information. If it is nothing or a word for a level other
than none, there is a filter, and every error is logged. There is a filter for any other text too,
if none of its parts between commas has a blank in front; and whenever there is one, an error is
logged exactly if a span around it grants that, or the directive of the text that decides about it
lets something pass. -/
theorem application_errors_logged_iff (level : String) {e : Event} (own : e.OfApplication)
    (grave : e.level = .error) :
    (SaysLevel level → ∃ f, (Setup.of level none).filter? = some f ∧ f.logs e = true)
      ∧ ((∀ text ∈ Filter.directiveTexts (levelWord level), ∀ c ∈ text.head?, isBlank c = false) →
        ∃ f, (Setup.of level none).filter? = some f)
      ∧ ∀ f, (Setup.of level none).filter? = some f →
        (f.logs e = true ↔ (∃ v ∈ e.granted, v ≠ 0)
          ∨ ∃ d, Filter.Decides (Filter.stated (Filter.directiveTexts (levelWord level))) e d
            ∧ d.verbosity ≠ 0) := by
  have built (visible : ∀ text ∈ Filter.directiveTexts (levelWord level),
      ∀ c ∈ text.head?, isBlank c = false) : ∃ f, (Setup.of level none).filter? = some f :=
    ⟨_, Filter.filter?_of_level_eq_some_iff.mpr
      ⟨fun text mem => Directive.failsBy_parse (visible text mem), rfl⟩⟩
  have decided (f : Filter) (given : (Setup.of level none).filter? = some f) :
      f.logs e = true ↔ (∃ v ∈ e.granted, v ≠ 0)
        ∨ ∃ d, Filter.Decides (Filter.stated (Filter.directiveTexts (levelWord level))) e d
          ∧ d.verbosity ≠ 0 := by
    have same : f = Filter.stated (Filter.directiveTexts (levelDirectives level)) :=
      (Filter.filter?_of_level_eq_some_iff.mp given).2
    simp only [same, Filter.logs_error_iff grave, ← Filter.deciding?_eq_some_iff,
      Filter.deciding?_of_level own]
  refine ⟨fun told => ?_, built, decided⟩
  obtain ⟨v, named, loud⟩ := told.word
  have visible : ∀ text ∈ Filter.directiveTexts (levelWord level),
      ∀ c ∈ text.head?, isBlank c = false := by
    intro text mem c first
    rw [named.directiveTexts_eq, List.mem_singleton] at mem
    rw [mem] at first
    exact (named.chars.2 c (List.mem_of_mem_head? first)).plain.2.2.1
  obtain ⟨f, given⟩ := built visible
  exact ⟨f, given, (decided f given).mpr (.inr ⟨_, named.decides e, loud⟩)⟩

theorem application_errors_logged_iff_sample :
    ∃ f, (Setup.of " Warn " none).filter? = some f
      ∧ f.logs (.plain "prep_api::error" .error) = true := by
  have own : (Event.plain "prep_api::error" .error).OfApplication := .inr (by decide)
  have told : SaysLevel " Warn " := .inr ⟨2, ⟨by decide +kernel, by decide +kernel⟩, by decide⟩
  exact (application_errors_logged_iff " Warn " own rfl).1 told

/-- A text that says nothing of the kind can silence the application: by a directive for it, or
because it is taken for another target. -/
theorem errors_silenced :
    (trim "prep_api=off" = "prep_api=off" ∧ verbosity? "prep_api=off".toList = none
        ∧ ((Setup.of "prep_api=off" none).filter?.map fun f => f.passes "prep_api" .error)
          = some false)
      ∧ trim "verbose" = "verbose" ∧ verbosity? "verbose".toList = none
        ∧ ((Setup.of "verbose" none).filter?.map fun f => f.passes "prep_api" .error)
          = some false := by
  decide +kernel

end StudyHall.Log
