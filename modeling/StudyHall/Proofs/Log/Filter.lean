import StudyHall.Log.Filter
import StudyHall.Proofs.Log.Directive

/-!
# Which directive decides

Of two directives that fit an event one yields to the other, and so do both where neither is more
particular. Of a list the one decides that no later one takes the place of: all in front of it that
fit yield to it, and it yields to none behind it. What decides in a list is put together from what
decides in its parts, so a part that is said twice changes nothing.

## Main results

* `Filter.deciding?_eq_some_iff` — the directive that decides.
* `Filter.deciding?_append` — what decides in a list of two parts.
* `Filter.deciding?_repeated` — a part that is said again.
* `Filter.logs_error_iff` — which errors are logged.
* `Filter.readTexts_eq_some_iff` — the filter of a list whose faults are left out.
-/

namespace StudyHall.Log

/-! ## Which directive yields -/

namespace Directive

variable {a b c : Directive}

theorem YieldsTo.refl (a : Directive) : a.YieldsTo a :=
  .inr ⟨rfl, String.le_refl _⟩

theorem YieldsTo.trans (first : a.YieldsTo b) (second : b.YieldsTo c) : a.YieldsTo c := by
  obtain lighter | ⟨same, before⟩ := first
  · obtain lighter' | ⟨same', -⟩ := second
    · exact .inl (Nat.lt_trans lighter lighter')
    · exact .inl (same' ▸ lighter)
  · obtain lighter' | ⟨same', before'⟩ := second
    · exact .inl (same ▸ lighter')
    · exact .inr ⟨same.trans same', String.le_trans before before'⟩

theorem yieldsTo_of_not (stays : ¬ a.YieldsTo b) : b.YieldsTo a := by
  unfold YieldsTo at *
  rw [not_or, not_and] at stays
  obtain ⟨notLighter, notBefore⟩ := stays
  by_cases same : b.weight = a.weight
  · exact .inr ⟨same, (String.le_total _ _).resolve_left (notBefore same.symm)⟩
  · exact .inl (by omega)

end Directive

namespace Filter

variable {e : Event} {d : Directive} {f g : Filter}

/-! ## What decides in a list of two parts -/

/-- Of two directives that may be there the one that decides. -/
def later (first second : Option Directive) : Option Directive :=
  match second with
  | none => first
  | some d => stronger first d

@[simp] theorem later_none (first : Option Directive) : later first none = first := rfl

@[simp] theorem none_later (second : Option Directive) : later none second = second := by
  cases second <;> rfl

theorem later_of_yieldsTo {a b : Directive} (yields : a.YieldsTo b) :
    later (some a) (some b) = some b :=
  if_pos yields

theorem later_of_not_yieldsTo {a b : Directive} (stays : ¬ a.YieldsTo b) :
    later (some a) (some b) = some a :=
  if_neg stays

theorem later_eq_some {a b : Option Directive} (which : later a b = some d) :
    a = some d ∨ b = some d := by
  cases b with
  | none => exact .inl which
  | some b =>
      cases a with
      | none => exact .inr which
      | some a =>
          by_cases yields : a.YieldsTo b
          · rw [later_of_yieldsTo yields] at which
            exact .inr which
          · rw [later_of_not_yieldsTo yields] at which
            exact .inl which

theorem later_eq_none {a b : Option Directive} (nothing : later a b = none) :
    a = none ∧ b = none := by
  cases b with
  | none => exact ⟨nothing, rfl⟩
  | some b =>
      cases a with
      | none => cases nothing
      | some a =>
          by_cases yields : a.YieldsTo b
          · rw [later_of_yieldsTo yields] at nothing
            cases nothing
          · rw [later_of_not_yieldsTo yields] at nothing
            cases nothing

theorem later_self (a : Option Directive) : later a a = a := by
  cases a with
  | none => rfl
  | some a => exact later_of_yieldsTo (.refl a)

theorem later_assoc (a b c : Option Directive) :
    later (later a b) c = later a (later b c) := by
  cases a with
  | none => rw [none_later, none_later]
  | some a =>
      cases b with
      | none => rw [later_none, none_later]
      | some b =>
          cases c with
          | none => rfl
          | some c =>
              by_cases ab : a.YieldsTo b
              · rw [later_of_yieldsTo ab]
                by_cases bc : b.YieldsTo c
                · rw [later_of_yieldsTo bc, later_of_yieldsTo (ab.trans bc)]
                · rw [later_of_not_yieldsTo bc, later_of_yieldsTo ab]
              · rw [later_of_not_yieldsTo ab]
                by_cases bc : b.YieldsTo c
                · rw [later_of_yieldsTo bc]
                · have ba := Directive.yieldsTo_of_not ab
                  have stays : ¬ a.YieldsTo c := fun ac => bc (ba.trans ac)
                  rw [later_of_not_yieldsTo bc, later_of_not_yieldsTo ab,
                    later_of_not_yieldsTo stays]

/-- What decides in a list of two parts. -/
theorem deciding?_append (f g : Filter) (e : Event) :
    deciding? (f ++ g) e = later (deciding? f e) (deciding? g e) := by
  have pass (ds : List Directive) (first : Option Directive) :
      ds.foldl stronger first = later first (ds.foldl stronger none) := by
    induction ds generalizing first with
    | nil => rfl
    | cons d ds ih =>
        rw [List.foldl_cons, List.foldl_cons, ih, ih (stronger none d)]
        exact later_assoc first (some d) _
  unfold deciding?
  rw [List.filter_append, List.foldl_append, pass]

theorem deciding?_singleton : deciding? [d] e = if d.fits e then some d else none := by
  unfold deciding?
  cases fits : d.fits e <;> simp [fits, stronger]

/-- Directives that do not fit decide nothing. -/
theorem deciding?_of_no_fit (none : ∀ d ∈ f, d.fits e = false) : deciding? f e = Option.none := by
  unfold deciding?
  rw [List.filter_eq_nil_iff.mpr fun d mem => by rw [none d mem]; exact Bool.false_ne_true]
  rfl

/-- A part that is said again changes nothing. -/
theorem deciding?_repeated (f g : Filter) (e : Event) :
    deciding? (f ++ g ++ g) e = deciding? (f ++ g) e := by
  rw [deciding?_append, deciding?_append, later_assoc, later_self]

/-! ## The directive that decides -/

/-- Whether a directive decides about an event: it fits, those in front of it that fit yield to it,
and it yields to none behind it that fits. -/
def Decides (f : Filter) (e : Event) (d : Directive) : Prop :=
  ∃ before after, f = before ++ d :: after ∧ d.fits e = true
    ∧ (∀ b ∈ before, b.fits e = true → b.YieldsTo d)
    ∧ ∀ a ∈ after, a.fits e = true → ¬ d.YieldsTo a

/-- All that fit yield to the directive that decides. -/
theorem Decides.yields (decides : Decides f e d) {a : Directive} (mem : a ∈ f)
    (fits : a.fits e = true) : a.YieldsTo d := by
  obtain ⟨before, after, rfl, -, front, behind⟩ := decides
  rcases List.mem_append.mp mem with early | mem
  · exact front a early fits
  · rcases List.mem_cons.mp mem with rfl | late
    · exact .refl a
    · exact Directive.yieldsTo_of_not (behind a late fits)

theorem deciding?_cons (c : Directive) (f : Filter) (e : Event) :
    deciding? (c :: f) e = later (if c.fits e then some c else none) (deciding? f e) := by
  rw [← deciding?_singleton, ← deciding?_append, List.singleton_append]

/-- Where nothing decides, nothing fits. -/
theorem not_fits_of_deciding? (nothing : deciding? f e = none) : ∀ d ∈ f, d.fits e = false := by
  induction f with
  | nil => exact List.forall_mem_nil _
  | cons c f ih =>
      rw [deciding?_cons] at nothing
      obtain ⟨first, rest⟩ := later_eq_none nothing
      refine List.forall_mem_cons.mpr ⟨?_, ih rest⟩
      cases fits : c.fits e with
      | false => rfl
      | true => simp [fits] at first

/-- What decides fits and is said. -/
theorem mem_of_deciding? (which : deciding? f e = some d) : d ∈ f ∧ d.fits e = true := by
  induction f with
  | nil => cases which
  | cons c f ih =>
      rw [deciding?_cons] at which
      rcases later_eq_some which with first | rest
      · obtain ⟨fits, same⟩ := Option.ite_none_right_eq_some.mp first
        obtain rfl : c = d := Option.some.inj same
        exact ⟨List.mem_cons_self, fits⟩
      · exact ⟨List.mem_cons_of_mem _ (ih rest).1, (ih rest).2⟩

theorem decides_of_deciding? (which : deciding? f e = some d) : Decides f e d := by
  induction f generalizing d with
  | nil => cases which
  | cons c f ih =>
      rw [deciding?_cons] at which
      by_cases fits : c.fits e = true
      · rw [if_pos fits] at which
        cases rest : deciding? f e with
        | none =>
            rw [rest, later_none] at which
            obtain rfl : c = d := Option.some.inj which
            have nothing := not_fits_of_deciding? rest
            refine ⟨[], f, rfl, fits, List.forall_mem_nil _, fun a mem fitting => ?_⟩
            rw [nothing a mem] at fitting
            cases fitting
        | some b =>
            have decides := ih rest
            rw [rest] at which
            by_cases yields : c.YieldsTo b
            · rw [later_of_yieldsTo yields] at which
              obtain rfl : b = d := Option.some.inj which
              obtain ⟨before, after, rfl, fitting, front, behind⟩ := decides
              exact ⟨c :: before, after, rfl, fitting,
                List.forall_mem_cons.mpr ⟨fun _ => yields, front⟩, behind⟩
            · rw [later_of_not_yieldsTo yields] at which
              obtain rfl : c = d := Option.some.inj which
              exact ⟨[], f, rfl, fits, List.forall_mem_nil _, fun a mem fitting onward =>
                yields (onward.trans (decides.yields mem fitting))⟩
      · rw [if_neg fits, none_later] at which
        obtain ⟨before, after, rfl, fitting, front, behind⟩ := ih which
        exact ⟨c :: before, after, rfl, fitting,
          List.forall_mem_cons.mpr ⟨fun own => absurd own fits, front⟩, behind⟩

/-- The directive that decides. -/
theorem deciding?_eq_some_iff : deciding? f e = some d ↔ Decides f e d := by
  constructor
  · exact decides_of_deciding?
  · rintro ⟨before, after, rfl, fits, front, behind⟩
    have ends : later (some d) (deciding? after e) = some d := by
      cases which : deciding? after e with
      | none => rfl
      | some a =>
          obtain ⟨mem, fitting⟩ := mem_of_deciding? which
          exact later_of_not_yieldsTo (behind a mem fitting)
    rw [deciding?_append, deciding?_cons, if_pos fits, ends]
    cases which : deciding? before e with
    | none => rfl
    | some b =>
        obtain ⟨mem, fitting⟩ := mem_of_deciding? which
        exact later_of_yieldsTo (front b mem fitting)

/-- An error is logged exactly if a span grants that, or the directive that decides about it lets
something pass. -/
theorem logs_error_iff (grave : e.level = .error) :
    f.logs e = true
      ↔ (∃ v ∈ e.granted, v ≠ 0) ∨ ∃ d, Decides f e d ∧ d.verbosity ≠ 0 := by
  have rank : e.level.rank = 1 := by rw [grave]; rfl
  simp only [logs, rank, Bool.or_eq_true, List.any_eq_true, Option.any_eq_true, decide_eq_true_eq,
    deciding?_eq_some_iff, Nat.one_le_iff_ne_zero]

/-! ## Texts that are no directives -/

/-- The directives that texts denote, where they do. -/
def stated (texts : List (List Char)) : Filter :=
  texts.filterMap fun text => (Directive.parse text).toOption

theorem mem_stated_iff {texts : List (List Char)} :
    d ∈ stated texts ↔ ∃ text ∈ texts, Directive.parse text = .ok d := by
  have read (text : List Char) :
      (Directive.parse text).toOption = some d ↔ Directive.parse text = .ok d := by
    cases Directive.parse text <;> simp [Except.toOption]
  simp only [stated, List.mem_filterMap, read]

/-- There is a filter if every text is a directive or refused, and it has the directives. -/
theorem readTexts_eq_some_iff {texts : List (List Char)} :
    (readTexts texts).2 = some f
      ↔ (∀ text ∈ texts, FailsBy Directive.IsRefusal (Directive.parse text))
        ∧ f = stated texts := by
  induction texts generalizing f with
  | nil => simp [readTexts, stated, eq_comm]
  | cons text texts ih =>
      rw [List.forall_mem_cons]
      cases read : Directive.parse text with
      | ok d =>
          have own : stated (text :: texts) = d :: stated texts := by
            simp [stated, read, Except.toOption]
          have whole : (readTexts (text :: texts)).2 = (readTexts texts).2.map fun f => d :: f := by
            simp only [readTexts, read]
          rw [own, whole, Option.map_eq_some_iff]
          constructor
          · rintro ⟨g, rest, rfl⟩
            obtain ⟨refused, rfl⟩ := ih.mp rest
            exact ⟨⟨.ok d, refused⟩, rfl⟩
          · rintro ⟨⟨-, refused⟩, rfl⟩
            exact ⟨stated texts, ih.mpr ⟨refused, rfl⟩, rfl⟩
      | error fault =>
          have own : stated (text :: texts) = stated texts := by
            simp [stated, read, Except.toOption]
          rw [own]
          by_cases refusal : Directive.IsRefusal fault
          · obtain ⟨cause, rfl⟩ := refusal
            have whole : (readTexts (text :: texts)).2 = (readTexts texts).2 := by
              simp only [readTexts, read]
            have told : FailsBy Directive.IsRefusal
                (.error (.refused cause) : Read Directive) := .error ⟨cause, rfl⟩
            rw [whole, ih]
            exact ⟨fun ⟨refused, same⟩ => ⟨⟨told, refused⟩, same⟩,
              fun ⟨⟨_, refused⟩, same⟩ => ⟨refused, same⟩⟩
          · have broken : (readTexts (text :: texts)).2 = none := by
              cases fault with
              | refused cause => exact absurd ⟨cause, rfl⟩ refusal
              | outsideCalendar | earlyClock | brokenCharacter => simp only [readTexts, read]
            rw [broken]
            constructor
            · exact nofun
            · rintro ⟨⟨told, -⟩, -⟩
              exact absurd (told fault rfl) refusal

theorem stated_append (texts more : List (List Char)) :
    stated (texts ++ more) = stated texts ++ stated more :=
  List.filterMap_append

end Filter

end StudyHall.Log
