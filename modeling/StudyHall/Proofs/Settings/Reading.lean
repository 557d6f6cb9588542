import StudyHall.Domain.Fault
import StudyHall.Proofs.Text.Numeral
import StudyHall.Settings.Basic

/-!
# Which named texts are settings

Settings are read from the left, with the variables that were given so far at hand. What a reading
keeps is told by the texts as a whole: it succeeds when each of the variables is given once and by a
text of its kind, and a variable then has the value that its text denotes. None of this says where a
text stands, so texts in another order give the same settings, though they may be refused for
another reason.

## Main results

* `ValueKind.read_eq_ok_iff` — the texts of a kind, with the values they denote.
* `value?_assignments` — the value that a variable is given.
* `settings_read` — when there are settings, that other names do not matter, and that the order does
  not matter either.
-/

namespace StudyHall

open Text

/-! ## Texts of a kind -/

namespace ValueKind

/-- Whether a text is in the grammar and the range of a kind. -/
def Allows : ValueKind → String → Prop
  | .text, _ => True
  | .environment, raw => raw = "development" ∨ raw = "production"
  | .portNumber, raw => ∃ n, Unsigned raw.toList n ∧ n ≤ 65535
  | .poolSize, raw => ∃ n, Unsigned raw.toList n ∧ n ≤ 4294967295
  | .minutes, raw =>
      ∃ i, Signed raw.toList i ∧ -9223372036854775808 ≤ i ∧ i ≤ 9223372036854775807
  | .switch, raw => raw = "true" ∨ raw = "false"

/-- Whether a text denotes a value of a kind. -/
def Denotes : (kind : ValueKind) → String → kind.Value → Prop
  | .text, raw, x => x = raw
  | .environment, raw, x => raw = x.code
  | .portNumber, raw, x => Unsigned raw.toList x.toNat
  | .poolSize, raw, x => Unsigned raw.toList x.toNat
  | .minutes, raw, x => Signed raw.toList x.toInt
  | .switch, raw, x => raw = if x then "true" else "false"

theorem toNat_ofNat16 {n : Nat} (within : n ≤ 65535) : (UInt16.ofNat n).toNat = n := by
  have small : n < 2 ^ 16 := by omega
  rw [UInt16.toNat_ofNat', Nat.mod_eq_of_lt small]

theorem toNat_ofNat32 {n : Nat} (within : n ≤ 4294967295) : (UInt32.ofNat n).toNat = n := by
  have small : n < 2 ^ 32 := by omega
  rw [UInt32.toNat_ofNat', Nat.mod_eq_of_lt small]

theorem toInt_ofInt64 {i : Int} (least : -9223372036854775808 ≤ i)
    (greatest : i ≤ 9223372036854775807) : (Int64.ofInt i).toInt = i :=
  Int64.toInt_ofInt_of_le (by omega) (by omega)

theorem ofCode?_eq_some_iff (raw : String) (e : Environment) :
    Environment.ofCode? raw = some e ↔ raw = e.code := by
  constructor
  · intro found
    have named := List.find?_some found
    exact (beq_iff_eq.mp named).symm
  · rintro rfl
    cases e with
    | development => rfl
    | production => rfl

theorem read_environment (raw : String) (e : Environment) :
    ValueKind.environment.read raw = .ok e ↔ raw = e.code := by
  rw [← ofCode?_eq_some_iff]
  simp only [read]
  cases Environment.ofCode? raw with
  | none => simp
  | some found => simp

theorem read_portNumber (raw : String) (x : UInt16) :
    ValueKind.portNumber.read raw = .ok x ↔ Unsigned raw.toList x.toNat := by
  simp only [read]
  constructor
  · intro given
    split at given
    · next n number =>
        cases given
        obtain ⟨numeral, within⟩ := readUnsigned_eq_ok_iff.mp number
        rwa [toNat_ofNat16 within]
    · cases given
  · intro numeral
    have within : x.toNat ≤ maxWord16 := Nat.le_of_lt_succ x.toNat_lt
    rw [readUnsigned_eq_ok_iff.mpr ⟨numeral, within⟩]
    exact congrArg Except.ok UInt16.ofNat_toNat

theorem read_poolSize (raw : String) (x : UInt32) :
    ValueKind.poolSize.read raw = .ok x ↔ Unsigned raw.toList x.toNat := by
  simp only [read]
  constructor
  · intro given
    split at given
    · next n number =>
        cases given
        obtain ⟨numeral, within⟩ := readUnsigned_eq_ok_iff.mp number
        rwa [toNat_ofNat32 within]
    · cases given
  · intro numeral
    have within : x.toNat ≤ maxWord32 := Nat.le_of_lt_succ x.toNat_lt
    rw [readUnsigned_eq_ok_iff.mpr ⟨numeral, within⟩]
    exact congrArg Except.ok UInt32.ofNat_toNat

theorem read_minutes (raw : String) (x : Int64) :
    ValueKind.minutes.read raw = .ok x ↔ Signed raw.toList x.toInt := by
  have range : ((maxInt64 : Nat) : Int) = 9223372036854775807 := by decide
  simp only [read]
  constructor
  · intro given
    split at given
    · next i number =>
        cases given
        obtain ⟨numeral, least, greatest⟩ := readSigned_eq_ok_iff.mp number
        rwa [toInt_ofInt64 (by omega) (by omega)]
    · cases given
  · intro numeral
    have low := x.le_toInt
    have high := x.toInt_lt
    rw [readSigned_eq_ok_iff.mpr ⟨numeral, by omega, by omega⟩]
    exact congrArg Except.ok (Int64.ofInt_toInt x)

theorem read_switch (raw : String) (x : Bool) :
    ValueKind.switch.read raw = .ok x ↔ raw = if x then "true" else "false" := by
  simp only [read]
  by_cases on : raw = "true"
  · subst on
    cases x with
    | true => simp
    | false => simp
  · by_cases off : raw = "false"
    · subst off
      cases x with
      | true => simp
      | false => simp
    · cases x with
      | true => simp [on, off]
      | false => simp [on, off]

/-- A value is read from the texts that denote it. -/
theorem read_eq_ok_iff (kind : ValueKind) (raw : String) (x : kind.Value) :
    kind.read raw = .ok x ↔ kind.Denotes raw x := by
  cases kind with
  | text =>
      show Except.ok raw = Except.ok x ↔ x = raw
      rw [Except.ok.injEq]
      exact eq_comm
  | environment => exact read_environment raw x
  | portNumber => exact read_portNumber raw x
  | poolSize => exact read_poolSize raw x
  | minutes => exact read_minutes raw x
  | switch => exact read_switch raw x

/-- A text denotes one value at most. -/
theorem Denotes.eq {kind : ValueKind} {raw : String} {x y : kind.Value} (hx : kind.Denotes raw x)
    (hy : kind.Denotes raw y) : x = y := by
  have given := (read_eq_ok_iff kind raw x).mpr hx
  rw [(read_eq_ok_iff kind raw y).mpr hy] at given
  exact (Except.ok.inj given).symm

/-- The texts that denote a value are those in the grammar and the range of the kind. -/
theorem allows_iff (kind : ValueKind) (raw : String) :
    kind.Allows raw ↔ ∃ x, kind.Denotes raw x := by
  cases kind with
  | text => exact ⟨fun _ => ⟨raw, rfl⟩, fun _ => trivial⟩
  | environment =>
      constructor
      · rintro (rfl | rfl)
        · exact ⟨.development, rfl⟩
        · exact ⟨.production, rfl⟩
      · rintro ⟨e, rfl⟩
        cases e with
        | development => exact .inl rfl
        | production => exact .inr rfl
  | portNumber =>
      constructor
      · rintro ⟨n, numeral, within⟩
        refine ⟨UInt16.ofNat n, ?_⟩
        show Unsigned raw.toList (UInt16.ofNat n).toNat
        rwa [toNat_ofNat16 within]
      · rintro ⟨x, numeral⟩
        exact ⟨x.toNat, numeral, Nat.le_of_lt_succ x.toNat_lt⟩
  | poolSize =>
      constructor
      · rintro ⟨n, numeral, within⟩
        refine ⟨UInt32.ofNat n, ?_⟩
        show Unsigned raw.toList (UInt32.ofNat n).toNat
        rwa [toNat_ofNat32 within]
      · rintro ⟨x, numeral⟩
        exact ⟨x.toNat, numeral, Nat.le_of_lt_succ x.toNat_lt⟩
  | minutes =>
      constructor
      · rintro ⟨i, numeral, least, greatest⟩
        refine ⟨Int64.ofInt i, ?_⟩
        show Signed raw.toList (Int64.ofInt i).toInt
        rwa [toInt_ofInt64 least greatest]
      · rintro ⟨x, numeral⟩
        have low := x.le_toInt
        have high := x.toInt_lt
        exact ⟨x.toInt, numeral, by omega, by omega⟩
  | switch =>
      constructor
      · rintro (rfl | rfl)
        · exact ⟨true, rfl⟩
        · exact ⟨false, rfl⟩
      · rintro ⟨x, rfl⟩
        cases x with
        | true => exact .inl rfl
        | false => exact .inr rfl

end ValueKind

/-! ## Texts under names -/

/-- The variable of a name, in whatever case. -/
def Variable.meant? (name : String) : Option Variable :=
  Variable.ofName? (lowercase name)

/-- The variables that named texts are for, in their order. -/
def variablesOf (vars : List (String × String)) : List Variable :=
  vars.filterMap fun e => Variable.meant? e.1

/-- The variables that must be given. -/
def Variable.required : List Variable :=
  [.appName, .appVersion, .httpPort, .pgUrl, .jwtUserSecret, .jwtAdminSecret, .adminUsername,
    .adminPassword, .adminEmail]

/-- Whether texts give a value to a variable. -/
def Gives (vars : List (String × String)) (v : Variable) (x : v.kind.Value) : Prop :=
  ∃ e ∈ vars, Variable.meant? e.1 = some v ∧ v.kind.Denotes e.2 x

/-- Whether every text that is for a variable is one of its kind. -/
def AllAllowed (vars : List (String × String)) : Prop :=
  ∀ e ∈ vars, ∀ v, Variable.meant? e.1 = some v → v.kind.Allows e.2

/-- What makes named texts settings. -/
structure WellGiven (vars : List (String × String)) : Prop where
  /-- No variable is given twice. -/
  distinct : (variablesOf vars).Nodup
  /-- Every variable that must be given is. -/
  complete : ∀ v ∈ Variable.required, v ∈ variablesOf vars
  /-- Every text is in the grammar and the range of its kind. -/
  allowed : AllAllowed vars

/-! ## Assignments -/

section
variable {given given' : List Assignment} {vars others : List (String × String)}

theorem value?_cons_self (v : Variable) (x : v.kind.Value) (given : List Assignment) :
    value? v (⟨v, x⟩ :: given) = some x :=
  dif_pos rfl

theorem value?_cons_of_ne {v w : Variable} (different : w ≠ v) (y : w.kind.Value)
    (given : List Assignment) : value? v (⟨w, y⟩ :: given) = value? v given :=
  dif_neg different

theorem isGiven_eq (v : Variable) (given : List Assignment) :
    isGiven v given = (value? v given).isSome := by
  induction given with
  | nil => rfl
  | cons a rest ih =>
      obtain ⟨w, y⟩ := a
      by_cases it : w = v
      · subst it
        simp [isGiven, value?_cons_self]
      · rw [value?_cons_of_ne it, ← ih]
        simp [isGiven, it]

/-- One text more, in front: it is passed over, or it is a variable's. -/
theorem gives_cons {e : String × String} {v : Variable} {x : v.kind.Value} :
    Gives (e :: vars) v x
      ↔ (Variable.meant? e.1 = some v ∧ v.kind.Denotes e.2 x) ∨ Gives vars v x := by
  simp only [Gives, List.mem_cons, exists_eq_or_imp]

theorem assignmentsFrom_unknown {name : String} (unknown : Variable.meant? name = none)
    (raw : String) :
    assignmentsFrom given ((name, raw) :: vars) = assignmentsFrom given vars := by
  have none : Variable.ofName? (lowercase name) = none := unknown
  simp only [assignmentsFrom, none]

/-- A text for a variable is taken when the variable has no value yet and the text denotes one. -/
theorem assignmentsFrom_known {name raw : String} {v : Variable}
    (known : Variable.meant? name = some v) :
    assignmentsFrom given ((name, raw) :: vars) = .ok given'
      ↔ value? v given = none
        ∧ ∃ x, v.kind.Denotes raw x ∧ assignmentsFrom (⟨v, x⟩ :: given) vars = .ok given' := by
  have found : Variable.ofName? (lowercase name) = some v := known
  simp only [assignmentsFrom, found, isGiven_eq, ← ValueKind.read_eq_ok_iff]
  cases value? v given with
  | some y => simp
  | none =>
      cases v.kind.read raw with
      | error fault => simp
      | ok x => simp

/-- What a variable is given by texts is what it had before or what one of them denotes. -/
theorem value?_assignmentsFrom (read : assignmentsFrom given vars = .ok given') (v : Variable)
    (x : v.kind.Value) : value? v given' = some x ↔ value? v given = some x ∨ Gives vars v x := by
  induction vars generalizing given with
  | nil =>
      cases read
      simp [Gives]
  | cons e rest ih =>
      obtain ⟨name, raw⟩ := e
      rw [gives_cons]
      cases known : Variable.meant? name with
      | none =>
          rw [assignmentsFrom_unknown known] at read
          rw [ih read]
          simp
      | some w =>
          obtain ⟨fresh, y, denotes, read⟩ := (assignmentsFrom_known known).mp read
          rw [ih read]
          by_cases it : w = v
          · subst it
            have same : w.kind.Denotes raw x ↔ y = x :=
              ⟨fun other => denotes.eq other, fun same => same ▸ denotes⟩
            rw [value?_cons_self, fresh]
            simp [same]
          · rw [value?_cons_of_ne it]
            simp [it]

/-- Texts are assignments when each of their variables is given once, by a text of its kind. -/
theorem assignmentsFrom_ok_iff :
    (∃ given', assignmentsFrom given vars = .ok given')
      ↔ (variablesOf vars).Nodup ∧ (∀ v ∈ variablesOf vars, value? v given = none)
        ∧ AllAllowed vars := by
  induction vars generalizing given with
  | nil => simp [assignmentsFrom, variablesOf, AllAllowed]
  | cons e rest ih =>
      obtain ⟨name, raw⟩ := e
      cases known : Variable.meant? name with
      | none =>
          have rest_only : variablesOf ((name, raw) :: rest) = variablesOf rest := by
            simp only [variablesOf, List.filterMap_cons, known]
          have allowed : AllAllowed ((name, raw) :: rest) ↔ AllAllowed rest := by
            simp [AllAllowed, known]
          rw [assignmentsFrom_unknown known, ih, rest_only, allowed]
      | some v =>
          have first : variablesOf ((name, raw) :: rest) = v :: variablesOf rest := by
            simp only [variablesOf, List.filterMap_cons, known]
          have allowed :
              AllAllowed ((name, raw) :: rest) ↔ v.kind.Allows raw ∧ AllAllowed rest := by
            simp [AllAllowed, known]
          rw [first, allowed, List.nodup_cons, List.forall_mem_cons, ValueKind.allows_iff]
          simp only [assignmentsFrom_known known]
          constructor
          · rintro ⟨given', fresh, x, denotes, read⟩
            obtain ⟨distinct, unassigned, allowed⟩ := ih.mp ⟨given', read⟩
            have once : v ∉ variablesOf rest := by
              intro again
              have none := unassigned v again
              rw [value?_cons_self] at none
              cases none
            refine ⟨⟨once, distinct⟩, ⟨fresh, fun u mem => ?_⟩, ⟨x, denotes⟩, allowed⟩
            have different : v ≠ u := fun same => once (same ▸ mem)
            rw [← value?_cons_of_ne different x given]
            exact unassigned u mem
          · rintro ⟨⟨once, distinct⟩, ⟨fresh, unassigned⟩, ⟨x, denotes⟩, allowed⟩
            have unassigned' : ∀ u ∈ variablesOf rest, value? u (⟨v, x⟩ :: given) = none := by
              intro u mem
              have different : v ≠ u := fun same => once (same ▸ mem)
              rw [value?_cons_of_ne different]
              exact unassigned u mem
            obtain ⟨given', read⟩ := ih.mpr ⟨distinct, unassigned', allowed⟩
            exact ⟨given', fresh, x, denotes, read⟩

/-- Names of no variable can be left out. -/
theorem assignmentsFrom_filter :
    assignmentsFrom given (vars.filter fun e => (Variable.meant? e.1).isSome)
      = assignmentsFrom given vars := by
  induction vars generalizing given with
  | nil => rfl
  | cons e rest ih =>
      obtain ⟨name, raw⟩ := e
      cases known : Variable.meant? name with
      | none => rw [List.filter_cons_of_neg (by simp [known]), assignmentsFrom_unknown known, ih]
      | some v =>
          have found : Variable.ofName? (lowercase name) = some v := known
          rw [List.filter_cons_of_pos (by simp [known])]
          simp only [assignmentsFrom, found, ih]

/-! ## Readings -/

/-- What a variable is given by texts. -/
theorem value?_assignments (read : assignments vars = .ok given) (v : Variable)
    (x : v.kind.Value) : value? v given = some x ↔ Gives vars v x := by
  rw [value?_assignmentsFrom read]
  simp [value?]

/-- Texts that are all allowed give a value to the variables that they are for. -/
theorem isSome_value?_assignments (read : assignments vars = .ok given) (v : Variable) :
    (value? v given).isSome ↔ v ∈ variablesOf vars := by
  have allowed : AllAllowed vars := (assignmentsFrom_ok_iff.mp ⟨given, read⟩).2.2
  rw [Option.isSome_iff_exists]
  simp only [value?_assignments read]
  constructor
  · rintro ⟨x, e, mem, known, -⟩
    exact List.mem_filterMap.mpr ⟨e, mem, known⟩
  · intro there
    obtain ⟨e, mem, known⟩ := List.mem_filterMap.mp there
    obtain ⟨x, denotes⟩ := (ValueKind.allows_iff _ _).mp (allowed e mem v known)
    exact ⟨x, e, mem, known, denotes⟩

theorem require_eq_ok_iff (v : Variable) (x : v.kind.Value) :
    Settings.require v given = .ok x ↔ value? v given = some x := by
  unfold Settings.require
  cases value? v given with
  | none => simp
  | some y => simp

/-- Assignments are settings when every variable that must be given is. -/
theorem ofAssignments_ok_iff :
    (∃ s, Settings.ofAssignments given = .ok s)
      ↔ ∀ v ∈ Variable.required, (value? v given).isSome := by
  simp only [Settings.ofAssignments, bind_eq_ok_iff, require_eq_ok_iff, Variable.required,
    Option.isSome_iff_exists, List.forall_mem_cons]
  constructor
  · rintro ⟨s, name, hName, version, hVersion, port, hPort, url, hUrl, learner, hLearner, admin,
      hAdmin, user, hUser, password, hPassword, email, hEmail, -⟩
    exact ⟨⟨name, hName⟩, ⟨version, hVersion⟩, ⟨port, hPort⟩, ⟨url, hUrl⟩, ⟨learner, hLearner⟩,
      ⟨admin, hAdmin⟩, ⟨user, hUser⟩, ⟨password, hPassword⟩, ⟨email, hEmail⟩, nofun⟩
  · rintro ⟨⟨name, hName⟩, ⟨version, hVersion⟩, ⟨port, hPort⟩, ⟨url, hUrl⟩, ⟨learner, hLearner⟩,
      ⟨admin, hAdmin⟩, ⟨user, hUser⟩, ⟨password, hPassword⟩, ⟨email, hEmail⟩, -⟩
    exact ⟨_, name, hName, version, hVersion, port, hPort, url, hUrl, learner, hLearner, admin,
      hAdmin, user, hUser, password, hPassword, email, hEmail, rfl⟩

/-- Settings depend on what the variables are given only. -/
theorem ofAssignments_congr (same : ∀ v, value? v given = value? v given') :
    Settings.ofAssignments given = Settings.ofAssignments given' := by
  simp only [Settings.ofAssignments, Settings.require, same]

theorem WellGiven.perm (reordered : others.Perm vars) (h : WellGiven vars) : WellGiven others := by
  have names : (variablesOf others).Perm (variablesOf vars) := reordered.filterMap _
  refine ⟨names.nodup_iff.mpr h.distinct, fun v must => ?_, fun e mem => ?_⟩
  · exact names.mem_iff.mpr (h.complete v must)
  · exact h.allowed e (reordered.mem_iff.mp mem)

theorem gives_perm (reordered : others.Perm vars) (v : Variable) (x : v.kind.Value) :
    Gives others v x ↔ Gives vars v x := by
  simp only [Gives, reordered.mem_iff]

/-- Texts that are read as settings are assignments first. -/
theorem read_eq_ok_iff {s : Settings} :
    Settings.read vars = .ok s
      ↔ ∃ given, assignments vars = .ok given ∧ Settings.ofAssignments given = .ok s := by
  unfold Settings.read
  cases assignments vars with
  | error e => simp
  | ok given => simp

/-- Texts are settings when they are well given. -/
theorem read_ok_iff : (∃ s, Settings.read vars = .ok s) ↔ WellGiven vars := by
  have start : (∃ given, assignments vars = .ok given)
      ↔ (variablesOf vars).Nodup ∧ AllAllowed vars := by
    refine assignmentsFrom_ok_iff.trans ⟨fun h => ⟨h.1, h.2.2⟩, fun h => ⟨h.1, ?_, h.2⟩⟩
    intro v _
    rfl
  constructor
  · rintro ⟨s, read⟩
    obtain ⟨given, assigned, filled⟩ := read_eq_ok_iff.mp read
    obtain ⟨distinct, allowed⟩ := start.mp ⟨given, assigned⟩
    refine ⟨distinct, fun v must => ?_, allowed⟩
    rw [← isSome_value?_assignments assigned]
    exact ofAssignments_ok_iff.mp ⟨s, filled⟩ v must
  · intro h
    obtain ⟨given, assigned⟩ := start.mpr ⟨h.distinct, h.allowed⟩
    have complete : ∀ v ∈ Variable.required, (value? v given).isSome := by
      intro v must
      rw [isSome_value?_assignments assigned]
      exact h.complete v must
    obtain ⟨s, filled⟩ := ofAssignments_ok_iff.mpr complete
    exact ⟨s, read_eq_ok_iff.mpr ⟨given, assigned, filled⟩⟩

/-- Texts in another order are the same settings. -/
theorem read_perm (reordered : others.Perm vars) {s : Settings}
    (read : Settings.read vars = .ok s) :
    Settings.read others = .ok s := by
  have well : WellGiven others := (read_ok_iff.mp ⟨s, read⟩).perm reordered
  obtain ⟨s', read'⟩ := read_ok_iff.mpr well
  obtain ⟨given, assigned, filled⟩ := read_eq_ok_iff.mp read
  obtain ⟨given', assigned', filled'⟩ := read_eq_ok_iff.mp read'
  have same : ∀ v, value? v given' = value? v given := by
    intro v
    refine Option.ext fun x => ?_
    rw [value?_assignments assigned', value?_assignments assigned]
    exact gives_perm reordered v x
  rw [ofAssignments_congr same, filled] at filled'
  rw [read', Except.ok.inj filled']

end

/-- Named texts are settings exactly when they are well given; names of no variable do not matter,
nor does the order. -/
theorem settings_read (vars : List (String × String)) :
    ((∃ s, Settings.read vars = .ok s) ↔ WellGiven vars)
    ∧ Settings.read (vars.filter fun e => (Variable.meant? e.1).isSome) = Settings.read vars
    ∧ ∀ others, others.Perm vars →
      ∀ s, Settings.read others = .ok s ↔ Settings.read vars = .ok s := by
  refine ⟨read_ok_iff, ?_, fun others reordered s => ⟨?_, ?_⟩⟩
  · unfold Settings.read assignments
    rw [assignmentsFrom_filter]
  · exact read_perm reordered.symm
  · exact read_perm reordered

/-- Which refusal is told depends on the order, since the first fault wins. -/
example :
    Settings.read [("HTTP_PORT", "65536"), ("APP_NAME", "a"), ("app_name", "b")]
        = .error (.invalidValue (.numeral .tooLarge) "HTTP_PORT" "65536")
      ∧ Settings.read [("app_name", "b"), ("APP_NAME", "a"), ("HTTP_PORT", "65536")]
        = .error (.duplicate .appName) :=
  ⟨rfl, rfl⟩

end StudyHall
