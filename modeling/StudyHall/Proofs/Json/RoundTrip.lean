import StudyHall.Proofs.Bytes.Utf8
import StudyHall.Proofs.Json.Numbers
import StudyHall.Proofs.Json.Strings

/-!
# JSON reads back

What is written as JSON is read back as the value it was written from. The one exception is a
string that a reader notices to be no text before its closing quote: it is written as one that is
noticed at the quote. `Readable` leaves these strings out.

The reader is a machine over lexemes with a stack of what is open. A written value takes it, from
any state in which a value is due, to the state in which that value has been read and the stack is
what it was; inside an array or an object the stack carries what has been read of it so far, the
last first.

## Main results

* `run_lexeme` — one lexeme moves the machine by one step.
* `run_renderItems`, `run_renderFields` — the rest of an array or object closes it.
* `Readable.readsBack` — a written value takes the machine past it.
* `ofChars?_renderChars`, `ofBytes?_encode` — reading undoes writing.
-/

namespace StudyHall.Json

open Text

/-! ## Steps of the machine -/

theorem lexeme?_gap {c : Option Char} (cs : Input) (gap : isGap c = true) :
    lexeme? (c :: cs) = none := by
  simp only [isGap, Bool.or_eq_true, beq_iff_eq] at gap
  rcases gap with ((rfl | rfl) | rfl) | rfl <;> rfl

/-- One lexeme moves the machine by one step. -/
theorem run_lexeme {s s' : State} {cs rest : Input} {l : Lexeme}
    (read : lexeme? cs = some (l, rest)) (next : s.next l = some s') : run s cs = run s' rest := by
  cases cs with
  | nil => cases read
  | cons c cs =>
      have gap : isGap c = false := by
        cases gap : isGap c with
        | false => rfl
        | true =>
            rw [lexeme?_gap cs gap] at read
            cases read
      conv => lhs; unfold run
      simp only [gap, Bool.false_eq_true, if_false]
      split
      · next unread =>
          rw [read] at unread
          cases unread
      · next l' rest' read' =>
          rw [read] at read'
          cases read'
          rw [next]

/-- A state in which a value is due; in an array its end may come instead. -/
def State.Awaits (s : State) (within : List Open) : Prop :=
  ∀ l, l ≠ .closeArray → s.next l = State.start within l

theorem awaits_value (within : List Open) : (State.value within).Awaits within := by
  intro l _
  cases l <;> rfl

theorem awaits_item (within : List Open) : (State.item within).Awaits (.array [] :: within) := by
  intro l other
  cases l with
  | closeArray => exact absurd rfl other
  | openArray => rfl
  | openObject => rfl
  | closeObject => rfl
  | comma => rfl
  | colon => rfl
  | string text => rfl
  | plain j => rfl

/-- A written value takes the machine past it. -/
def ReadsBack (j : Json) : Prop :=
  ∀ {s : State} {within : List Open} {rest : Input}, s.Awaits within → AfterNumber rest →
    run s (j.renderChars.map some ++ rest) = run (.done j within) rest

/-! ## What follows a value -/

theorem afterNumber_nil : AfterNumber [] := by
  intro c hc
  cases hc

theorem afterNumber_comma (cs : Input) : AfterNumber (some ',' :: cs) := by
  intro c hc
  cases hc
  decide

theorem afterNumber_renderItems (items : List Json) (rest : Input) :
    AfterNumber ((renderItems items).map some ++ rest) := by
  cases items with
  | nil =>
      intro c hc
      cases hc
      decide
  | cons item items => exact afterNumber_comma _

theorem afterNumber_renderFields (fields : List (Option String × Json)) (rest : Input) :
    AfterNumber ((renderFields fields).map some ++ rest) := by
  cases fields with
  | nil =>
      intro c hc
      cases hc
      decide
  | cons field fields => exact afterNumber_comma _

/-! ## Arrays and objects -/

variable {within : List Open} {rest : Input}

/-- The rest of an array closes it. -/
theorem run_renderItems {items : List Json} (h : ∀ item ∈ items, ReadsBack item) (v : Json)
    (before : List Json) :
    run (.done v (.array before :: within)) ((renderItems items).map some ++ rest)
      = run (.done (.array ((v :: before).reverse ++ items)) within) rest := by
  induction items generalizing v before with
  | nil =>
      rw [List.append_nil]
      exact run_lexeme (l := .closeArray) rfl rfl
  | cons item items ih =>
      have comma : run (.done v (.array before :: within))
          ((renderItems (item :: items)).map some ++ rest)
          = run (.value (.array (v :: before) :: within))
            (item.renderChars.map some ++ ((renderItems items).map some ++ rest)) := by
        simp only [renderItems, List.map_cons, List.map_append, List.cons_append,
          List.append_assoc]
        exact run_lexeme (l := .comma) rfl rfl
      rw [comma, h item List.mem_cons_self (awaits_value _) (afterNumber_renderItems items rest),
        ih (fun i hi => h i (List.mem_cons_of_mem _ hi))]
      simp only [List.reverse_cons, List.append_assoc, List.cons_append, List.nil_append]

/-- A name, a colon and a value. -/
theorem run_field {s : State} {before : List (Option String × Json)} {value : Json}
    (key : Option String) (name : ∀ k, s.next (.string k) = some (.colon before k.toOption within))
    (h : ReadsBack value) (after : AfterNumber rest) :
    run s ((renderString key).map some
        ++ (some ':' :: (value.renderChars.map some ++ rest)))
      = run (.done value (.object before key :: within)) rest := by
  have key_read : run s ((renderString key).map some
      ++ (some ':' :: (value.renderChars.map some ++ rest)))
      = run (.colon before key within) (some ':' :: (value.renderChars.map some ++ rest)) := by
    have next := name (readBack key)
    rw [readBack_toOption] at next
    exact run_lexeme (lexeme?_renderString key) next
  have colon_read : run (.colon before key within)
      (some ':' :: (value.renderChars.map some ++ rest))
      = run (.value (.object before key :: within)) (value.renderChars.map some ++ rest) :=
    run_lexeme (l := .colon) rfl rfl
  rw [key_read, colon_read, h (awaits_value _) after]

/-- The rest of an object closes it. -/
theorem run_renderFields {fields : List (Option String × Json)}
    (h : ∀ f ∈ fields, ReadsBack f.2) (key : Option String) (v : Json)
    (before : List (Option String × Json)) :
    run (.done v (.object before key :: within)) ((renderFields fields).map some ++ rest)
      = run (.done (.object (((key, v) :: before).reverse ++ fields)) within) rest := by
  induction fields generalizing key v before with
  | nil =>
      rw [List.append_nil]
      exact run_lexeme (l := .closeObject) rfl rfl
  | cons field fields ih =>
      obtain ⟨name, value⟩ := field
      have comma : run (.done v (.object before key :: within))
          ((renderFields ((name, value) :: fields)).map some ++ rest)
          = run (.nextKey ((key, v) :: before) within) ((renderString name).map some
            ++ (some ':' :: (value.renderChars.map some
              ++ ((renderFields fields).map some ++ rest)))) := by
        simp only [renderFields, List.map_cons, List.map_append, List.cons_append,
          List.append_assoc]
        exact run_lexeme (l := .comma) rfl rfl
      rw [comma, run_field name (fun _ => rfl) (h _ List.mem_cons_self)
        (afterNumber_renderFields fields rest),
        ih (fun f hf => h f (List.mem_cons_of_mem _ hf))]
      simp only [List.reverse_cons, List.append_assoc, List.cons_append, List.nil_append]

/-! ## Values -/

/-- A value of which every string is a text, or is noticed to be none at its closing quote. -/
inductive Readable : Json → Prop
  | null : Readable .null
  | bool (b : Bool) : Readable (.bool b)
  | number (n : Number) : Readable (.number n)
  | string (s : Option String) : Readable (.string (readBack s))
  | array {items : List Json} (h : ∀ item ∈ items, Readable item) : Readable (.array items)
  | object {fields : List (Option String × Json)} (h : ∀ f ∈ fields, Readable f.2) :
      Readable (.object fields)

/-- A value that is one lexeme takes the machine past it. -/
theorem run_lexeme_value {s : State} {l : Lexeme} {cs : Input} {j : Json}
    (due : s.Awaits within) (read : lexeme? cs = some (l, rest)) (other : l ≠ .closeArray)
    (start : State.start within l = some (.done j within)) :
    run s cs = run (.done j within) rest := by
  refine run_lexeme read ?_
  rw [due l other, start]

theorem array_readsBack {items : List Json} (h : ∀ item ∈ items, ReadsBack item) :
    ReadsBack (.array items) := by
  intro s within rest due _
  have opened : s.next .openArray = some (.item within) := due .openArray (by simp)
  cases items with
  | nil =>
      have bracket : run s ((renderChars (.array [])).map some ++ rest)
          = run (.item within) (some ']' :: rest) := run_lexeme (l := .openArray) rfl opened
      rw [bracket]
      exact run_lexeme (l := .closeArray) rfl rfl
  | cons item items =>
      have bracket : run s ((renderChars (.array (item :: items))).map some ++ rest)
          = run (.item within)
            (item.renderChars.map some ++ ((renderItems items).map some ++ rest)) := by
        simp only [renderChars, List.map_cons, List.map_append, List.cons_append,
          List.append_assoc]
        exact run_lexeme (l := .openArray) rfl opened
      rw [bracket, h item List.mem_cons_self (awaits_item _) (afterNumber_renderItems items rest),
        run_renderItems fun i hi => h i (List.mem_cons_of_mem _ hi)]
      rfl

theorem object_readsBack {fields : List (Option String × Json)}
    (h : ∀ f ∈ fields, ReadsBack f.2) : ReadsBack (.object fields) := by
  intro s within rest due _
  have opened : s.next .openObject = some (.key within) := due .openObject (by simp)
  cases fields with
  | nil =>
      have brace : run s ((renderChars (.object [])).map some ++ rest)
          = run (.key within) (some '\x7d' :: rest) := run_lexeme (l := .openObject) rfl opened
      rw [brace]
      exact run_lexeme (l := .closeObject) rfl rfl
  | cons field fields =>
      obtain ⟨name, value⟩ := field
      have brace : run s ((renderChars (.object ((name, value) :: fields))).map some ++ rest)
          = run (.key within) ((renderString name).map some ++ (some ':'
            :: (value.renderChars.map some ++ ((renderFields fields).map some ++ rest)))) := by
        simp only [renderChars, List.map_cons, List.map_append, List.cons_append,
          List.append_assoc]
        exact run_lexeme (l := .openObject) rfl opened
      rw [brace, run_field name (fun _ => rfl) (h _ List.mem_cons_self)
        (afterNumber_renderFields fields rest),
        run_renderFields fun f hf => h f (List.mem_cons_of_mem _ hf)]
      rfl

/-- A written value takes the machine past it, by induction on the value: only a number looks at
what follows it. -/
theorem Readable.readsBack {j : Json} (h : Readable j) : ReadsBack j := by
  induction h with
  | null => exact fun due _ => run_lexeme_value due rfl (by simp) rfl
  | bool b =>
      cases b with
      | true => exact fun due _ => run_lexeme_value due rfl (by simp) rfl
      | false => exact fun due _ => run_lexeme_value due rfl (by simp) rfl
  | number n =>
      exact fun due after => run_lexeme_value due (lexeme?_renderNumber n after) (by simp) rfl
  | string text =>
      intro s within rest due _
      have chars : renderChars (.string (readBack text)) = renderString text := by
        simp only [renderChars, readBack_toOption]
      rw [chars]
      exact run_lexeme_value due (lexeme?_renderString text) (by simp) rfl
  | array _ ih => exact array_readsBack ih
  | object _ ih => exact object_readsBack ih

/-! ## Reading undoes writing -/

/-- A value is read back from its characters. -/
theorem ofChars?_renderChars {j : Json} (h : Readable j) : ofChars? j.renderChars = some j := by
  have read := h.readsBack (awaits_value []) afterNumber_nil
  rw [List.append_nil] at read
  unfold ofChars? read?
  rw [read]
  unfold run
  rfl

/-- A value is read back from its text. -/
theorem parse?_render {j : Json} (h : Readable j) : parse? j.render = some j := by
  unfold parse? render
  rw [String.toList_ofList]
  exact ofChars?_renderChars h

/-- A value is read back from its bytes. -/
theorem ofBytes?_encode {j : Json} (h : Readable j) :
    ofBytes? (Utf8.encode j.renderChars) = some j := by
  unfold ofBytes?
  rw [Utf8.decode_encode]
  exact ofChars?_renderChars h

end StudyHall.Json
