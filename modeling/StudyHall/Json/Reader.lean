import StudyHall.Bytes.Hex
import StudyHall.Bytes.Utf8
import StudyHall.Json.Basic
import StudyHall.Text.Numeral

/-!
# Reading JSON

The strict grammar of JSON, for values nested to any depth. The input is a list of characters with
`none` for a part of the bytes that is no character; such a part may stand inside a string only,
which then has no text, as with an escape for half a surrogate pair.

A lexeme is taken from the front and moves a state that knows what may come next and which arrays
and objects are still open. Each lexeme is shorter than what it is taken from, and so the reader
ends.
-/

namespace StudyHall.Json

open Text

/-- Input of the reader: characters, and `none` for a part that is no character. -/
abbrev Input := List (Option Char)

/-! ## Strings -/

/-- What a string is made of. -/
inductive Piece where
  /-- A character, by itself or by a short escape. -/
  | char (c : Char)
  /-- An escape by number: a unit of 16 bits. -/
  | unit (n : Nat)
  /-- A part that is no character. -/
  | junk

/-- The character that a short escape stands for. -/
def shortEscape? (c : Char) : Option Char :=
  if c = '"' then some '"'
  else if c = '\\' then some '\\'
  else if c = '/' then some '/'
  else if c = 'b' then some '\x08'
  else if c = 'f' then some '\x0c'
  else if c = 'n' then some '\n'
  else if c = 'r' then some '\r'
  else if c = 't' then some '\t'
  else none

/-- The value of four hexadecimal digits. -/
def unit? (a b c d : Char) : Option Nat :=
  match Hex.digitValue? a, Hex.digitValue? b, Hex.digitValue? c, Hex.digitValue? d with
  | some w, some x, some y, some z => some (((w * 16 + x) * 16 + y) * 16 + z)
  | _, _, _, _ => none

/-- The pieces of a string after its first quote, and what follows its last one. -/
def scanString (acc : List Piece) : Input → Option (List Piece × Input)
  | [] => none
  | none :: cs => scanString (.junk :: acc) cs
  | some c :: cs =>
      if c = '"' then some (acc.reverse, cs)
      else if c = '\\' then
        match cs with
        | some e :: rest =>
            if e = 'u' then
              match rest with
              | some w :: some x :: some y :: some z :: rest =>
                  match unit? w x y z with
                  | some n => scanString (.unit n :: acc) rest
                  | none => none
              | _ => none
            else
              match shortEscape? e with
              | some c => scanString (.char c :: acc) rest
              | none => none
        | _ => none
      else if c.toNat < 0x20 then none
      else scanString (.char c :: acc) cs

/-- The text of pieces: units pair up to characters, and a half pair or a part that is no
character spoils the text. A half pair is noticed at what follows it, and a part that is no
character only at the end. -/
def textOf (acc : List Char) (junk : Bool) : List Piece → Except Spoilt (List Char)
  | [] => if junk then .error .atEnd else .ok acc.reverse
  | .char c :: ps => textOf (c :: acc) junk ps
  | .junk :: ps => textOf acc true ps
  | .unit n :: ps =>
      if n < 0xd800 ∨ 0xe000 ≤ n then textOf (Char.ofNat n :: acc) junk ps
      else if n < 0xdc00 then
        match ps with
        | .unit m :: ps =>
            if 0xdc00 ≤ m ∧ m < 0xe000 then
              textOf (Char.ofNat (0x10000 + (n - 0xd800) * 0x400 + (m - 0xdc00)) :: acc) junk ps
            else .error .within
        | [] => .error .atEnd
        | _ => .error .within
      else .error .within

theorem scanString_length {acc : List Piece} {cs : Input} {ps : List Piece} {rest : Input}
    (h : scanString acc cs = some (ps, rest)) : rest.length < cs.length := by
  fun_induction scanString acc cs <;> simp_all <;> omega

/-! ## Numbers -/

/-- The digits in front and what follows them. -/
def spanDigits : Input → List (Fin 10) × Input
  | some c :: cs =>
      match digitValue? c with
      | some d =>
          let r := spanDigits cs
          (lastDigit d :: r.1, r.2)
      | none => ([], some c :: cs)
  | cs => ([], cs)

theorem spanDigits_length (cs : Input) :
    (spanDigits cs).2.length + (spanDigits cs).1.length = cs.length := by
  induction cs with
  | nil => rfl
  | cons c cs ih =>
      cases c with
      | none => rfl
      | some c =>
          unfold spanDigits
          split
          · simp only [List.length_cons]
            omega
          · rfl

/-- The value of digits. -/
def valueOf (ds : List (Fin 10)) : Nat :=
  digitsValue (ds.map Fin.val)

/-- The digits before the point: a zero alone, or digits that start with another one. -/
def scanWhole (cs : Input) : Option (Nat × Input) :=
  match spanDigits cs with
  | ([], _) => none
  | (d :: ds, rest) => if d.val = 0 ∧ ds ≠ [] then none else some (valueOf (d :: ds), rest)

/-- The digits after a point, none without a point. -/
def scanFraction : Input → Option (List (Fin 10) × Input)
  | some '.' :: cs =>
      match spanDigits cs with
      | ([], _) => none
      | (d :: ds, rest) => some (d :: ds, rest)
  | cs => some ([], cs)

/-- The digits of an exponent after its sign. -/
def scanPower (negative : Bool) (cs : Input) : Option (Option Int × Input) :=
  match spanDigits cs with
  | ([], _) => none
  | (d :: ds, rest) =>
      let n : Int := valueOf (d :: ds)
      some (some (if negative then -n else n), rest)

/-- The exponent, none without its letter. -/
def scanExponent : Input → Option (Option Int × Input)
  | some c :: cs =>
      if c = 'e' ∨ c = 'E' then
        match cs with
        | some '+' :: cs => scanPower false cs
        | some '-' :: cs => scanPower true cs
        | cs => scanPower false cs
      else some (none, some c :: cs)
  | cs => some (none, cs)

/-- A number after its sign. -/
def scanUnsigned (negative : Bool) (cs : Input) : Option (Number × Input) :=
  match scanWhole cs with
  | none => none
  | some (m, cs) =>
      match scanFraction cs with
      | none => none
      | some (fraction, cs) =>
          match scanExponent cs with
          | none => none
          | some (none, cs) =>
              some (if fraction.isEmpty then .whole negative m
                else .decimal negative m fraction 0, cs)
          | some (some e, cs) => some (.decimal negative m fraction e, cs)

theorem scanWhole_length {cs rest : Input} {m : Nat} (h : scanWhole cs = some (m, rest)) :
    rest.length < cs.length := by
  have len := spanDigits_length cs
  unfold scanWhole at h
  split at h
  · simp at h
  · next d ds r e =>
      rw [e] at len
      split at h
      · simp at h
      · simp only [Option.some.injEq, Prod.mk.injEq] at h
        simp only [List.length_cons] at len
        rw [← h.2]
        omega

theorem scanFraction_length {cs rest : Input} {ds : List (Fin 10)}
    (h : scanFraction cs = some (ds, rest)) : rest.length ≤ cs.length := by
  unfold scanFraction at h
  split at h
  · next cs =>
      have len := spanDigits_length cs
      split at h
      · simp at h
      · next d ds r e =>
          rw [e] at len
          simp only [Option.some.injEq, Prod.mk.injEq] at h
          simp only [List.length_cons] at len ⊢
          rw [← h.2]
          omega
  · simp only [Option.some.injEq, Prod.mk.injEq] at h
    exact Nat.le_of_eq (congrArg List.length h.2.symm)

theorem scanPower_length {negative : Bool} {cs rest : Input} {e : Option Int}
    (h : scanPower negative cs = some (e, rest)) : rest.length ≤ cs.length := by
  have len := spanDigits_length cs
  unfold scanPower at h
  split at h
  · simp at h
  · next d ds r eq =>
      rw [eq] at len
      simp only [Option.some.injEq, Prod.mk.injEq] at h
      rw [← h.2]
      simp only [List.length_cons] at len
      omega

theorem scanExponent_length {cs rest : Input} {e : Option Int}
    (h : scanExponent cs = some (e, rest)) : rest.length ≤ cs.length := by
  unfold scanExponent at h
  split at h
  · split at h
    · split at h
      · have := scanPower_length h; simp only [List.length_cons]; omega
      · have := scanPower_length h; simp only [List.length_cons]; omega
      · have := scanPower_length h; simp only [List.length_cons]; omega
    · simp only [Option.some.injEq, Prod.mk.injEq] at h
      exact Nat.le_of_eq (congrArg List.length h.2.symm)
  · simp only [Option.some.injEq, Prod.mk.injEq] at h
    exact Nat.le_of_eq (congrArg List.length h.2.symm)

theorem scanUnsigned_length {negative : Bool} {cs rest : Input} {n : Number}
    (h : scanUnsigned negative cs = some (n, rest)) : rest.length < cs.length := by
  unfold scanUnsigned at h
  split at h
  · simp at h
  · next m cs₁ e₁ =>
      have l₁ := scanWhole_length e₁
      split at h
      · simp at h
      · next ds cs₂ e₂ =>
          have l₂ := scanFraction_length e₂
          split at h
          · simp at h
          · next cs₃ e₃ =>
              have l₃ := scanExponent_length e₃
              simp only [Option.some.injEq, Prod.mk.injEq] at h
              rw [← h.2]
              omega
          · next p cs₃ e₃ =>
              have l₃ := scanExponent_length e₃
              simp only [Option.some.injEq, Prod.mk.injEq] at h
              rw [← h.2]
              omega

/-! ## Lexemes -/

/-- The parts that JSON is written in. -/
inductive Lexeme where
  | openArray
  | closeArray
  | openObject
  | closeObject
  | comma
  | colon
  | string (text : Except Spoilt String)
  /-- A number, a truth value or `null`. -/
  | plain (j : Json)

/-- What follows a given word. -/
def scanWord : List Char → Input → Option Input
  | [], cs => some cs
  | w :: ws, some c :: cs => if w = c then scanWord ws cs else none
  | _ :: _, _ => none

theorem scanWord_length {ws : List Char} {cs rest : Input} (h : scanWord ws cs = some rest) :
    rest.length ≤ cs.length := by
  fun_induction scanWord ws cs with
  | case1 cs =>
      cases h
      exact Nat.le_refl _
  | case2 ws c cs ih =>
      have shorter := ih h
      rw [List.length_cons]
      omega
  | case3 w ws c cs other => cases h
  | case4 => cases h

/-- The lexeme in front and what follows it. -/
def lexeme? : Input → Option (Lexeme × Input)
  | some c :: cs =>
      if c = '[' then some (.openArray, cs)
      else if c = ']' then some (.closeArray, cs)
      else if c = '\x7b' then some (.openObject, cs)
      else if c = '\x7d' then some (.closeObject, cs)
      else if c = ',' then some (.comma, cs)
      else if c = ':' then some (.colon, cs)
      else if c = '"' then
        (scanString [] cs).map fun r => (.string ((textOf [] false r.1).map String.ofList), r.2)
      else if c = 't' then
        (scanWord ['r', 'u', 'e'] cs).map fun r => (.plain (.bool true), r)
      else if c = 'f' then
        (scanWord ['a', 'l', 's', 'e'] cs).map fun r => (.plain (.bool false), r)
      else if c = 'n' then
        (scanWord ['u', 'l', 'l'] cs).map fun r => (.plain .null, r)
      else if c = '-' then
        (scanUnsigned true cs).map fun r => (.plain (.number r.1), r.2)
      else
        (scanUnsigned false (some c :: cs)).map fun r => (.plain (.number r.1), r.2)
  | _ => none

theorem lexeme?_length {cs rest : Input} {l : Lexeme} (h : lexeme? cs = some (l, rest)) :
    rest.length < cs.length := by
  unfold lexeme? at h
  split at h
  · next c cs =>
      simp only [List.length_cons]
      by_cases hd : c = '[' ∨ c = ']' ∨ c = '\x7b' ∨ c = '\x7d' ∨ c = ',' ∨ c = ':'
      · rcases hd with rfl | rfl | rfl | rfl | rfl | rfl <;> simp at h <;> simp [← h.2]
      · simp only [not_or] at hd
        simp only [hd, if_false] at h
        split at h
        · simp only [Option.map_eq_some_iff, Prod.mk.injEq] at h
          obtain ⟨r, hr, -, hl⟩ := h
          have := scanString_length hr
          rw [← hl]; omega
        split at h
        · simp only [Option.map_eq_some_iff, Prod.mk.injEq] at h
          obtain ⟨r, hr, -, hl⟩ := h
          have := scanWord_length hr
          rw [← hl]; omega
        split at h
        · simp only [Option.map_eq_some_iff, Prod.mk.injEq] at h
          obtain ⟨r, hr, -, hl⟩ := h
          have := scanWord_length hr
          rw [← hl]; omega
        split at h
        · simp only [Option.map_eq_some_iff, Prod.mk.injEq] at h
          obtain ⟨r, hr, -, hl⟩ := h
          have := scanWord_length hr
          rw [← hl]; omega
        split at h
        · simp only [Option.map_eq_some_iff, Prod.mk.injEq] at h
          obtain ⟨r, hr, -, hl⟩ := h
          have := scanUnsigned_length hr
          rw [← hl]; omega
        · simp only [Option.map_eq_some_iff, Prod.mk.injEq] at h
          obtain ⟨r, hr, -, hl⟩ := h
          have := scanUnsigned_length hr
          simp only [List.length_cons] at this
          rw [← hl]; omega
  · simp at h

/-! ## Values -/

/-- An array or an object whose end has not been read: what it holds so far, the last first. -/
inductive Open where
  | array (items : List Json)
  /-- With the name of the field whose value comes next. -/
  | object (fields : List (Option String × Json)) (key : Option String)

/-- What the reader waits for, within the arrays and objects still open. -/
inductive State where
  /-- A value must come. -/
  | value (within : List Open)
  /-- The first item of an array, or its end. -/
  | item (within : List Open)
  /-- The first name of an object, or its end. -/
  | key (within : List Open)
  /-- The name of a further field. -/
  | nextKey (fields : List (Option String × Json)) (within : List Open)
  /-- The colon after a name. -/
  | colon (fields : List (Option String × Json)) (key : Option String) (within : List Open)
  /-- A value has been read. -/
  | done (value : Json) (within : List Open)

/-- The state after a lexeme where a value is due. -/
def State.start (within : List Open) : Lexeme → Option State
  | .openArray => some (.item within)
  | .openObject => some (.key within)
  | .string s => some (.done (.string s) within)
  | .plain j => some (.done j within)
  | _ => none

/-- The state after one more lexeme. -/
def State.next : State → Lexeme → Option State
  | .value within, l => State.start within l
  | .item within, .closeArray => some (.done (.array []) within)
  | .item within, l => State.start (.array [] :: within) l
  | .key within, .closeObject => some (.done (.object []) within)
  | .key within, .string k => some (.colon [] k.toOption within)
  | .key _, _ => none
  | .nextKey fields within, .string k => some (.colon fields k.toOption within)
  | .nextKey .., _ => none
  | .colon fields k within, .colon => some (.value (.object fields k :: within))
  | .colon .., _ => none
  | .done v (.array items :: within), .comma => some (.value (.array (v :: items) :: within))
  | .done v (.array items :: within), .closeArray =>
      some (.done (.array (v :: items).reverse) within)
  | .done v (.object fields k :: within), .comma => some (.nextKey ((k, v) :: fields) within)
  | .done v (.object fields k :: within), .closeObject =>
      some (.done (.object ((k, v) :: fields).reverse) within)
  | .done .., _ => none

/-- The value that has been read when nothing is left open. -/
def State.result? : State → Option Json
  | .done v [] => some v
  | _ => none

/-- Whether a character may stand between lexemes. -/
def isGap (c : Option Char) : Bool :=
  c == some ' ' || c == some '\t' || c == some '\n' || c == some '\r'

/-- Reading from a state to the end of the input. -/
def run (s : State) (cs : Input) : Option Json :=
  match cs with
  | [] => s.result?
  | c :: rest =>
      if isGap c then run s rest
      else
        match _h : lexeme? (c :: rest) with
        | none => none
        | some (l, rest') =>
            match s.next l with
            | none => none
            | some s' => run s' rest'
termination_by cs.length
decreasing_by
  · simp
  · exact lexeme?_length _h

/-- The value that an input denotes. -/
def read? (cs : Input) : Option Json :=
  run (.value []) cs

/-- The value that characters denote. -/
def ofChars? (cs : List Char) : Option Json :=
  read? (cs.map some)

/-- The value that a text denotes. -/
def parse? (s : String) : Option Json :=
  ofChars? s.toList

/-- The value that bytes in UTF-8 denote. -/
def ofBytes? (bs : List UInt8) : Option Json :=
  read? (Utf8.decode bs)

end StudyHall.Json
