import StudyHall.Json.Printer
import StudyHall.Json.Reader

/-!
# Strings read back

A string that is written is read back as the text it was written from, whatever its characters
are: quotes, backslashes and control characters stand as escapes, and a control character without
a short escape as a unit of 16 bits that gives the character again.

## Main results

* `scanString_escapeChar`, `textOf_pieceOf` — one character is written as one piece, which denotes
  it.
* `lexeme?_renderString` — a written string is one lexeme, its text.
-/

namespace StudyHall.Json

/-! ## Units -/

/-- A unit of 16 bits written as four digits is read back. -/
theorem unit?_digits {n : Nat} (h : n < 0x10000) :
    unit? (Hex.digitChar (n / 0x1000 % 16)) (Hex.digitChar (n / 0x100 % 16))
      (Hex.digitChar (n / 0x10 % 16)) (Hex.digitChar (n % 16)) = some n := by
  simp only [unit?, Hex.digitValue?_digitChar (Nat.mod_lt _ (show 0 < 16 by decide)),
    Option.some.injEq]
  omega

theorem fixed_four (n : Nat) :
    Hex.fixed 4 n = [Hex.digitChar (n / 0x1000 % 16), Hex.digitChar (n / 0x100 % 16),
      Hex.digitChar (n / 0x10 % 16), Hex.digitChar (n % 16)] := by
  simp only [Hex.fixed, List.nil_append, List.cons_append, Nat.div_div_eq_div_mul]

/-! ## Steps of the scanner -/

variable {rest : Input}

theorem scanString_quote (acc : List Piece) :
    scanString acc (some '"' :: rest) = some (acc.reverse, rest) := by
  unfold scanString
  simp only [if_true]

theorem scanString_escape {e c : Char} (acc : List Piece) (hu : e ≠ 'u')
    (h : shortEscape? e = some c) :
    scanString acc (some '\\' :: some e :: rest) = scanString (.char c :: acc) rest := by
  conv => lhs; unfold scanString
  simp only [Char.reduceEq, if_false, if_true, hu, h]

theorem scanString_unit {w x y z : Char} {n : Nat} (acc : List Piece)
    (h : unit? w x y z = some n) :
    scanString acc (some '\\' :: some 'u' :: some w :: some x :: some y :: some z :: rest)
      = scanString (.unit n :: acc) rest := by
  conv => lhs; unfold scanString
  simp only [Char.reduceEq, if_false, if_true, h]

theorem scanString_visible {c : Char} (acc : List Piece) (quote : c ≠ '"') (backslash : c ≠ '\\')
    (visible : ¬ c.toNat < 0x20) :
    scanString acc (some c :: rest) = scanString (.char c :: acc) rest := by
  conv => lhs; unfold scanString
  simp only [quote, backslash, visible, if_false]

/-! ## Characters -/

/-- The characters with an escape of one letter. -/
def hasShortEscape (c : Char) : Bool :=
  c = '"' || c = '\\' || c = '\x08' || c = '\t' || c = '\n' || c = '\x0c' || c = '\r'

/-- The piece that a character is written as. -/
def pieceOf (c : Char) : Piece :=
  if !hasShortEscape c && c.toNat < 0x20 then .unit c.toNat else .char c

/-- One written character is scanned as one piece. -/
theorem scanString_escapeChar (c : Char) (acc : List Piece) :
    scanString acc ((escapeChar c).map some ++ rest) = scanString (pieceOf c :: acc) rest := by
  by_cases short : hasShortEscape c = true
  · -- each of the seven escapes is read in two steps
    have piece : pieceOf c = .char c := by
      simp only [pieceOf, short, Bool.not_true, Bool.false_and, Bool.false_eq_true, if_false]
    rw [piece]
    simp only [hasShortEscape, Bool.or_eq_true, decide_eq_true_eq] at short
    rcases short with (((((rfl | rfl) | rfl) | rfl) | rfl) | rfl) | rfl <;>
      exact scanString_escape acc (by decide) rfl
  · have plain := short
    simp only [hasShortEscape, Bool.or_eq_true, decide_eq_true_eq, not_or] at plain
    obtain ⟨⟨⟨⟨⟨⟨quote, backslash⟩, b⟩, t⟩, n⟩, f⟩, r⟩ := plain
    simp only [escapeChar, quote, backslash, b, t, n, f, r, if_false]
    split
    · next control =>
        have piece : pieceOf c = .unit c.toNat := by
          simp only [pieceOf, short, control, decide_true, Bool.not_false, Bool.and_self, if_true]
        rw [piece, fixed_four]
        exact scanString_unit acc (unit?_digits (by omega))
    · next visible =>
        have piece : pieceOf c = .char c := by
          simp only [pieceOf, visible, decide_false, Bool.and_false, Bool.false_eq_true, if_false]
        rw [piece]
        exact scanString_visible acc quote backslash visible

/-- The piece of a character denotes it. -/
theorem textOf_pieceOf (c : Char) (acc : List Char) (junk : Bool) (ps : List Piece) :
    textOf acc junk (pieceOf c :: ps) = textOf (c :: acc) junk ps := by
  unfold pieceOf
  split
  · next control =>
      simp only [Bool.and_eq_true, decide_eq_true_eq] at control
      have unpaired : c.toNat < 0xd800 ∨ 0xe000 ≤ c.toNat := by omega
      conv => lhs; unfold textOf
      rw [if_pos unpaired, Char.ofNat_toNat]
  · rfl

/-! ## Strings -/

theorem scanString_escaped (cs : List Char) (acc : List Piece) :
    scanString acc ((cs.flatMap escapeChar).map some ++ some '"' :: rest)
      = some (acc.reverse ++ cs.map pieceOf, rest) := by
  induction cs generalizing acc with
  | nil =>
      simp only [List.flatMap_nil, List.map_nil, List.nil_append, List.append_nil]
      exact scanString_quote acc
  | cons c cs ih =>
      simp only [List.flatMap_cons, List.map_append, List.append_assoc]
      rw [scanString_escapeChar, ih]
      simp only [List.reverse_cons, List.append_assoc, List.cons_append, List.nil_append,
        List.map_cons]

theorem textOf_pieces (cs acc : List Char) :
    textOf acc false (cs.map pieceOf) = .ok (acc.reverse ++ cs) := by
  induction cs generalizing acc with
  | nil =>
      simp only [List.map_nil, textOf, Bool.false_eq_true, if_false, List.append_nil]
  | cons c cs ih =>
      rw [List.map_cons, textOf_pieceOf, ih]
      simp only [List.reverse_cons, List.append_assoc, List.cons_append, List.nil_append]

/-- A text as what is read of it, and a string that is no text as one noticed at its end. -/
def readBack : Option String → Except Spoilt String
  | some s => .ok s
  | none => .error .atEnd

@[simp]
theorem readBack_toOption (s : Option String) : (readBack s).toOption = s := by
  cases s with
  | none => rfl
  | some s => rfl

/-- A written string is one lexeme, its text. -/
theorem lexeme?_renderString (s : Option String) :
    lexeme? ((renderString s).map some ++ rest) = some (.string (readBack s), rest) := by
  cases s with
  | none =>
      have surrogate : unit? 'd' '8' '0' '0' = some 0xd800 := rfl
      show (scanString [] (some '\\' :: some 'u' :: some 'd' :: some '8' :: some '0' :: some '0'
        :: some '"' :: rest)).map _ = _
      rw [scanString_unit [] surrogate, scanString_quote]
      rfl
  | some s =>
      have scanned : scanString [] ((s.toList.flatMap escapeChar).map some ++ some '"' :: rest)
          = some (s.toList.map pieceOf, rest) := scanString_escaped s.toList []
      simp only [renderString, List.map_cons, List.map_append, List.map_nil, List.cons_append,
        List.append_assoc, List.nil_append]
      show (scanString [] _).map _ = _
      rw [scanned]
      simp only [Option.map_some, textOf_pieces, List.reverse_nil, List.nil_append]
      show some (Lexeme.string (.ok (String.ofList s.toList)), rest) = _
      rw [String.ofList_toList]
      rfl

end StudyHall.Json
