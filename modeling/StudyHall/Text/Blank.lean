/-!
# Blanks, pieces and words

White space is the Unicode property `White_Space`. Text is cut over `List Char`; `String` appears
at the edge only.

## Main definitions

* `trim` drops the blanks at both ends.
* `pieces p` cuts at every character that satisfies `p` and keeps empty pieces; `joinWith` is its
  inverse.
* `words` are the maximal runs without a blank.
* `items` are the trimmed, non-empty pieces of a comma-separated list.
-/

namespace StudyHall.Text

/-! ## Blanks -/

/-- The characters with the Unicode property `White_Space`. -/
def isBlank (c : Char) : Bool :=
  let n := c.toNat
  (9 ≤ n && n ≤ 13) || n == 0x20 || n == 0x85 || n == 0xa0 || n == 0x1680
    || (0x2000 ≤ n && n ≤ 0x200a) || n == 0x2028 || n == 0x2029 || n == 0x202f || n == 0x205f
    || n == 0x3000

/-- Characters without the blanks before the first and after the last of them. -/
def trimChars (cs : List Char) : List Char :=
  ((cs.dropWhile isBlank).reverse.dropWhile isBlank).reverse

/-- A text without the blanks at its ends. -/
def trim (s : String) : String :=
  String.ofList (trimChars s.toList)

/-! ## Cutting and joining -/

/-- The pieces between the characters that satisfy `p`, empty ones included, so there is always
at least one. -/
def pieces (p : Char → Bool) : List Char → List (List Char)
  | [] => [[]]
  | c :: cs =>
      if p c then [] :: pieces p cs
      else
        match pieces p cs with
        | [] => [[c]]
        | w :: ws => (c :: w) :: ws

theorem pieces_ne_nil (p : Char → Bool) (cs : List Char) : pieces p cs ≠ [] := by
  cases cs with
  | nil => simp [pieces]
  | cons c cs =>
      unfold pieces
      split
      · simp
      · split <;> simp

/-- What nothing separates is one piece. -/
theorem pieces_of_none {p : Char → Bool} {w : List Char} (h : ∀ c ∈ w, p c = false) :
    pieces p w = [w] := by
  induction w with
  | nil => rfl
  | cons c cs ih =>
      rw [pieces, h c List.mem_cons_self, ih fun d hd => h d (List.mem_cons_of_mem c hd)]
      rfl

/-- A separator ends the piece in front of it. -/
theorem pieces_append {p : Char → Bool} {w : List Char} {sep : Char} (h : ∀ c ∈ w, p c = false)
    (hsep : p sep = true) (cs : List Char) : pieces p (w ++ sep :: cs) = w :: pieces p cs := by
  induction w with
  | nil => rw [List.nil_append, pieces, if_pos hsep]
  | cons c w ih =>
      rw [List.cons_append, pieces, h c List.mem_cons_self,
        ih fun d hd => h d (List.mem_cons_of_mem c hd)]
      rfl

/-- Texts with a separator between neighbours. -/
def joinWith (sep : List Char) : List (List Char) → List Char
  | [] => []
  | [w] => w
  | w :: v :: ws => w ++ sep ++ joinWith sep (v :: ws)

/-- Joining the pieces undoes the cutting. -/
theorem joinWith_pieces (sep : Char) (cs : List Char) :
    joinWith [sep] (pieces (· == sep) cs) = cs := by
  induction cs with
  | nil => rfl
  | cons c cs ih =>
      rw [pieces]
      cases rest : pieces (· == sep) cs with
      | nil => exact absurd rest (pieces_ne_nil _ cs)
      | cons w ws =>
          rw [rest] at ih
          split
          · next same =>
              rw [beq_iff_eq.mp same, joinWith, ih]
              rfl
          · cases ws with
            | nil => exact congrArg (List.cons c) ih
            | cons v ws => exact congrArg (List.cons c) ih

/-- The maximal runs of characters that are not blank. -/
def wordsOf (cs : List Char) : List (List Char) :=
  (pieces isBlank cs).filter fun w => !w.isEmpty

/-- The words of a text. -/
def words (s : String) : List String :=
  (wordsOf s.toList).map String.ofList

/-- The items of a comma-separated list: its pieces, trimmed, without the empty ones. -/
def itemsOf (cs : List Char) : List (List Char) :=
  ((pieces (· == ',') cs).map trimChars).filter fun w => !w.isEmpty

/-- The items of a comma-separated list as texts. -/
def items (s : String) : List String :=
  (itemsOf s.toList).map String.ofList

/-! ## Replacing -/

/-- Every occurrence of the two characters `a`, `b` in a row replaced by `r`, from the left and
without looking again at what was put in. -/
def replacePair (a b r : Char) : List Char → List Char
  | [] => []
  | [c] => [c]
  | c :: d :: cs =>
      if c = a ∧ d = b then r :: replacePair a b r cs else c :: replacePair a b r (d :: cs)

/-- Whether the characters of `needle` occur in a row. -/
def occursIn (needle : List Char) : List Char → Bool
  | [] => needle.isEmpty
  | c :: cs => needle.isPrefixOf (c :: cs) || occursIn needle cs

theorem occursIn_eq_true_iff {needle cs : List Char} :
    occursIn needle cs = true ↔ needle <:+: cs := by
  induction cs with
  | nil => simp [occursIn]
  | cons c cs ih =>
      rw [occursIn, Bool.or_eq_true, List.isPrefixOf_iff_prefix, ih, List.infix_cons_iff]

end StudyHall.Text
