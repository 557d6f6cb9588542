import StudyHall.Bytes.Hex

/-!
# Universally unique identifiers

An identifier is 32 hexadecimal digits. It is written in lower case with hyphens after 8, 12, 16
and 20 digits; `parse?` also reads upper case, the digits without hyphens, and the hyphenated form
in braces or after `urn:uuid:`.
-/

namespace StudyHall

/-- An identifier of 128 bits, by its hexadecimal digits. -/
structure Uuid where
  digits : List (Fin 16)
  length_digits : digits.length = 32
  deriving DecidableEq

namespace Uuid

/-! ## Writing -/

/-- The digits as characters. -/
def chars (ds : List (Fin 16)) : List Char :=
  ds.map fun d => Hex.digitChar d.val

/-- The hyphenated form in lower case. -/
def toChars (u : Uuid) : List Char :=
  let ds := u.digits
  chars (ds.take 8) ++ '-' :: chars ((ds.drop 8).take 4) ++ '-' :: chars ((ds.drop 12).take 4)
    ++ '-' :: chars ((ds.drop 16).take 4) ++ '-' :: chars (ds.drop 20)

/-- The hyphenated form as text. -/
def toText (u : Uuid) : String :=
  String.ofList u.toChars

/-- What holds of a hyphen and of every digit holds of all characters of the hyphenated form. -/
theorem of_mem_toChars {P : Char → Prop} (hyphen : P '-') (digit : ∀ d < 16, P (Hex.digitChar d))
    {u : Uuid} {c : Char} (mem : c ∈ u.toChars) : P c := by
  have digits {ds : List (Fin 16)} (mem : c ∈ chars ds) : P c := by
    obtain ⟨d, -, rfl⟩ := List.mem_map.mp mem
    exact digit d.val d.isLt
  simp only [toChars, List.mem_append, List.mem_cons] at mem
  rcases mem with (((mem | rfl | mem) | rfl | mem) | rfl | mem) | rfl | mem
  all_goals first | exact hyphen | exact digits mem

/-! ## Reading -/

/-- The value of a digit as a number below sixteen. -/
def digit? (c : Char) : Option (Fin 16) :=
  match Hex.digitValue? c with
  | some v => if h : v < 16 then some ⟨v, h⟩ else none
  | none => none

/-- The identifier of exactly 32 digits. -/
def ofDigits? (cs : List Char) : Option Uuid :=
  match cs.mapM digit? with
  | some ds => if h : ds.length = 32 then some ⟨ds, h⟩ else none
  | none => none

/-- The identifier written in groups of 8, 4, 4, 4 and 12 digits with hyphens between them. -/
def ofHyphenated? (cs : List Char) : Option Uuid :=
  if cs.length = 36 ∧ (cs.drop 8).head? = some '-' ∧ (cs.drop 13).head? = some '-'
      ∧ (cs.drop 18).head? = some '-' ∧ (cs.drop 23).head? = some '-' then
    ofDigits? (cs.take 8 ++ (cs.drop 9).take 4 ++ (cs.drop 14).take 4 ++ (cs.drop 19).take 4
      ++ cs.drop 24)
  else none

/-- Whether characters are `urn:uuid:` in any case. -/
def isUrnMark (cs : List Char) : Bool :=
  cs.map (fun c => if 'A' ≤ c ∧ c ≤ 'Z' then Char.ofNat (c.toNat + 32) else c)
    = ['u', 'r', 'n', ':', 'u', 'u', 'i', 'd', ':']

/-- The identifier that some characters denote. -/
def ofChars? (cs : List Char) : Option Uuid :=
  if cs.length = 32 then ofDigits? cs
  else if cs.length = 36 then ofHyphenated? cs
  else if cs.length = 38 ∧ cs.head? = some '\x7b' ∧ cs.getLast? = some '\x7d' then
    ofHyphenated? ((cs.drop 1).take 36)
  else if cs.length = 45 ∧ isUrnMark (cs.take 9) then ofHyphenated? (cs.drop 9)
  else none

/-- The identifier that a text denotes. -/
def parse? (s : String) : Option Uuid :=
  ofChars? s.toList

/-- The identifier whose digits are those of a number, modulo 2 to the 128. -/
def ofNat (n : Nat) : Uuid where
  digits := (List.range 32).map fun i => ⟨n / Nat.pow 16 (31 - i) % 16, Nat.mod_lt _ (by decide)⟩
  length_digits := by simp

end Uuid

end StudyHall
