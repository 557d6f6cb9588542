import StudyHall.Http.Form
import StudyHall.Http.Message
import StudyHall.Proofs.Bytes.Utf8
import StudyHall.Proofs.Text.Pieces

/-!
# Forms read back

Whoever writes a text into a form has a choice: every character may be escaped, byte by byte and
with digits of either case, and a space may be a plus sign. Only a few characters have to be escaped
because they would be read as something else. All these ways of writing are read back as the text,
since plus signs are resolved before the escapes: an escaped plus sign stays one.

A form may hold pieces that are nobody's, and its pieces stand in any order. What is asked for by
name is found all the same, as long as no name that is known stands twice.

## Main results

* `component_of_writes` — a text is read back however it was written.
* `expected?_pairs_of_lists` — a form with known and foreign pieces.
* `Target.query_ofText` — the query of an address.
-/

namespace StudyHall

open Text

namespace Form

/-! ## Ways of writing -/

/-- Bytes, each as a percent sign and two digits. -/
inductive Escapes : List UInt8 → List Char → Prop
  | nil : Escapes [] []
  | cons {b : UInt8} {bs : List UInt8} {hi lo : Char} {cs : List Char}
      (digits : Hex.byte? hi lo = some b) (more : Escapes bs cs) :
      Escapes (b :: bs) ('%' :: hi :: lo :: cs)

/-- The characters that do not stand for themselves in a form. -/
def reserved : List Char := ['%', '+', '&', '#']

/-- The characters that end a piece of a form or the form as a whole. -/
def separators : List Char := ['&', '#']

/-- A text as it may be written in a form. -/
inductive Writes : List Char → List Char → Prop
  | nil : Writes [] []
  | plain {c : Char} {cs ws : List Char} (free : c ∉ reserved) (more : Writes cs ws) :
      Writes (c :: cs) (c :: ws)
  | space {cs ws : List Char} (more : Writes cs ws) : Writes (' ' :: cs) ('+' :: ws)
  | escaped {c : Char} {cs es ws : List Char} (escapes : Escapes (Utf8.encodeChar c) es)
      (more : Writes cs ws) : Writes (c :: cs) (es ++ ws)

/-- A name and a value as a piece of a form. In a name the equals sign has to be escaped too. -/
inductive WritesPair (name value : String) : List Char → Prop
  | of {ns vs : List Char} (left : Writes name.toList ns) (uncut : '=' ∉ ns)
      (right : Writes value.toList vs) : WritesPair name value (ns ++ '=' :: vs)

/-- Pieces of a form that give texts under names, in order, among others that are empty or have
names which are not known. -/
inductive Lists (names : List String) : List (String × String) → List (List Char) → Prop
  | nil : Lists names [] []
  | given {name value : String} {piece : List Char} {texts : List (String × String)}
      {rest : List (List Char)} (known : name ∈ names) (written : WritesPair name value piece)
      (more : Lists names texts rest) : Lists names ((name, value) :: texts) (piece :: rest)
  | other {piece : List Char} {texts : List (String × String)} {rest : List (List Char)}
      (uncut : '&' ∉ piece) (whole : '#' ∉ piece) (foreign : piece = [] ∨ (pair piece).1 ∉ names)
      (more : Lists names texts rest) : Lists names texts (piece :: rest)

/-! ## Escapes -/

/-- A byte is written with digits. -/
theorem digits_of_byte? {b : UInt8} {hi lo : Char} (digits : Hex.byte? hi lo = some b) :
    Hex.digitValue? hi ≠ none ∧ Hex.digitValue? lo ≠ none := by
  unfold Hex.byte? at digits
  split at digits
  · next high low =>
      rw [high, low]
      exact ⟨nofun, nofun⟩
  · cases digits

theorem Escapes.not_mem {bs : List UInt8} {cs : List Char} (escapes : Escapes bs cs) {c : Char}
    (noDigit : Hex.digitValue? c = none) (other : c ≠ '%') : c ∉ cs := by
  induction escapes with
  | nil => exact List.not_mem_nil
  | cons digits more ih =>
      obtain ⟨high, low⟩ := digits_of_byte? digits
      simp only [List.mem_cons, not_or]
      refine ⟨other, ?_, ?_, ih⟩
      · rintro rfl
        exact high noDigit
      · rintro rfl
        exact low noDigit

/-- Escapes are resolved into their bytes. -/
theorem Escapes.decode_append {bs : List UInt8} {cs : List Char} (escapes : Escapes bs cs)
    (rest : List Char) : Percent.decode (cs ++ rest) = bs ++ Percent.decode rest := by
  induction escapes with
  | nil => rfl
  | cons digits more ih =>
      show Percent.decode ('%' :: _ :: _ :: (_ ++ rest)) = _
      rw [Percent.decode, digits, ih]
      rfl

theorem decode_cons_of_ne {c : Char} (other : c ≠ '%') (rest : List Char) :
    Percent.decode (c :: rest) = Utf8.encodeChar c ++ Percent.decode rest := by
  rw [Percent.decode]
  rintro _ _ _ rfl
  exact absurd rfl other

/-! ## Texts -/

theorem spaces_append (cs ds : List Char) : spaces (cs ++ ds) = spaces cs ++ spaces ds :=
  List.map_append

theorem spaces_of_not_mem {cs : List Char} (none : '+' ∉ cs) : spaces cs = cs := by
  have same : ∀ c ∈ cs, (if c = '+' then ' ' else c) = c := by
    intro c mem
    apply if_neg
    rintro rfl
    exact none mem
  unfold spaces
  rw [List.map_congr_left same, List.map_id']

/-- However a text is written, its bytes are read back. -/
theorem Writes.decode {cs ws : List Char} (writes : Writes cs ws) :
    Percent.decode (spaces ws) = Utf8.encode cs := by
  induction writes with
  | nil => rfl
  | @plain c cs ws free more ih =>
      simp only [reserved, List.mem_cons, not_or] at free
      have head : spaces (c :: ws) = c :: spaces ws := by
        rw [spaces, List.map_cons, if_neg free.2.1]
        rfl
      rw [head, decode_cons_of_ne free.1, ih]
      rfl
  | @space cs ws more ih =>
      show Percent.decode (' ' :: spaces ws) = _
      rw [decode_cons_of_ne (by decide), ih]
      rfl
  | @escaped c cs es ws escapes more ih =>
      have kept : spaces es = es := spaces_of_not_mem (escapes.not_mem (by decide) (by decide))
      rw [spaces_append, kept, escapes.decode_append, ih]
      rfl

/-- A text is read back however it was written. -/
theorem component_of_writes {text : String} {ws : List Char} (writes : Writes text.toList ws) :
    component ws = text := by
  rw [component, Percent.lossy, writes.decode, Utf8.lossy, Utf8.lossyChars, Utf8.decode_encode,
    List.map_map]
  show String.ofList (text.toList.map id) = text
  rw [List.map_id, String.ofList_toList]

/-- A separator has to be escaped. It is no digit and none of the signs that have a meaning within a
piece. -/
theorem separators_spec : ∀ c ∈ separators,
    c ∈ reserved ∧ Hex.digitValue? c = none ∧ c ≠ '%' ∧ c ≠ '+' ∧ c ≠ '=' :=
  forall_mem_of_all (by decide)

/-- No separator is left in a text that is written. -/
theorem Writes.not_mem {cs ws : List Char} (writes : Writes cs ws) {c : Char}
    (separator : c ∈ separators) : c ∉ ws := by
  obtain ⟨special, noDigit, percent, plus, -⟩ := separators_spec c separator
  induction writes with
  | nil => exact List.not_mem_nil
  | plain free more ih =>
      rw [List.mem_cons, not_or]
      refine ⟨?_, ih⟩
      rintro rfl
      exact free special
  | space more ih =>
      rw [List.mem_cons, not_or]
      exact ⟨plus, ih⟩
  | escaped escapes more ih =>
      rw [List.mem_append, not_or]
      exact ⟨escapes.not_mem noDigit percent, ih⟩

/-- A text without characters that have to be escaped may stand as it is. -/
theorem Writes.refl {cs : List Char} (free : ∀ c ∈ cs, c ∉ reserved) : Writes cs cs := by
  induction cs with
  | nil => exact .nil
  | cons c cs ih =>
      obtain ⟨first, others⟩ := List.forall_mem_cons.mp free
      exact .plain first (ih others)

theorem exists_escapes (bs : List UInt8) : ∃ cs, Escapes bs cs := by
  induction bs with
  | nil => exact ⟨[], .nil⟩
  | cons b bs ih =>
      obtain ⟨cs, escapes⟩ := ih
      have below : b.toNat < 256 := b.toNat_lt
      have digits : Hex.byte? (Hex.digitChar (b.toNat / 16)) (Hex.digitChar (b.toNat % 16))
          = some b := by
        rw [Hex.byte?, Hex.digitValue?_digitChar (by omega), Hex.digitValue?_digitChar (by omega)]
        simp only [Nat.div_add_mod, UInt8.ofNat_toNat]
      exact ⟨_, .cons digits escapes⟩

/-- Every text can be written, with an escape for every character if need be. -/
theorem exists_writes (cs : List Char) : ∃ ws, Writes cs ws ∧ '=' ∉ ws := by
  induction cs with
  | nil => exact ⟨[], .nil, List.not_mem_nil⟩
  | cons c cs ih =>
      obtain ⟨ws, writes, uncut⟩ := ih
      obtain ⟨es, escapes⟩ := exists_escapes (Utf8.encodeChar c)
      refine ⟨es ++ ws, .escaped escapes writes, ?_⟩
      rw [List.mem_append, not_or]
      exact ⟨escapes.not_mem (by decide) (by decide), uncut⟩

/-! ## Pieces -/

/-- What stands before the first of some character, and the rest. -/
theorem around_first {c : Char} {cs : List Char} (absent : c ∉ cs) (ds : List Char) :
    (cs ++ c :: ds).takeWhile (· != c) = cs ∧ (cs ++ c :: ds).dropWhile (· != c) = c :: ds := by
  have before : ∀ d ∈ cs, (d != c) = true := by
    intro d mem
    rw [bne_iff_ne]
    rintro rfl
    exact absent mem
  rw [List.takeWhile_append_of_pos before, List.dropWhile_append_of_pos before]
  simp

theorem cut_append_cons {ns : List Char} (uncut : '=' ∉ ns) (vs : List Char) :
    cut (ns ++ '=' :: vs) = (ns, vs) := by
  obtain ⟨before, behind⟩ := around_first uncut vs
  rw [cut, before, behind]
  rfl

/-- A piece is read back as the name and the value that it was written for. -/
theorem WritesPair.pair_eq {name value : String} {piece : List Char}
    (written : WritesPair name value piece) : pair piece = (name, value) := by
  obtain ⟨left, uncut, right⟩ := written
  rw [pair, cut_append_cons uncut, component_of_writes left, component_of_writes right]

theorem WritesPair.ne_nil {name value : String} {piece : List Char}
    (written : WritesPair name value piece) : piece ≠ [] := by
  obtain ⟨left, uncut, right⟩ := written
  simp

theorem WritesPair.not_mem {name value : String} {piece : List Char}
    (written : WritesPair name value piece) {c : Char} (separator : c ∈ separators) :
    c ∉ piece := by
  obtain ⟨-, -, -, -, equals⟩ := separators_spec c separator
  obtain ⟨left, uncut, right⟩ := written
  rw [List.mem_append, List.mem_cons, not_or, not_or]
  exact ⟨left.not_mem separator, equals, right.not_mem separator⟩

/-- No separator stands in a piece of a form. -/
theorem Lists.not_mem {names : List String} {texts : List (String × String)}
    {ws : List (List Char)} (lists : Lists names texts ws) {c : Char}
    (separator : c ∈ separators) : ∀ w ∈ ws, c ∉ w := by
  induction lists with
  | nil => exact nofun
  | given known written more ih =>
      rw [List.forall_mem_cons]
      exact ⟨written.not_mem separator, ih⟩
  | other uncut whole foreign more ih =>
      rw [List.forall_mem_cons]
      refine ⟨?_, ih⟩
      rw [separators, List.mem_cons, List.mem_singleton] at separator
      rcases separator with rfl | rfl
      · exact uncut
      · exact whole

/-- Texts under known names can be put into a form. -/
theorem exists_lists {names : List String} (texts : List (String × String))
    (known : ∀ p ∈ texts, p.1 ∈ names) : ∃ ws, Lists names texts ws := by
  induction texts with
  | nil => exact ⟨[], .nil⟩
  | cons p texts ih =>
      obtain ⟨first, others⟩ := List.forall_mem_cons.mp known
      obtain ⟨ws, lists⟩ := ih others
      obtain ⟨ns, left, uncut⟩ := exists_writes p.1.toList
      obtain ⟨vs, right, -⟩ := exists_writes p.2.toList
      exact ⟨_, .given first (.of left uncut right) lists⟩

/-- The known texts of a form are those that its pieces give. -/
theorem Lists.known_eq {names : List String} {texts : List (String × String)}
    {ws : List (List Char)} (lists : Lists names texts ws) :
    ((ws.filter fun w => !w.isEmpty).map pair).filter (fun p => names.contains p.1) = texts := by
  induction lists with
  | nil => rfl
  | @given name value piece texts rest known written more ih =>
      have filled : (!piece.isEmpty) = true := by simpa using written.ne_nil
      have mem : names.contains (pair piece).1 = true := by
        rw [written.pair_eq]
        simpa using known
      rw [List.filter_cons, if_pos filled, List.map_cons, List.filter_cons, if_pos mem, ih,
        written.pair_eq]
  | @other piece texts rest uncut whole foreign more ih =>
      by_cases filled : (!piece.isEmpty) = true
      · have absent : ¬ names.contains (pair piece).1 = true := by
          have written : piece ≠ [] := by simpa using filled
          simpa using foreign.resolve_left written
        rw [List.filter_cons, if_pos filled, List.map_cons, List.filter_cons, if_neg absent, ih]
      · rw [List.filter_cons, if_neg filled, ih]

theorem pairs_joinWith {ws : List (List Char)} (uncut : ∀ w ∈ ws, '&' ∉ w) :
    pairs (joinWith ['&'] ws) = (ws.filter fun w => !w.isEmpty).map pair := by
  cases ws with
  | nil => rfl
  | cons w ws => rw [pairs, pieces_joinWith uncut (by simp)]

/-- A form gives the known texts of its pieces, unless a name stands twice among them. -/
theorem expected?_pairs_of_lists {names : List String} {texts : List (String × String)}
    {ws : List (List Char)} (lists : Lists names texts ws) (once : (texts.map Prod.fst).Nodup) :
    expected? names (pairs (joinWith ['&'] ws)) = some texts := by
  rw [pairs_joinWith (lists.not_mem (by decide)), expected?, lists.known_eq]
  exact if_pos once

end Form

/-! ## Addresses -/

/-- The query of an address is what follows its question mark. -/
theorem Target.query_ofText {path query : List Char} (unasked : '?' ∉ path) (whole : '#' ∉ path)
    (plain : '#' ∉ query) :
    (Target.ofText (String.ofList ('/' :: path ++ '?' :: query))).query = query := by
  have kept : ∀ c ∈ '/' :: path ++ '?' :: query, (c != '#') = true := by
    intro c mem
    rw [bne_iff_ne]
    rintro rfl
    simp [whole, plain] at mem
  have rooted : Target.ofText (String.ofList ('/' :: path ++ '?' :: query))
      = Target.ofPath ('/' :: path ++ '?' :: query) := by
    rw [Target.ofText, String.toList_ofList]
    rfl
  have asked : '?' ∉ '/' :: path := by
    rw [List.mem_cons, not_or]
    exact ⟨by decide, unasked⟩
  rw [rooted, Target.ofPath, List.takeWhile_eq_self_iff.mpr kept,
    (Form.around_first asked query).2]
  rfl

end StudyHall
