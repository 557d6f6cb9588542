import Mathlib.Data.List.TakeWhile
import StudyHall.Mail.Address
import StudyHall.Proofs.Text.Pieces

/-!
# The form of mail addresses

A text is taken for a mail address by cutting it: at the last `@`, at dots, at colons, and at the
last bracket. Here the form of an address is said without cutting anything, as the patterns for
addresses say it, and every cut is shown to find that form and no other.

What stands in brackets holds no bracket, so the one that opens them is the last in the host, and a
host ends in one way at most in an address in brackets. This rests on the characters of addresses of
the two versions, which are hexadecimal digits, colons and dots.

## Main results

* `isLabel_iff`, `isHostName_iff` — labels, and names of dot-separated labels.
* `isLiteralChar_of_isAddressV4`, `isLiteralChar_of_isAddressV6` — the characters of internet
  addresses.
* `isHost_iff`, `isAddress_iff` — hosts and whole addresses.
-/

namespace StudyHall.Mail

open Text

variable {cs : List Char}

/-! ## The two ends of a text -/

section Ends

variable {mark : Char} {front back : List Char}

private theorem plain_reverse (plain : mark ∉ back) :
    ∀ c ∈ back.reverse, (c != mark) = true := by
  intro c mem
  rw [bne_iff_ne]
  rintro rfl
  exact plain (List.mem_reverse.mp mem)

/-- What stands behind the last mark is what comes before the first one from the other end. -/
theorem takeWhile_reverse (plain : mark ∉ back) :
    (front ++ mark :: back).reverse.takeWhile (· != mark) = back.reverse := by
  rw [List.reverse_append, List.reverse_cons, List.append_assoc, List.singleton_append,
    List.takeWhile_append_of_pos (plain_reverse plain), List.takeWhile_cons_of_neg (by simp),
    List.append_nil]

theorem dropWhile_reverse (plain : mark ∉ back) :
    (front ++ mark :: back).reverse.dropWhile (· != mark) = mark :: front.reverse := by
  rw [List.reverse_append, List.reverse_cons, List.append_assoc, List.singleton_append,
    List.dropWhile_append_of_pos (plain_reverse plain), List.dropWhile_cons_of_neg (by simp)]

/-- A text with a mark is cut in one way into what stands before and behind the last one. -/
theorem exists_eq_append_last (marked : mark ∈ cs) :
    ∃ front back, cs = front ++ mark :: back ∧ mark ∉ back := by
  obtain ⟨back, front, same, plain⟩ :=
    List.eq_append_cons_of_mem (List.mem_reverse.mpr marked)
  refine ⟨front.reverse, back.reverse, ?_, fun mem => plain (List.mem_reverse.mp mem)⟩
  rw [← List.reverse_reverse cs, same]
  simp

end Ends

/-! ## Names -/

/-- A label begins and ends with a letter or a digit. Between the two there are up to 61 letters,
digits and hyphens. -/
inductive Label : List Char → Prop
  | single {c : Char} (only : isAsciiAlphanumeric c = true) : Label [c]
  | many {first last : Char} {middle : List Char} (begins : isAsciiAlphanumeric first = true)
      (within : middle.length ≤ 61)
      (inner : ∀ c ∈ middle, isAsciiAlphanumeric c = true ∨ c = '-')
      (ends : isAsciiAlphanumeric last = true) : Label (first :: (middle ++ [last]))

theorem isLabel_iff : isLabel cs = true ↔ Label cs := by
  have hyphen {c : Char} (plain : isAsciiAlphanumeric c = true) : c ≠ '-' := by
    rintro rfl
    revert plain
    decide
  have ending (first last : Char) (middle : List Char) :
      (first :: (middle ++ [last])).getLast? = some last := by
    rw [← List.cons_append, List.getLast?_concat]
  constructor
  · intro label
    simp only [isLabel, Bool.and_eq_true, decide_eq_true_eq, List.all_eq_true, Bool.or_eq_true,
      beq_iff_eq, bne_iff_ne, ne_eq] at label
    obtain ⟨⟨⟨⟨long, short⟩, allowed⟩, front⟩, back⟩ := label
    cases cs with
    | nil => exact absurd long (by decide)
    | cons first rest =>
        have begins : isAsciiAlphanumeric first = true :=
          (allowed first List.mem_cons_self).resolve_right fun same => front (congrArg some same)
        obtain rfl | ⟨middle, last, rfl⟩ := List.eq_nil_or_concat rest
        · exact .single begins
        · rw [List.concat_eq_append] at *
          have ends : isAsciiAlphanumeric last = true :=
            (allowed last (by simp)).resolve_right fun same =>
              back ((ending first last middle).trans (congrArg some same))
          have within : middle.length ≤ 61 := by
            simp only [List.length_cons, List.length_append, List.length_nil] at short
            omega
          exact .many begins within (fun c mem => allowed c (by simp [mem])) ends
  · intro label
    cases label with
    | single only => simp [isLabel, only, hyphen only]
    | @many first last middle begins within inner ends =>
        have short : (first :: (middle ++ [last])).length ≤ 63 := by
          simp only [List.length_cons, List.length_append, List.length_nil]
          omega
        have allowed : ∀ c ∈ first :: (middle ++ [last]),
            isAsciiAlphanumeric c = true ∨ c = '-' := by
          simp only [List.forall_mem_cons, List.forall_mem_append]
          exact ⟨.inl begins, inner, .inl ends, nofun⟩
        have front : (first :: (middle ++ [last])).head? ≠ some '-' := fun same =>
          hyphen begins (Option.some.inj same)
        have back : (first :: (middle ++ [last])).getLast? ≠ some '-' := by
          rw [ending]
          exact fun same => hyphen ends (Option.some.inj same)
        simp only [isLabel, Bool.and_eq_true, decide_eq_true_eq, List.all_eq_true, Bool.or_eq_true,
          beq_iff_eq, bne_iff_ne]
        exact ⟨⟨⟨⟨Nat.succ_pos _, short⟩, allowed⟩, front⟩, back⟩

/-- A label has no dot. -/
theorem Label.plain (label : Label cs) : '.' ∉ cs := by
  have dot : isAsciiAlphanumeric '.' = false := by decide
  intro mem
  cases label with
  | single only =>
      rw [← List.mem_singleton.mp mem, dot] at only
      cases only
  | many begins within inner ends =>
      simp only [List.mem_cons, List.mem_append, List.not_mem_nil, or_false] at mem
      rcases mem with rfl | middle | rfl
      · cases dot.symm.trans begins
      · rcases inner _ middle with letter | same
        · cases dot.symm.trans letter
        · cases same
      · cases dot.symm.trans ends

/-- A name of a host is one label, or more with dots between them. -/
def HostName (cs : List Char) : Prop :=
  ∃ labels : List (List Char), labels ≠ [] ∧ (∀ label ∈ labels, Label label)
    ∧ cs = ['.'].intercalate labels

theorem isHostName_iff : isHostName cs = true ↔ HostName cs := by
  unfold isHostName
  simp only [List.all_eq_true, isLabel_iff]
  constructor
  · intro each
    refine ⟨_, pieces_ne_nil _ cs, each, ?_⟩
    rw [← joinWith_eq_intercalate, joinWith_pieces]
  · rintro ⟨labels, some, each, rfl⟩
    rw [← joinWith_eq_intercalate, pieces_joinWith (fun label mem => (each label mem).plain) some]
    exact each

/-! ## Internet addresses -/

/-- A character that may stand in brackets. -/
def isLiteralChar (c : Char) : Bool :=
  isHexDigit c || c == ':' || c == '.'

/-- What holds of all characters in the pieces of a text, and of the separator, holds of all
characters of the text. -/
theorem forall_of_pieces {sep : Char} {P : Char → Prop} (separator : P sep)
    (each : ∀ w ∈ pieces (· == sep) cs, ∀ c ∈ w, P c) : ∀ c ∈ cs, P c := by
  intro c mem
  by_cases same : c = sep
  · rwa [same]
  · by_contra fails
    rw [← joinWith_pieces sep cs] at mem
    exact not_mem_joinWith same (fun w piece inside => fails (each w piece c inside)) mem

theorem isLiteralChar_of_isDigit {c : Char} (digit : isDigit c = true) :
    isLiteralChar c = true := by
  simp [isLiteralChar, isHexDigit, digit]

theorem isLiteralChar_of_isAddressV4 (address : isAddressV4 cs = true) :
    ∀ c ∈ cs, isLiteralChar c = true := by
  simp only [isAddressV4, Bool.and_eq_true, List.all_eq_true] at address
  have dot : isLiteralChar '.' = true := by decide
  refine forall_of_pieces dot fun w piece c mem => isLiteralChar_of_isDigit ?_
  have octet := address.2 w piece
  simp only [isOctet, Bool.and_eq_true, List.all_eq_true] at octet
  exact octet.1.1.1 c mem

theorem isLiteralChar_of_isGroup (group : isGroup cs = true) :
    ∀ c ∈ cs, isLiteralChar c = true := by
  simp only [isGroup, Bool.and_eq_true, List.all_eq_true] at group
  intro c mem
  simp [isLiteralChar, group.2 c mem]

/-- What is counted as groups is made of groups and perhaps an address of version 4. -/
theorem isLiteralChar_of_groupCount? {gs : List (List Char)} {n : Nat}
    (counted : groupCount? gs = some n) : ∀ g ∈ gs, ∀ c ∈ g, isLiteralChar c = true := by
  induction gs using groupCount?.induct generalizing n with
  | case1 => exact nofun
  | case2 last group =>
      rw [List.forall_mem_singleton]
      exact isLiteralChar_of_isGroup group
  | case3 last noGroup address =>
      rw [List.forall_mem_singleton]
      exact isLiteralChar_of_isAddressV4 address
  | case4 last noGroup noAddress => simp [groupCount?, noGroup, noAddress] at counted
  | case5 g gs more group ih =>
      rw [groupCount?, if_pos group] at counted
      · obtain ⟨m, rest, -⟩ := Option.map_eq_some_iff.mp counted
        exact List.forall_mem_cons.mpr ⟨isLiteralChar_of_isGroup group, ih rest⟩
      · exact more
  | case6 g gs more noGroup =>
      rw [groupCount?, if_neg noGroup] at counted
      · cases counted
      · exact more

theorem isLiteralChar_of_groupsOf (each : ∀ g ∈ groupsOf cs, ∀ c ∈ g, isLiteralChar c = true) :
    ∀ c ∈ cs, isLiteralChar c = true := by
  unfold groupsOf at each
  split at each
  · next empty =>
      rw [List.isEmpty_iff.mp empty]
      exact nofun
  · have colon : isLiteralChar ':' = true := by decide
    exact forall_of_pieces colon each

/-- What stands before and behind a gap is the rest of the text. -/
theorem eq_of_cutAtGap {head tail : List Char} (cut : cutAtGap cs = some (head, tail)) :
    cs = head ++ ':' :: ':' :: tail := by
  induction cs using cutAtGap.induct generalizing head with
  | case1 rest =>
      cases cut
      rfl
  | case2 c rest other ih =>
      rw [cutAtGap] at cut
      · obtain ⟨⟨before, behind⟩, found, same⟩ := Option.map_eq_some_iff.mp cut
        cases same
        rw [ih found, List.cons_append]
      · exact other
  | case3 => cases cut

theorem isLiteralChar_of_isAddressV6 (address : isAddressV6 cs = true) :
    ∀ c ∈ cs, isLiteralChar c = true := by
  unfold isAddressV6 at address
  split at address
  · exact isLiteralChar_of_groupsOf (isLiteralChar_of_groupCount? (beq_iff_eq.mp address))
  · next head tail cut =>
      simp only at address
      split at address
      · next n counted =>
          simp only [Bool.and_eq_true, List.all_eq_true] at address
          have before : ∀ c ∈ head, isLiteralChar c = true :=
            isLiteralChar_of_groupsOf fun g mem => isLiteralChar_of_isGroup (address.1 g mem)
          have behind : ∀ c ∈ tail, isLiteralChar c = true :=
            isLiteralChar_of_groupsOf (isLiteralChar_of_groupCount? counted)
          rw [eq_of_cutAtGap cut]
          simp only [List.forall_mem_append, List.forall_mem_cons]
          exact ⟨before, by decide, by decide, behind⟩
      · cases address

/-! ## Hosts -/

/-- An internet address of either version. -/
def IsInternetAddress (ip : List Char) : Prop :=
  isAddressV4 ip = true ∨ isAddressV6 ip = true

theorem IsInternetAddress.literal {ip : List Char} (address : IsInternetAddress ip) :
    ∀ c ∈ ip, isLiteralChar c = true := by
  rcases address with four | six
  · exact isLiteralChar_of_isAddressV4 four
  · exact isLiteralChar_of_isAddressV6 six

/-- A text in brackets ends with the bracket that closes it, and the last bracket that opens one
stands before it. -/
theorem bracketed?_eq_some_iff {ip : List Char} :
    bracketed? cs = some ip ↔ ∃ front, cs = front ++ '[' :: (ip ++ [']']) ∧ '[' ∉ ip := by
  unfold bracketed?
  constructor
  · intro found
    split at found
    · next rest turned =>
        have whole : cs = rest.reverse ++ [']'] := by
          rw [← List.reverse_reverse cs, turned, List.reverse_cons]
        split at found
        · next opened =>
            cases found
            obtain ⟨front, back, same, plain⟩ := exists_eq_append_last
              (List.mem_reverse.mpr (List.contains_iff_mem.mp opened))
            have inside : rest.takeWhile (· != '[') = back.reverse := by
              rw [← List.reverse_reverse rest, same, takeWhile_reverse plain]
            refine ⟨front, ?_, ?_⟩
            · rw [whole, same, inside, List.reverse_reverse, List.append_assoc, List.cons_append]
            · rwa [inside, List.reverse_reverse]
        · cases found
    · cases found
  · rintro ⟨front, rfl, plain⟩
    have turned : (front ++ '[' :: (ip ++ [']'])).reverse
        = ']' :: (front ++ '[' :: ip).reverse := by
      simp
    have opened : (front ++ '[' :: ip).reverse.contains '[' = true := by
      simp
    simp only [turned, opened, if_true, takeWhile_reverse plain, List.reverse_reverse]

/-- A host is a name, or anything that ends in an internet address in brackets. -/
def Host (cs : List Char) : Prop :=
  HostName cs ∨ ∃ front ip, cs = front ++ '[' :: (ip ++ [']']) ∧ IsInternetAddress ip

theorem isHost_iff : isHost cs = true ↔ Host cs := by
  have closed : isLiteralChar '[' = false := by decide
  rw [isHost, Bool.or_eq_true, isHostName_iff]
  refine or_congr_right ⟨fun found => ?_, ?_⟩
  · split at found
    · next ip inside =>
        obtain ⟨front, whole, -⟩ := bracketed?_eq_some_iff.mp inside
        exact ⟨front, ip, whole, by simpa [IsInternetAddress] using found⟩
    · cases found
  · rintro ⟨front, ip, whole, address⟩
    have plain : '[' ∉ ip := fun mem => by cases closed.symm.trans (address.literal _ mem)
    rw [bracketed?_eq_some_iff.mpr ⟨front, whole, plain⟩]
    simpa [IsInternetAddress] using address

/-! ## Whole addresses -/

theorem cutAtLast_eq_some_iff {user host : List Char} :
    cutAtLast cs = some (user, host) ↔ cs = user ++ '@' :: host ∧ '@' ∉ host := by
  unfold cutAtLast
  constructor
  · intro cut
    split at cut
    · next marked =>
        obtain ⟨front, back, rfl, plain⟩ :=
          exists_eq_append_last (List.contains_iff_mem.mp marked)
        rw [takeWhile_reverse plain, dropWhile_reverse plain] at cut
        simp only [List.drop_one, List.tail_cons, List.reverse_reverse, Option.some.injEq,
          Prod.mk.injEq] at cut
        obtain ⟨rfl, rfl⟩ := cut
        exact ⟨rfl, plain⟩
    · cases cut
  · rintro ⟨rfl, plain⟩
    rw [if_pos (by simp), takeWhile_reverse plain, dropWhile_reverse plain]
    simp

/-- A text is a mail address if it has an `@` with a user before the last one and a host behind: the
user is no longer than 64 characters and made of letters, digits and marks, and the host is no
longer than 255 and one as it stands or in its ASCII form. -/
theorem isAddress_iff {s : String} :
    isAddress s = true ↔
      ∃ user host, s.toList = user ++ '@' :: host ∧ '@' ∉ host
        ∧ user.length ≤ 64 ∧ host.length ≤ 255
        ∧ user ≠ [] ∧ (∀ c ∈ user, isUserChar c = true)
        ∧ (Host host ∨ ∃ ascii, Idna.toAscii? host = some ascii ∧ Host ascii) := by
  have parts (user host : List Char) :
      (user.length ≤ 64 && host.length ≤ 255 && !user.isEmpty && user.all isUserChar
          && (isHost host || (Idna.toAscii? host).any isHost)) = true
        ↔ user.length ≤ 64 ∧ host.length ≤ 255 ∧ user ≠ [] ∧ (∀ c ∈ user, isUserChar c = true)
          ∧ (Host host ∨ ∃ ascii, Idna.toAscii? host = some ascii ∧ Host ascii) := by
    simp only [Bool.and_eq_true, Bool.or_eq_true, decide_eq_true_eq, Bool.not_eq_true',
      List.isEmpty_eq_false_iff, List.all_eq_true, Option.any_eq_true, isHost_iff, and_assoc]
  unfold isAddress
  split
  · next uncut =>
      refine ⟨nofun, ?_⟩
      rintro ⟨user, host, whole, plain, -⟩
      rw [cutAtLast_eq_some_iff.mpr ⟨whole, plain⟩] at uncut
      cases uncut
  · next user host cut =>
      rw [parts]
      constructor
      · intro sound
        obtain ⟨whole, plain⟩ := cutAtLast_eq_some_iff.mp cut
        exact ⟨user, host, whole, plain, sound⟩
      · rintro ⟨user', host', whole, plain, sound⟩
        rw [cutAtLast_eq_some_iff.mpr ⟨whole, plain⟩] at cut
        cases cut
        exact sound

end StudyHall.Mail
