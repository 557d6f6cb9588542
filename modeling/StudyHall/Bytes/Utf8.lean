/-!
# UTF-8

`encode` writes characters as bytes. `decode` reads bytes one at a time: a well-formed sequence
gives its character, and every maximal part that no well-formed sequence can contain gives `none`,
so that ill-formed input stays visible to the reader. `lossy` shows such a part as U+FFFD.

The reader keeps what a started sequence still owes: how many bytes, between which bounds the
next one lies (they exclude overlong forms, surrogates and values above U+10FFFF), and the bits
read so far.
-/

namespace StudyHall.Utf8

/-! ## Writing -/

/-- The one to four bytes of a character. -/
def encodeChar (c : Char) : List UInt8 :=
  let n := c.toNat
  if n < 0x80 then [UInt8.ofNat n]
  else if n < 0x800 then [UInt8.ofNat (0xc0 + n / 0x40), UInt8.ofNat (0x80 + n % 0x40)]
  else if n < 0x10000 then
    [UInt8.ofNat (0xe0 + n / 0x1000), UInt8.ofNat (0x80 + n / 0x40 % 0x40),
      UInt8.ofNat (0x80 + n % 0x40)]
  else
    [UInt8.ofNat (0xf0 + n / 0x40000), UInt8.ofNat (0x80 + n / 0x1000 % 0x40),
      UInt8.ofNat (0x80 + n / 0x40 % 0x40), UInt8.ofNat (0x80 + n % 0x40)]

/-- The bytes of a run of characters. -/
def encode (cs : List Char) : List UInt8 :=
  cs.flatMap encodeChar

/-- The bytes of a text. -/
def ofText (s : String) : List UInt8 :=
  encode s.toList

/-! ## Reading -/

/-- A started sequence: `owed` more bytes, the next one from `low` to `high`, after `bits`. -/
structure Started where
  owed : Nat
  low : Nat
  high : Nat
  bits : Nat

/-- What the first byte of a sequence gives: a character, a started sequence, or neither. -/
def lead (b : UInt8) : List (Option Char) × Option Started :=
  let n := b.toNat
  if n < 0x80 then ([some (Char.ofNat n)], none)
  else if 0xc2 ≤ n && n ≤ 0xdf then ([], some ⟨1, 0x80, 0xbf, n - 0xc0⟩)
  else if n == 0xe0 then ([], some ⟨2, 0xa0, 0xbf, 0⟩)
  else if n == 0xed then ([], some ⟨2, 0x80, 0x9f, 0xd⟩)
  else if 0xe1 ≤ n && n ≤ 0xef then ([], some ⟨2, 0x80, 0xbf, n - 0xe0⟩)
  else if n == 0xf0 then ([], some ⟨3, 0x90, 0xbf, 0⟩)
  else if 0xf1 ≤ n && n ≤ 0xf3 then ([], some ⟨3, 0x80, 0xbf, n - 0xf0⟩)
  else if n == 0xf4 then ([], some ⟨3, 0x80, 0x8f, 4⟩)
  else ([none], none)

/-- One byte more: what it completes, and what is started after it. A byte that a started
sequence cannot take ends that sequence as ill-formed and is then read as a first byte. -/
def step : Option Started → UInt8 → List (Option Char) × Option Started
  | none, b => lead b
  | some s, b =>
      let n := b.toNat
      if s.low ≤ n && n ≤ s.high then
        let bits := 0x40 * s.bits + (n - 0x80)
        if s.owed ≤ 1 then ([some (Char.ofNat bits)], none)
        else ([], some ⟨s.owed - 1, 0x80, 0xbf, bits⟩)
      else
        (none :: (lead b).1, (lead b).2)

/-- The characters and ill-formed parts of bytes that follow a started sequence. -/
def decodeFrom : Option Started → List UInt8 → List (Option Char)
  | none, [] => []
  | some _, [] => [none]
  | s, b :: bs => (step s b).1 ++ decodeFrom (step s b).2 bs

/-- The characters of bytes, with `none` for each maximal ill-formed part. -/
def decode (bs : List UInt8) : List (Option Char) :=
  decodeFrom none bs

/-- The text of bytes, or nothing when a part is ill-formed. -/
def text? (bs : List UInt8) : Option String :=
  ((decode bs).mapM id).map String.ofList

/-- The characters of bytes with U+FFFD for each ill-formed part. -/
def lossyChars (bs : List UInt8) : List Char :=
  (decode bs).map fun c => c.getD '\uFFFD'

/-- The text of bytes with U+FFFD for each ill-formed part. -/
def lossy (bs : List UInt8) : String :=
  String.ofList (lossyChars bs)

end StudyHall.Utf8
