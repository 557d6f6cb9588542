import StudyHall.Json.Reach

/-!
# Headers of tokens

A header says how its token is signed, and may say much else: each parameter that has a meaning
must have a value of its type and may not stand twice, and any other parameter must be a text. A
key may be part of a header; it is checked for its form and then not used.

`isTokenHeader` tells whether a value is a header under which a signature can be checked.
-/

namespace StudyHall

/-- How many levels of arrays and objects may be open in each other within a part of a token. -/
def tokenDepth : Nat := 126

/-- Whether a value is a text or `null`. -/
def isTextOrNull : Json → Bool
  | .string (.ok _) => true
  | .null => true
  | _ => false

/-- Whether a value is a list of texts or `null`. -/
def isTextsOrNull : Json → Bool
  | .array items => items.all fun j => j.text?.isSome
  | .null => true
  | _ => false

/-! ## Keys -/

/-- A kind of key: its name, whether it lies on a curve, and the names of its numbers, which are
texts. -/
structure KeyKind where
  name : String
  onCurve : Bool
  numbers : List String

namespace KeyKind

/-- The kinds of keys. -/
def all : List KeyKind :=
  [⟨"EC", true, ["x", "y"]⟩, ⟨"RSA", false, ["n", "e"]⟩, ⟨"oct", false, ["k"]⟩,
    ⟨"OKP", true, ["x"]⟩]

/-- The curves. -/
def curves : List String := ["P-256", "P-384", "P-521", "Ed25519"]

/-- The names of the parameters of a kind. -/
def names (k : KeyKind) : List String :=
  "kty" :: (if k.onCurve then "crv" :: k.numbers else k.numbers)

/-- Whether fields make up a key of a kind; fields of other names do not count. -/
def fits (k : KeyKind) (fields : List (String × Json)) : Bool :=
  let own := fields.filter fun f => k.names.contains f.1
  decide (own.map Prod.fst).Nodup
    && (own.lookup "kty").any (fun j => j.name? == some k.name)
    && (!k.onCurve || (own.lookup "crv").any fun j => j.name?.any fun c => curves.contains c)
    && k.numbers.all fun n => (own.lookup n).any fun j => j.text?.isSome

end KeyKind

/-- Whether a value names an algorithm, which need not be known, or is `null`. -/
def isAlgorithm : Json → Bool
  | .null => true
  | .object [(some _, .object [])] => true
  | j => j.name?.isSome

/-- The parameters of all keys that hold one text. -/
def keyTextNames : List String := ["use", "kid", "x5u", "x5t", "x5t#S256"]

/-- The parameters of all keys that hold a list of texts. -/
def keyListNames : List String := ["key_ops", "x5c"]

/-- The parameters of all keys. -/
def keyNames : List String := "alg" :: (keyTextNames ++ keyListNames)

/-- Whether a parameter of all keys has a value of its type. -/
def isKeyField (name : String) (value : Json) : Bool :=
  if name = "alg" then isAlgorithm value
  else if keyListNames.contains name then isTextsOrNull value
  else isTextOrNull value

/-- Whether a value is a key: every part of it can be read, the parameters of all keys have their
types and stand once, and the rest fits one of the kinds. -/
def isKey : Json → Bool
  | .object fields =>
      let named := fields.filterMap fun f => f.1.map fun name => (name, f.2)
      let (common, own) := named.partition fun f => keyNames.contains f.1
      (Json.object fields).reach tokenDepth == .whole
        && decide (common.map Prod.fst).Nodup
        && common.all (fun f => isKeyField f.1 f.2)
        && KeyKind.all.any fun k => k.fits own
  | _ => false

/-! ## Parameters -/

/-- The parameters that hold one text. -/
def textParameters : List String :=
  ["typ", "cty", "jku", "kid", "x5u", "x5t", "x5t#S256", "enc", "zip", "url", "nonce"]

/-- The parameters that hold a list of texts. -/
def listParameters : List String := ["x5c", "crit"]

/-- Whether a parameter has a value of its type; one that is not known must be a text. -/
def isHeaderField : Option String × Json → Bool
  | (none, _) => false
  | (some name, value) =>
      if name = "alg" then value.name? == some "HS256"
      else if name = "jwk" then value matches .null || isKey value
      else if textParameters.contains name then isTextOrNull value
      else if listParameters.contains name then isTextsOrNull value
      else value.text?.isSome

/-- The parameters that may not be given twice. -/
def knownParameters : List String := "alg" :: "jwk" :: (textParameters ++ listParameters)

/-- Whether a value is a header under which the signature can be checked. -/
def isTokenHeader : Json → Bool
  | .object fields =>
      let known := (fields.filterMap Prod.fst).filter fun n => knownParameters.contains n
      fields.all isHeaderField && known.contains "alg" && decide known.Nodup
  | _ => false

end StudyHall
