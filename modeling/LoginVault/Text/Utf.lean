/-!
# Text.Utf — reading octets as text

Three encodings of Unicode are read: UTF-8 octet by octet, UTF-16 and UTF-32 in units of two
and four octets. The strict readers answer `none` to octets that are no text. They let an
unpaired surrogate pass, which no `Char` can hold, and put the replacement character in its
place. `decodeUtf8Replacing` reads any octets: each longest run that starts a character but
does not complete it, and each octet that starts none, becomes one replacement character.
-/

namespace LoginVault.Text

/-- What stands in the place of octets that are no character. -/
def replacement : Char := '\ufffd'

/-- The character with this code point, the replacement character for a surrogate. -/
def charOfCode (n : Nat) : Char :=
  if h : n.isValidChar then Char.ofNatAux n h else replacement

/-! ## UTF-8 -/

/-- A character that has begun: the octets it still owes, the least and the greatest value of
the next of them, and the bits read so far. -/
structure Begun where
  owed : Nat
  low : Nat
  high : Nat
  bits : Nat

/-- What an octet does to a text: complete a character, begin or continue one, or neither. -/
inductive Octet where
  | completes (code : Nat)
  | continues (state : Begun)
  | refused

/-- An octet between two characters. The continuation of an octet `0xed` is limited to code
points below the surrogates unless `surrogates` is set. -/
def firstOctet (surrogates : Bool) (b : Nat) : Octet :=
  if b < 0x80 then .completes b
  else if b < 0xc2 then .refused
  else if b < 0xe0 then .continues ⟨1, 0x80, 0xbf, b - 0xc0⟩
  else if b == 0xe0 then .continues ⟨2, 0xa0, 0xbf, 0⟩
  else if b == 0xed && !surrogates then .continues ⟨2, 0x80, 0x9f, 0xd⟩
  else if b < 0xf0 then .continues ⟨2, 0x80, 0xbf, b - 0xe0⟩
  else if b == 0xf0 then .continues ⟨3, 0x90, 0xbf, 0⟩
  else if b < 0xf4 then .continues ⟨3, 0x80, 0xbf, b - 0xf0⟩
  else if b == 0xf4 then .continues ⟨3, 0x80, 0x8f, 4⟩
  else .refused

/-- An octet inside a character. -/
def Begun.next (s : Begun) (b : Nat) : Octet :=
  if b < s.low || s.high < b then .refused
  else
    let bits := 64 * s.bits + (b - 0x80)
    if s.owed ≤ 1 then .completes bits else .continues ⟨s.owed - 1, 0x80, 0xbf, bits⟩

/-- Reads UTF-8 from inside a character or, with `none`, from between two. -/
def utf8From : Option Begun → List UInt8 → Option (List Char)
  | none, [] => some []
  | some _, [] => none
  | state, b :: rest =>
    let octet := match state with
      | none => firstOctet true b.toNat
      | some s => s.next b.toNat
    match octet with
    | .completes code => (utf8From none rest).map (charOfCode code :: ·)
    | .continues s => utf8From (some s) rest
    | .refused => none

/-- The text that `octets` encode in UTF-8. -/
def decodeUtf8? (octets : List UInt8) : Option (List Char) :=
  utf8From none octets

/-- Reads UTF-8 with replacement, from inside a character or from between two. An octet that
breaks off a character is read again as a first octet. -/
def utf8ReplacingFrom : Option Begun → List UInt8 → List Char
  | none, [] => []
  | some _, [] => [replacement]
  | state, b :: rest =>
    let first := firstOctet false b.toNat
    let (broken, octet) : List Char × Octet := match state with
      | none => ([], first)
      | some s => match s.next b.toNat with
        | .refused => ([replacement], first)
        | octet => ([], octet)
    broken ++ match octet with
      | .completes code => charOfCode code :: utf8ReplacingFrom none rest
      | .continues s => utf8ReplacingFrom (some s) rest
      | .refused => replacement :: utf8ReplacingFrom none rest

/-- The text of any octets, read as UTF-8 with replacement. -/
def decodeUtf8Replacing (octets : List UInt8) : List Char :=
  utf8ReplacingFrom none octets

/-! ## UTF-16 and UTF-32 -/

/-- The order of the octets of a unit. -/
inductive Endian where
  | big
  | little

/-- The number that two octets make. -/
def Endian.pair (e : Endian) (a b : UInt8) : Nat :=
  match e with
  | .big => 256 * a.toNat + b.toNat
  | .little => 256 * b.toNat + a.toNat

/-- The number that four octets make. -/
def Endian.quad (e : Endian) (a b c d : UInt8) : Nat :=
  match e with
  | .big => 65536 * e.pair a b + e.pair c d
  | .little => 65536 * e.pair c d + e.pair a b

/-- The units of two octets, `none` if one octet is left over. -/
def units16 (e : Endian) : List UInt8 → Option (List Nat)
  | [] => some []
  | [_] => none
  | a :: b :: rest => (units16 e rest).map (e.pair a b :: ·)

/-- The units of four octets, `none` if octets are left over. -/
def units32 (e : Endian) : List UInt8 → Option (List Nat)
  | [] => some []
  | a :: b :: c :: d :: rest => (units32 e rest).map (e.quad a b c d :: ·)
  | _ => none

/-- Whether the unit is the first half of a surrogate pair. -/
def isHighSurrogate (n : Nat) : Bool := 0xd800 ≤ n && n ≤ 0xdbff

/-- Whether the unit is the second half of a surrogate pair. -/
def isLowSurrogate (n : Nat) : Bool := 0xdc00 ≤ n && n ≤ 0xdfff

/-- The code point that a surrogate pair stands for. -/
def pairCode (high low : Nat) : Nat :=
  0x10000 + 0x400 * (high - 0xd800) + (low - 0xdc00)

/-- The characters of a sequence of UTF-16 units. -/
def charsOfUnits16 : List Nat → List Char
  | [] => []
  | [u] => [charOfCode u]
  | u :: v :: rest =>
    if isHighSurrogate u && isLowSurrogate v then charOfCode (pairCode u v) :: charsOfUnits16 rest
    else charOfCode u :: charsOfUnits16 (v :: rest)

/-- The text that `octets` encode in UTF-16. -/
def decodeUtf16? (e : Endian) (octets : List UInt8) : Option (List Char) :=
  (units16 e octets).map charsOfUnits16

/-- The text that `octets` encode in UTF-32, `none` for a number beyond the last code point. -/
def decodeUtf32? (e : Endian) (octets : List UInt8) : Option (List Char) := do
  let codes ← units32 e octets
  if codes.all (· < 0x110000) then some (codes.map charOfCode) else none

end LoginVault.Text
