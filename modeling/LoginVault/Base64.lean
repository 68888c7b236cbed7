/-!
# Base64 — octets as printable characters

Three octets make four characters of six bits each. A group of one or two octets at the end is
filled up with padding.
-/

namespace LoginVault.Base64

/-- The characters of the alphabet, each at the place of its value. -/
def alphabet : List Char :=
  "ABCDEFGHIJKLMNOPQRSTUVWXYZabcdefghijklmnopqrstuvwxyz0123456789+/".toList

/-- The character that fills up the last group. -/
def padding : Char := '='

/-- The character for six bits. -/
def encodeSextet (n : Nat) : Char :=
  alphabet.getD n padding

/-- The characters of a sequence of octets. -/
def encode : List UInt8 → List Char
  | [] => []
  | [a] =>
    let n := 16 * a.toNat
    [encodeSextet (n / 64), encodeSextet (n % 64), padding, padding]
  | [a, b] =>
    let n := 4 * (256 * a.toNat + b.toNat)
    [encodeSextet (n / 4096), encodeSextet (n / 64 % 64), encodeSextet (n % 64), padding]
  | a :: b :: c :: rest =>
    let n := 65536 * a.toNat + 256 * b.toNat + c.toNat
    encodeSextet (n / 262144) :: encodeSextet (n / 4096 % 64) :: encodeSextet (n / 64 % 64)
      :: encodeSextet (n % 64) :: encode rest

example : encode "Man".toUTF8.toList = "TWFu".toList := by decide +kernel
example : encode "Ma".toUTF8.toList = "TWE=".toList := by decide +kernel

end LoginVault.Base64
