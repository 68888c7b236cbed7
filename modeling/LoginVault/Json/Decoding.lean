import LoginVault.Json.Parser
import LoginVault.Text.Utf

/-!
# Json.Decoding — the value in a body

The octets of a body tell their encoding by a byte order mark or, since a JSON text starts with
an ASCII character, by the zeros among the first four octets.
-/

namespace LoginVault.Json

open LoginVault.Text

/-- The encodings of a body, each with whether a byte order mark stands in front. -/
inductive Encoding where
  | utf8 (mark : Bool)
  | utf16 (e : Endian) (mark : Bool)
  | utf32 (e : Endian) (mark : Bool)

/-- The encoding of a body. The longer marks are looked for first, as one begins like another. -/
def Encoding.detect : List UInt8 → Encoding
  | 0 :: 0 :: 0xfe :: 0xff :: _ => .utf32 .big true
  | 0xff :: 0xfe :: 0 :: 0 :: _ => .utf32 .little true
  | 0xfe :: 0xff :: _ => .utf16 .big true
  | 0xff :: 0xfe :: _ => .utf16 .little true
  | 0xef :: 0xbb :: 0xbf :: _ => .utf8 true
  | 0 :: b :: _ :: _ :: _ => if b == 0 then .utf32 .big false else .utf16 .big false
  | _ :: 0 :: c :: d :: _ => if c == 0 && d == 0 then .utf32 .little false else .utf16 .little false
  | [0, _] => .utf16 .big false
  | [_, 0] => .utf16 .little false
  | _ => .utf8 false

/-- The text of a body in this encoding, without the byte order mark. -/
def Encoding.decode? (e : Encoding) (octets : List UInt8) : Option (List Char) :=
  match e with
  | .utf8 mark => decodeUtf8? (octets.drop (if mark then 3 else 0))
  | .utf16 e mark => decodeUtf16? e (octets.drop (if mark then 2 else 0))
  | .utf32 e mark => decodeUtf32? e (octets.drop (if mark then 4 else 0))

/-- The value that a body writes. -/
def decode? (octets : List UInt8) : Option Json :=
  ((Encoding.detect octets).decode? octets).bind parse?

end LoginVault.Json
