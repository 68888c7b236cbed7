/-!
# LookupKey — the key under which a page's logins are looked up

The key of an address is what stands between its scheme and the first separator after it. Only
three schemes are taken off, one at most, and the key may be empty.
-/

namespace LoginVault.LookupKey

/-- The schemes that are taken off an address, tried in this order. -/
def schemes : List String := ["file://", "http://", "https://"]

/-- The characters that end the host of an address. -/
def isSeparator (c : Char) : Bool := c == '/' || c == '?' || c == '#'

/-- The address without the first of the schemes that it starts with. -/
def dropScheme (address : List Char) : List Char :=
  match schemes.find? fun s => s.toList.isPrefixOf address with
  | some s => address.drop s.length
  | none => address

/-- The key of an address. -/
def ofAddress (address : String) : String :=
  String.ofList ((dropScheme address.toList).takeWhile (!isSeparator ·))

/-- The key of the address of a page that may have none. -/
def ofAddress? (address : Option String) : String :=
  (address.map ofAddress).getD ""

example : ofAddress "https://example.com/login?x=1" = "example.com" := by decide +kernel
example : ofAddress "file:///c:/x" = "" := by decide +kernel

end LoginVault.LookupKey
