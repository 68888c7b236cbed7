import LoginVault.Text.Printable

/-!
# Text.Quoted — a text between quotes

A quoted text stands between single quotes, unless it holds a single quote and no double quote.
The quote in use, the backslash and the unprintable characters are escaped: line feed, carriage
return and tab by a letter, all others by their code point in two, four or eight hexadecimal
digits.
-/

namespace LoginVault.Text

/-- `n` in hexadecimal, filled up with zeros to `width` digits. -/
def hexadecimal (width n : Nat) : List Char :=
  let digits := Nat.toDigits 16 n
  List.replicate (width - digits.length) '0' ++ digits

/-- The quote that encloses `s`. -/
def quoteFor (s : List Char) : Char :=
  if s.contains '\'' && !s.contains '"' then '"' else '\''

/-- How one character stands inside a text enclosed by `quote`. -/
def escapeChar (quote c : Char) : List Char :=
  if c == quote || c == '\\' then ['\\', c]
  else if c == '\n' then ['\\', 'n']
  else if c == '\r' then ['\\', 'r']
  else if c == '\t' then ['\\', 't']
  else if isPrintable c then [c]
  else if c.toNat < 0x100 then '\\' :: 'x' :: hexadecimal 2 c.toNat
  else if c.toNat < 0x10000 then '\\' :: 'u' :: hexadecimal 4 c.toNat
  else '\\' :: 'U' :: hexadecimal 8 c.toNat

/-- The quoted form of `s`. -/
def quoted (s : String) : String :=
  let cs := s.toList
  let quote := quoteFor cs
  String.ofList (quote :: cs.flatMap (escapeChar quote) ++ [quote])

example : quoted "it's" = "\"it's\"" := by decide +kernel
example : quoted "a\n\\" = "'a\\n\\\\'" := by decide +kernel
example : quoted "\u00ad\u2028" = "'\\xad\\u2028'" := by decide +kernel

end LoginVault.Text
