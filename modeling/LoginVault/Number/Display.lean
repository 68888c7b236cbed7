import LoginVault.Number.Shortest

/-!
# Number.Display — how a number is written

A finite number is written with the fewest digits that read back. Numbers of moderate size are
written out, with a point and at least one digit on each side of it; all others with a power of
ten of at least two digits.
-/

namespace LoginVault.Binary64

/-- The choices of a notation for decimals. A decimal `0.ddd · 10 ^ p` is written out if `p` is
from `leastPoint` to `greatestPoint`. -/
structure Layout where
  leastPoint : Int
  greatestPoint : Int
  exponentWidth : Nat
  infinity : String
  notANumber : String

/-- The layout of messages and of configuration values. -/
def plainLayout : Layout := ⟨-3, 16, 2, "inf", "nan"⟩

/-- The digits without the zeros at the end. -/
def significant (n : Nat) : List Char :=
  ((Nat.toDigits 10 n).reverse.dropWhile (· == '0')).reverse

/-- The digits of a number written out, with the point after `point` of them. -/
def writtenOut (digits : List Char) (point : Int) : List Char :=
  let size := digits.length
  if point ≤ 0 then '0' :: '.' :: List.replicate point.natAbs '0' ++ digits
  else if size ≤ point.natAbs then
    digits ++ List.replicate (point.natAbs - size) '0' ++ ['.', '0']
  else digits.take point.natAbs ++ '.' :: digits.drop point.natAbs

/-- The digits of a number written with a power of ten. -/
def withExponent (width : Nat) (digits : List Char) (exponent : Int) : List Char :=
  let power := Nat.toDigits 10 exponent.natAbs
  let mantissa := match digits with
    | [] => []
    | [d] => [d]
    | d :: ds => d :: '.' :: ds
  mantissa ++ 'e' :: (if exponent < 0 then '-' else '+')
    :: List.replicate (width - power.length) '0' ++ power

/-- The text of a positive decimal. -/
def Decimal.text (l : Layout) (d : Decimal) : List Char :=
  let point := decimalLength d.digits + d.exponent
  let digits := significant d.digits
  if l.leastPoint ≤ point && point ≤ l.greatestPoint then writtenOut digits point
  else withExponent l.exponentWidth digits (point - 1)

/-- The text of a number. -/
def text (x : Binary64) (l : Layout := plainLayout) : String :=
  match x with
  | .nan => l.notANumber
  | .infinite negative => if negative then "-" ++ l.infinity else l.infinity
  | .finite negative m q =>
    let magnitude := if m = 0 then ['0', '.', '0'] else (shortest m q).text l
    String.ofList (if negative then '-' :: magnitude else magnitude)

example : (ofDecimal false 1 (-1)).text = "0.1" := by decide +kernel
example : (ofDecimal false 1 16).text = "1e+16" := by decide +kernel
example : (ofDecimal true 5 (-324)).text = "-5e-324" := by decide +kernel

end LoginVault.Binary64
