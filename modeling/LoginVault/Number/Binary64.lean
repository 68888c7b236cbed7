/-!
# Number.Binary64 — floating-point numbers of 64 bits

A finite number is a sign, a mantissa below `2 ^ 53` and a power of two of at least `-1074`. A
decimal is read by rounding the exact quotient that it stands for, once, to the nearest such
number, a tie going to the even mantissa; all arithmetic is on natural numbers.
-/

namespace LoginVault

/-- A binary floating-point number of 64 bits; `finite negative m q` is `m · 2 ^ q`, negated if
`negative` is set. Zero has two signs. -/
inductive Binary64 where
  | nan
  | infinite (negative : Bool)
  | finite (negative : Bool) (mantissa : Nat) (exponent : Int)
  deriving DecidableEq, Repr

namespace Binary64

/-- The exponent of the subnormal numbers, the least there is. -/
def minExponent : Int := -1074

/-- The greatest exponent of a finite number. -/
def maxExponent : Int := 971

/-- The count of decimal digits of `n`. -/
def decimalLength (n : Nat) : Nat := (Nat.toDigits 10 n).length

/-- The nearest whole number to `num / den`, the even one of two that are equally near. -/
def nearestEven (num den : Nat) : Nat :=
  let floor := num / den
  let rest := num % den
  if 2 * rest < den || (2 * rest == den && floor % 2 == 0) then floor else floor + 1

/-- The quotient `num / den` times `2 ^ (-q)`, as a quotient. -/
def scaleDown (num den : Nat) (q : Int) : Nat × Nat :=
  if q ≤ 0 then (num * Nat.pow 2 q.natAbs, den) else (num, den * Nat.pow 2 q.natAbs)

/-- The exponent at which the mantissa of `num / den` has 53 bits, if not below the least. -/
def targetExponent (num den : Nat) : Int :=
  let estimate : Int := (num.log2 : Int) - den.log2
  let (n, d) := scaleDown num den estimate
  max (if d ≤ n then estimate - 52 else estimate - 53) minExponent

/-- The number nearest to `num / den`. -/
def ofQuotient (negative : Bool) (num den : Nat) : Binary64 :=
  if num = 0 then .finite negative 0 minExponent
  else
    let q := targetExponent num den
    let (n, d) := scaleDown num den q
    let m := nearestEven n d
    let (m, q) := if m = Nat.pow 2 53 then (Nat.pow 2 52, q + 1) else (m, q)
    if maxExponent < q then .infinite negative else .finite negative m q

/-- The number nearest to `digits · 10 ^ exponent`. Decimals far outside the range are settled
by their size, so no huge power of ten is formed for them. -/
def ofDecimal (negative : Bool) (digits : Nat) (exponent : Int) : Binary64 :=
  let size := decimalLength digits + exponent
  if digits = 0 || size < -400 then .finite negative 0 minExponent
  else if 400 < size then .infinite negative
  else if 0 ≤ exponent then ofQuotient negative (digits * Nat.pow 10 exponent.natAbs) 1
  else ofQuotient negative digits (Nat.pow 10 exponent.natAbs)

/-- Whether the number compares as at most zero; a NaN compares with nothing. -/
def isNonPositive : Binary64 → Bool
  | .nan => false
  | .infinite negative => negative
  | .finite negative m _ => negative || m == 0

/-- What a number is as an integer. -/
inductive Integrality where
  | integer (n : Int)
  | fraction
  | notFinite
  deriving DecidableEq, Repr

/-- The integer that the number is, if it is one. -/
def integrality : Binary64 → Integrality
  | .finite negative m q =>
    let signed (n : Nat) : Int := if negative then -(n : Int) else n
    if 0 ≤ q then .integer (signed (m * Nat.pow 2 q.natAbs))
    else if m % Nat.pow 2 q.natAbs = 0 then .integer (signed (m / Nat.pow 2 q.natAbs))
    else .fraction
  | _ => .notFinite

end Binary64

end LoginVault
