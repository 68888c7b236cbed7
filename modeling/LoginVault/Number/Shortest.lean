import LoginVault.Number.Binary64

/-!
# Number.Shortest — the fewest decimal digits that read back

The reals that round to a binary number form an interval around it. Of the decimals with one
digit, then two, and so on, the first grid with a point in the interval has it next to the
number, below or above. The nearer of the two is taken, of two equally near the one with an even
last digit.
-/

namespace LoginVault.Binary64

/-- A positive decimal, `digits · 10 ^ exponent`. -/
structure Decimal where
  digits : Nat
  exponent : Int
  deriving DecidableEq, Repr

/-- The reals that round to one number: `value`, `low` and `high` are all over the denominator
`den`, and the ends belong to the interval if `closed` is set. -/
structure Interval where
  low : Nat
  value : Nat
  high : Nat
  den : Nat
  closed : Bool

/-- The interval of `m · 2 ^ q`. The gap below a power of two is half of the gap above it. -/
def interval (m : Nat) (q : Int) : Interval :=
  let below := if m = Nat.pow 2 52 && minExponent < q then 1 else 2
  let quarter := q - 2
  let scale := if 0 ≤ quarter then Nat.pow 2 quarter.natAbs else 1
  let den := if 0 ≤ quarter then 1 else Nat.pow 2 quarter.natAbs
  ⟨(4 * m - below) * scale, 4 * m * scale, (4 * m + 2) * scale, den, m % 2 == 0⟩

/-- The power `e` with `10 ^ (e - 1) ≤ num / den < 10 ^ e`. -/
def decimalPoint (num den : Nat) : Int :=
  let estimate : Int := (decimalLength num : Int) - decimalLength den
  let reached := if 0 ≤ estimate then den * Nat.pow 10 estimate.natAbs ≤ num
    else den ≤ num * Nat.pow 10 estimate.natAbs
  if reached then estimate + 1 else estimate

/-- The best point of the grid `10 ^ k` that lies in the interval. Numerators are brought to the
grid by `up`, denominators by `down`. -/
def Interval.onGrid (i : Interval) (k : Int) : Option Nat :=
  let up := if k ≤ 0 then Nat.pow 10 k.natAbs else 1
  let down := i.den * if k ≤ 0 then 1 else Nat.pow 10 k.natAbs
  let value := i.value * up
  let holds (c : Nat) : Bool :=
    if i.closed then i.low * up ≤ c * down && c * down ≤ i.high * up
    else i.low * up < c * down && c * down < i.high * up
  let floor := value / down
  match holds floor, holds (floor + 1) with
  | true, true => some (nearestEven value down)
  | true, false => some floor
  | false, true => some (floor + 1)
  | false, false => none

/-- The decimal with the fewest digits that reads back as `m · 2 ^ q`. Seventeen digits always
do. -/
def shortest (m : Nat) (q : Int) : Decimal :=
  let i := interval m q
  let point := decimalPoint i.value i.den
  let ofSize (size : Nat) : Option Decimal :=
    let k := point - size
    (i.onGrid k).map (⟨·, k⟩)
  ((List.range 17).findSome? fun n => ofSize (n + 1)).getD ⟨m, q⟩

end LoginVault.Binary64
