import Paymaster.Double

/-!
# The fewest digits that read back

The reals that round to one double form an interval, halfway to the neighbour on each side, the
ends included when the significand is even.  Among the decimals in it, those with the fewest
digits are wanted, and of these the nearest.  For one digit, two, three and so on, the two
neighbours of the number on that decimal grid are tested in exact arithmetic; the first grid with
a hit wins.
-/

namespace Paymaster.Double

/-- A positive decimal: `digits * 10 ^ scale`. -/
structure Decimal where
  digits : Nat
  scale : Int
deriving Repr, DecidableEq

/-- How many decimal digits a natural number has. -/
def digitCount (n : Nat) : Nat :=
  (Numeral.digits 8 n).length

/-- The power of ten above `m * 2 ^ q`: the least `k` with `m * 2 ^ q < 10 ^ k`. -/
def decimalPoint (m : Nat) (q : Int) : Int :=
  let num := m * Nat.pow 2 q.toNat
  let den := Nat.pow 2 (-q).toNat
  if den ≤ num then digitCount (num / den) else 1 - (digitCount (den / num) : Int)

/-- A grid of decimals with a common scale, seen from the number: the point `c` of the grid lies
where `c * den` is to `4 * m * num`. -/
structure Grid where
  num : Nat
  den : Nat

/-- The grid of scale `scale` for a number of exponent `q`. -/
def Grid.ofScale (q scale : Int) : Grid :=
  { num := Nat.pow 2 (q - 2).toNat * Nat.pow 10 (-scale).toNat
    den := Nat.pow 2 (2 - q).toNat * Nat.pow 10 scale.toNat }

/-- Whether a point of the grid rounds to the number `m * 2 ^ q`.  Below a power of two the
neighbour is half as far away. -/
def Grid.readsBack (g : Grid) (m : Nat) (q : Int) (c : Nat) : Bool :=
  let gap := if m = Nat.pow 2 52 ∧ leastExponent < q then 1 else 2
  let low := (4 * m - gap) * g.num
  let high := (4 * m + 2) * g.num
  if m % 2 = 0 then low ≤ c * g.den && c * g.den ≤ high
  else low < c * g.den && c * g.den < high

/-- The nearest of the two neighbours of the number on the grid that round to it; of two equally
near ones the even. -/
def Grid.nearest? (g : Grid) (m : Nat) (q : Int) : Option Nat :=
  let exact := 4 * m * g.num
  let c := exact / g.den
  match g.readsBack m q c && c ≠ 0, g.readsBack m q (c + 1) with
  | true, true => some (roundDiv exact g.den)
  | true, false => some c
  | false, true => some (c + 1)
  | false, false => none

/-- Tries grids of `tried + 1`, `tried + 2`, … digits, `more` of them. -/
def searchGrids (m : Nat) (q point : Int) (tried : Nat) : Nat → Option Decimal
  | 0 => none
  | more + 1 =>
    let scale := point - (tried + 1)
    match (Grid.ofScale q scale).nearest? m q with
    | some c => some ⟨c, scale⟩
    | none => searchGrids m q point (tried + 1) more

/-- The digits without the zeros at their end. -/
def Decimal.strip : Nat → Decimal → Decimal
  | 0, d => d
  | fuel + 1, d =>
    if d.digits % 10 = 0 ∧ d.digits ≠ 0 then Decimal.strip fuel ⟨d.digits / 10, d.scale + 1⟩ else d

/-- The exact decimal value of `m * 2 ^ q`. -/
def exactDecimal (m : Nat) (q : Int) : Decimal :=
  if 0 ≤ q then ⟨m * Nat.pow 2 q.toNat, 0⟩ else ⟨m * Nat.pow 5 (-q).toNat, q⟩

/-- The decimal with the fewest digits that rounds to `m * 2 ^ q`, for a positive `m`.  Seventeen
digits always suffice; were they not to, the exact value would be given. -/
def shortest (m : Nat) (q : Int) : Decimal :=
  let found := (searchGrids m q (decimalPoint m q) 0 17).getD (exactDecimal m q)
  found.strip (digitCount found.digits)

end Paymaster.Double
