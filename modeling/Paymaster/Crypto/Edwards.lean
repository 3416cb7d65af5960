import Paymaster.Block

/-!
# The Edwards curve of edwards25519

The curve `-x² + y² = 1 + d·x²·y²` over the integers modulo `2 ^ 255 - 19`, with points in
extended coordinates, so that adding takes no division.  A key is a curve point when its `y` is
that of one; the keys that are not are the addresses that nobody can sign for.
-/

namespace Paymaster.Crypto

/-! ## The field -/

namespace Field

/-- The size of the field. -/
def prime : Nat := Nat.pow 2 255 - 19

/-- The sum of two residues. -/
def add (a b : Nat) : Nat := (a + b) % prime

/-- The difference of two residues. -/
def sub (a b : Nat) : Nat := (a + (prime - b % prime)) % prime

/-- The product of two residues. -/
def mul (a b : Nat) : Nat := a * b % prime

/-- A power of a residue, by repeated squaring. -/
def pow (a e : Nat) : Nat :=
  if e = 0 then 1
  else
    let root := pow (mul a a) (e / 2)
    if e % 2 = 0 then root else mul a root
termination_by e
decreasing_by exact Nat.div_lt_self (by omega) (by omega)

/-- The reciprocal of a residue other than zero. -/
def inverse (a : Nat) : Nat := pow a (prime - 2)

/-- Whether a residue is a square: the middle power of one is one, and that of zero is zero. -/
def isSquare (a : Nat) : Bool :=
  pow a ((prime - 1) / 2) ≤ 1

end Field

/-! ## The curve -/

namespace Edwards

open Paymaster.Crypto.Field

/-- The coefficient `d` of the curve. -/
def curveD : Nat := 0x52036cee2b6ffe738cc740797779e89800700a4d4141d8ab75eb4dca135978a3

/-- A point in extended coordinates: `x / z` and `y / z`, and `t` with `x * y = z * t`. -/
structure Point where
  x : Nat
  y : Nat
  z : Nat
  t : Nat

/-- The neutral point. -/
def Point.zero : Point := ⟨0, 1, 1, 0⟩

/-- The point that public keys are multiples of. -/
def Point.base : Point :=
  let x := 0x216936d3cd6e53fec0a4e231fdd6dc5c692cc7609525a7b2c9562d608f25d51a
  let y := 0x6666666666666666666666666666666666666666666666666666666666666658
  ⟨x, y, 1, mul x y⟩

/-- The sum of two points, equal or not. -/
def Point.add (p q : Point) : Point :=
  let a := mul (sub p.y p.x) (sub q.y q.x)
  let b := mul (p.y + p.x) (q.y + q.x)
  let c := mul (mul p.t (2 * curveD)) q.t
  let d := mul (2 * p.z) q.z
  let e := sub b a
  let f := sub d c
  let g := d + c
  let h := b + a
  ⟨mul e f, mul g h, mul f g, mul e h⟩

/-- A multiple of a point, by repeated doubling. -/
def Point.multiply (n : Nat) (p : Point) : Point :=
  if n = 0 then Point.zero
  else
    let double := Point.multiply (n / 2) (p.add p)
    if n % 2 = 0 then double else p.add double
termination_by n
decreasing_by exact Nat.div_lt_self (by omega) (by omega)

/-- The 32 bytes of a point: its `y`, with the lowest bit of its `x` on top. -/
def Point.encode (p : Point) : Block 32 :=
  let reciprocal := inverse p.z
  let x := mul p.x reciprocal
  let y := mul p.y reciprocal
  ⟨Bytes.littleEndian 32 (y + x % 2 * Nat.pow 2 255), Bytes.length_littleEndian _ _⟩

/-- Whether 32 bytes stand for a curve point: with `y` in the low 255 bits, the quotient
`(y² - 1) / (d·y² + 1)`, which is `x²`, is a square.  The topmost bit only chooses between the two
roots and is not looked at. -/
def isPoint (bytes : Block 32) : Bool :=
  let y := Bytes.ofLittleEndian bytes.bytes % Nat.pow 2 255
  let square := mul y y
  isSquare (mul (sub square 1) (add (mul curveD square) 1))

end Edwards

end Paymaster.Crypto
