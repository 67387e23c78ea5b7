import CertAuthority.Modular
import CertAuthority.Octets

/-!
# Short Weierstrass curves over prime fields

The points of `y² = x³ + a·x + b` over the residues of a prime, and their
scalar multiples.  Multiples are computed on `Jacobian` triples `(x, y, z)`,
which stand for the affine point `(x/z², y/z³)` and need no division; `z = 0`
is the point at infinity.  All coordinates are residues below the field size.
-/

namespace CertAuthority

/-- A curve with a distinguished point of prime order. -/
structure Curve where
  /-- The prime number of residues in the field. -/
  field : Nat
  a : Nat
  b : Nat
  /-- The prime order of the generator. -/
  order : Nat
  generatorX : Nat
  generatorY : Nat
  /-- A residue of the field that is not a square. -/
  nonSquare : Nat
  /-- Octets of a written coordinate. -/
  width : Nat

namespace Curve

/-- A point of a curve in affine form. -/
inductive Point where
  | infinity
  | affine (x y : Nat)
deriving DecidableEq

/-- A point as a triple that needs no division. -/
structure Jacobian where
  x : Nat
  y : Nat
  z : Nat

variable (curve : Curve)

/-- The right-hand side of the curve equation. -/
def rightSide (x : Nat) : Nat :=
  ((x * x % curve.field + curve.a) * x + curve.b) % curve.field

/-- Whether residues satisfy the curve equation. -/
def contains (x y : Nat) : Bool :=
  y * y % curve.field == curve.rightSide x

/-- The point at infinity. -/
def Jacobian.infinity : Jacobian := ⟨1, 1, 0⟩

/-- The triple of an affine point. -/
def Jacobian.ofPoint : Point → Jacobian
  | .infinity => .infinity
  | .affine x y => ⟨x, y, 1⟩

/-- The affine point of a triple. -/
def toPoint (p : Jacobian) : Point :=
  if p.z = 0 then .infinity
  else
    let inverse := Modular.primeInverse p.z curve.field
    let square := inverse * inverse % curve.field
    .affine (p.x * square % curve.field) (p.y * (square * inverse % curve.field) % curve.field)

/-- Twice a point. -/
def double (p : Jacobian) : Jacobian :=
  if p.z = 0 ∨ p.y = 0 then .infinity
  else
    let m := curve.field
    let ySquare := p.y * p.y % m
    let s := 4 * p.x * ySquare % m
    let zSquare := p.z * p.z % m
    let slope := (3 * p.x * p.x + curve.a * (zSquare * zSquare % m)) % m
    let x := Modular.sub m (slope * slope % m) (2 * s % m)
    let y := Modular.sub m (slope * Modular.sub m s x % m) (8 * ySquare * ySquare % m)
    ⟨x, y, 2 * p.y * p.z % m⟩

/-- The sum of two points. -/
def add (p q : Jacobian) : Jacobian :=
  if p.z = 0 then q
  else if q.z = 0 then p
  else
    let m := curve.field
    let pSquare := p.z * p.z % m
    let qSquare := q.z * q.z % m
    let pX := p.x * qSquare % m
    let qX := q.x * pSquare % m
    let pY := p.y * (qSquare * q.z % m) % m
    let qY := q.y * (pSquare * p.z % m) % m
    if pX = qX then
      if pY = qY then curve.double p else .infinity
    else
      let h := Modular.sub m qX pX
      let r := Modular.sub m qY pY
      let hSquare := h * h % m
      let hCube := hSquare * h % m
      let v := pX * hSquare % m
      let x := Modular.sub m (Modular.sub m (r * r % m) hCube) (2 * v % m)
      let y := Modular.sub m (r * Modular.sub m v x % m) (pY * hCube % m)
      ⟨x, y, h * (p.z * q.z % m) % m⟩

/-- A multiple of a point, by doubling for each binary digit of the scalar. -/
def scale (scalar : Nat) (p : Jacobian) : Jacobian :=
  (Modular.bits scalar).foldl
    (fun total bit =>
      let doubled := curve.double total
      if bit then curve.add doubled p else doubled)
    .infinity

/-- The distinguished point. -/
def generator : Jacobian :=
  ⟨curve.generatorX, curve.generatorY, 1⟩

/-- The public point of a private scalar. -/
def publicPoint (scalar : Nat) : Point :=
  curve.toPoint (curve.scale scalar curve.generator)

end Curve

end CertAuthority
