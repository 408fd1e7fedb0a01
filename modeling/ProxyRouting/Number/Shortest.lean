import ProxyRouting.Number.Binary64
import ProxyRouting.Text.Integer

namespace ProxyRouting.Binary64

/-- A positive fraction. -/
structure Fraction where
  num : Nat
  den : Nat

/-- The fraction `n * 2 ^ e`. -/
def Fraction.ofPower (n : Nat) (e : Int) : Fraction := ⟨n * Nat.pow 2 e.toNat, Nat.pow 2 (-e).toNat⟩

/-- Whether the first fraction is below the second one. -/
def Fraction.less (x y : Fraction) : Bool := x.num * y.den < y.num * x.den

def Fraction.scaled (x : Fraction) (scale : Int) : Fraction :=
  ⟨x.num * Nat.pow 10 (-scale).toNat, x.den * Nat.pow 10 scale.toNat⟩

/-- The numbers that a reader rounds to one number: those between two ends, which belong to them
when `closed` is true. -/
structure Interval where
  low : Fraction
  high : Fraction
  closed : Bool

def Interval.holds (i : Interval) (x : Fraction) : Bool :=
  (i.low.less x && x.less i.high) || (i.closed && !x.less i.low && !i.high.less x)

/-- The numbers that are rounded to `m * 2 ^ e`. Below a power of two the next number is only half
as far away; an even significand takes the ends. -/
def roundingInterval (m : Nat) (e : Int) : Interval where
  low :=
    if m = Nat.pow 2 52 ∧ -1074 < e then .ofPower (4 * m - 1) (e - 2)
    else .ofPower (2 * m - 1) (e - 1)
  high := .ofPower (2 * m + 1) (e - 1)
  closed := m % 2 = 0

/-- The number of digits before the decimal point; for a fraction below a tenth, minus the number
of zeros behind the point. The search starts at `guess`, not above the answer. -/
def pointOf (x : Fraction) : Nat → Int → Int
  | 0, guess => guess
  | fuel + 1, guess =>
    if (x.scaled guess).num < (x.scaled guess).den then guess else pointOf x fuel (guess + 1)

/-- The neighbour of `x` with digits only down to the place `scale` that lies in the interval, if
there is one; of two the nearer, of two equally near the even one. -/
def nearest? (x : Fraction) (i : Interval) (scale : Int) : Option Nat :=
  let s := x.scaled scale
  let below := s.num / s.den
  let value (n : Nat) : Fraction := ⟨n * Nat.pow 10 scale.toNat, Nat.pow 10 (-scale).toNat⟩
  let lowFits := 0 < below && i.holds (value below)
  let highFits := i.holds (value (below + 1))
  if lowFits && highFits then some (roundQuotient s.num s.den)
  else if lowFits then some below
  else if highFits then some (below + 1)
  else none

/-- The fewest digits that read back as the number with the point at `point`, and the place of the
last one. -/
def shortestFrom (x : Fraction) (i : Interval) (point : Int) : Nat → Int → Nat × Int
  | 0, scale => (roundQuotient (x.scaled scale).num (x.scaled scale).den, scale)
  | fuel + 1, scale =>
    match nearest? x i scale with
    | some n => (n, scale)
    | none => shortestFrom x i point fuel (scale - 1)

/-- The digits of a number without its final zeros, and the place of the last one. -/
def trimZeros : Nat → Nat → Int → Nat × Int
  | 0, n, scale => (n, scale)
  | fuel + 1, n, scale => if n % 10 = 0 then trimZeros fuel (n / 10) (scale + 1) else (n, scale)

/-- The shortest decimal form of a positive number: its digits and the place of the last one. -/
def shortest (m : Nat) (e : Int) : Nat × Int :=
  let (m, e) := if m = Nat.pow 2 53 then (Nat.pow 2 52, e + 1) else (m, e)
  let x := Fraction.ofPower m e
  let point := pointOf x 700 (-330)
  let (n, scale) := shortestFrom x (roundingInterval m e) point 17 (point - 1)
  trimZeros 20 n scale

/-- Digits with a decimal point behind the first `point` of them. Every number has a digit on both
sides of the point. -/
def positional (digits : List Char) (point : Int) : List Char :=
  if point ≤ 0 then ['0', '.'] ++ List.replicate (-point).toNat '0' ++ digits
  else if point.toNat < digits.length then
    digits.take point.toNat ++ ['.'] ++ digits.drop point.toNat
  else digits ++ List.replicate (point.toNat - digits.length) '0' ++ ['.', '0']

/-- Digits with a decimal point behind the first one and a power of ten of two digits or more. -/
def scientific (digits : List Char) (power : Int) : List Char :=
  let lead := match digits with
    | [] => []
    | [d] => [d]
    | d :: rest => d :: '.' :: rest
  let size := Text.writeNat power.natAbs
  lead ++ ['e', if power < 0 then '-' else '+'] ++ (if size.length < 2 then '0' :: size else size)

/-- The fewest digits that read back, with a point from a ten-thousandth up to, not including,
`10 ^ 16` and with a power of ten beyond. -/
def toText : Binary64 → List Char
  | .undefined => "nan".toList
  | .infinite negative => if negative then "-inf".toList else "inf".toList
  | .finite negative m e =>
    let body :=
      if m = 0 then ['0', '.', '0']
      else
        let (n, scale) := shortest m e
        let digits := Text.writeNat n
        let point : Int := scale + digits.length
        if -4 < point ∧ point ≤ 16 then positional digits point
        else scientific digits (point - 1)
    if negative then '-' :: body else body

end ProxyRouting.Binary64
