namespace ProxyRouting

/-- A floating-point number of double precision: `significand * 2 ^ exponent` with a sign, an
infinity, or no number. -/
inductive Binary64 where
  | finite (negative : Bool) (significand : Nat) (exponent : Int)
  | infinite (negative : Bool)
  | undefined
deriving DecidableEq, Repr, Inhabited

namespace Binary64

/-- The quotient of two natural numbers rounded to the nearest one, a half to the even one. -/
def roundQuotient (num den : Nat) : Nat :=
  let q := num / den
  let twice := 2 * (num % den)
  if twice < den then q
  else if den < twice then q + 1
  else if q % 2 = 0 then q else q + 1

/-- The positive fraction `num / den` in units of `2 ^ e`, rounded. -/
def unitsOf (num den : Nat) (e : Int) : Nat :=
  if 0 ≤ e then roundQuotient num (den * Nat.pow 2 e.toNat)
  else roundQuotient (num * Nat.pow 2 (-e).toNat) den

/-- The least exponent at which the positive fraction `num / den` has fewer than 54 bits before the
point, but no exponent below that of the smallest positive number. -/
def exponentOf (num den : Nat) : Int :=
  let e : Int := (Nat.log2 num : Int) - (Nat.log2 den : Int) - 53
  let fits : Bool :=
    if 0 ≤ e then num / (den * Nat.pow 2 e.toNat) < Nat.pow 2 53
    else num * Nat.pow 2 (-e).toNat / den < Nat.pow 2 53
  max (if fits then e else e + 1) (-1074)

/-- The number nearest to the fraction `num / den`; past the largest number lies infinity. -/
def ofFraction (negative : Bool) (num den : Nat) : Binary64 :=
  if num = 0 then .finite negative 0 0
  else
    let e := exponentOf num den
    let m := unitsOf num den e
    if (1024 : Int) ≤ e + Nat.log2 m then .infinite negative else .finite negative m e

/-- The number nearest to `digits * 10 ^ scale`. The decimal form has `places` digits; a value
beyond all bounds is settled without computing the power. -/
def ofDecimal (negative : Bool) (digits : Nat) (places : Nat) (scale : Int) : Binary64 :=
  if digits = 0 then .finite negative 0 0
  else if (400 : Int) < scale + (Nat.log2 digits / 4 : Nat) then .infinite negative
  else if scale + places < -400 then .finite negative 0 0
  else if 0 ≤ scale then ofFraction negative (digits * Nat.pow 10 scale.toNat) 1
  else ofFraction negative digits (Nat.pow 10 (-scale).toNat)

/-- Whether the number is a zero of either sign. -/
def isZero : Binary64 → Bool
  | .finite _ m _ => m = 0
  | _ => false

/-- The number equal to an integer of any size. -/
def ofInt (n : Int) : Binary64 := .finite (n < 0) n.natAbs 0

/-- A finite number in units of `2 ^ unit`, for a unit no larger than its own. -/
def inUnits (negative : Bool) (m : Nat) (e unit : Int) : Int :=
  let n : Int := m * Nat.pow 2 (e - unit).toNat
  if negative then -n else n

/-- Whether the first number is below the second one. What is no number is below nothing, and
nothing is below it. -/
def less : Binary64 → Binary64 → Bool
  | .finite s m e, .finite t n f => inUnits s m e (min e f) < inUnits t n f (min e f)
  | .finite _ _ _, .infinite negative => !negative
  | .infinite negative, .finite _ _ _ => negative
  | .infinite s, .infinite t => s && !t
  | _, _ => false

/-- Whether the first number is the second one or below it. -/
def atMost : Binary64 → Binary64 → Bool
  | .undefined, _ | _, .undefined => false
  | x, y => !less y x

/-- The whole number of times that a thousand goes into the number. -/
def thousands : Binary64 → Binary64
  | .finite negative m e =>
    let unit : Nat := Nat.pow 2 (-e).toNat * 1000
    let n : Nat := m * Nat.pow 2 e.toNat
    .finite negative (if negative then (n + unit - 1) / unit else n / unit) 0
  | _ => .undefined

/-- The whole part, toward zero, of a finite number. -/
def truncate? : Binary64 → Option Int
  | .finite negative m e =>
    let whole : Nat := if 0 ≤ e then m * Nat.pow 2 e.toNat else m / Nat.pow 2 (-e).toNat
    some (if negative then -(whole : Int) else whole)
  | _ => none

end Binary64

end ProxyRouting
