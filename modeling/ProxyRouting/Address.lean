import ProxyRouting.Text.Integer
import ProxyRouting.Text.Pieces

namespace ProxyRouting

open Text

/-- Four numbers of a dotted address. Each is written with one to three digits, so it may exceed
what an octet holds. -/
structure Quad where
  first : Nat
  second : Nat
  third : Nat
  fourth : Nat
deriving DecidableEq, Repr

namespace Quad

def toList (q : Quad) : List Nat := [q.first, q.second, q.third, q.fourth]

def InRange (q : Quad) : Prop := ∀ n ∈ q.toList, n ≤ 255

instance (q : Quad) : Decidable q.InRange := inferInstanceAs (Decidable (∀ n ∈ q.toList, n ≤ 255))

/-- The address as one number of 32 bits, the first octet weighing most. -/
def toNat (q : Quad) : Nat := ((q.first * 256 + q.second) * 256 + q.third) * 256 + q.fourth

def ofNat (n : Nat) : Quad :=
  ⟨n / Nat.pow 2 24 % 256, n / Nat.pow 2 16 % 256, n / Nat.pow 2 8 % 256, n % 256⟩

def and (p q : Quad) : Quad :=
  ⟨p.first &&& q.first, p.second &&& q.second, p.third &&& q.third, p.fourth &&& q.fourth⟩

/-- A group of one to three ASCII digits. -/
def isGroup (s : List Char) : Bool := 1 ≤ s.length && s.length ≤ 3 && s.all Char.isDigit

def groupValue (s : List Char) : Nat := ofDigits (s.map digitValue)

/-- Read four groups of digits with dots between them. -/
def ofChars? (s : List Char) : Option Quad :=
  match pieces '.' s with
  | [a, b, c, d] =>
    if isGroup a && isGroup b && isGroup c && isGroup d then
      some ⟨groupValue a, groupValue b, groupValue c, groupValue d⟩
    else none
  | _ => none

def read? (s : String) : Option Quad := ofChars? s.toList

def toChars (q : Quad) : List Char := joined ['.'] (q.toList.map writeNat)

def write (q : Quad) : String := String.ofList q.toChars

/-- The mask that keeps the first `length` bits. A length outside 0 to 32 gives the mask of all
bits. -/
def mask (length : Int) : Quad :=
  if 0 ≤ length ∧ length ≤ 32 then ofNat (Nat.pow 2 32 - Nat.pow 2 (32 - length.toNat))
  else ⟨255, 255, 255, 255⟩

/-- The number of ones among the lowest eight bits. -/
def onesOfOctet (n : Nat) : Nat := (List.range 8).countP n.testBit

def ones (q : Quad) : Nat := (q.toList.map onesOfOctet).foldr (· + ·) 0

end Quad

/-- A network as it is written: the text of its address and the length of the part that all its
members share. -/
structure Network where
  address : List Char
  length : Int
deriving DecidableEq, Repr

namespace Network

/-- Read an address and a length with a slash between them. A second slash and what follows it
count for nothing; the length is an ASCII integer, which may stand between blanks. -/
def ofChars? (s : List Char) : Option Network :=
  match pieces '/' s with
  | address :: length :: _ =>
    if address.isEmpty || length.isEmpty || !length.all (·.toNat < 128) then none
    else (readInteger length).map (⟨address, ·⟩)
  | _ => none

def read? (s : String) : Option Network := ofChars? s.toList

/-- Whether the two addresses agree where the mask of the network has ones. -/
def Agree (mask host address : Quad) : Prop := host.and mask = address.and mask

instance (m h a : Quad) : Decidable (Agree m h a) := inferInstanceAs (Decidable (_ = _))

/-- Whether an address is a member of the network. A network whose address is malformed has no
members. -/
def hasMember (n : Network) (host : Quad) : Bool :=
  match Quad.ofChars? n.address with
  | some address => decide (Agree (Quad.mask n.length) host address)
  | none => false

end Network

end ProxyRouting
