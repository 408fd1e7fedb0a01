import ProxyRouting.Text.Blank
import ProxyRouting.Text.Decimal

namespace ProxyRouting.Text

/-- A blank that may stand around a written integer: an ASCII blank, or a blank beyond ASCII. -/
def isNumeralBlank (c : Char) : Bool :=
  isAsciiBlank c || (128 ≤ c.toNat && isBlank c)

/-- No integer of more digits than this is read, leading zeros included. -/
def maxDigits : Nat := 4300

/-- The values of a run of digits in which single underscores may separate digits. -/
def digitRun : List Char → Option (List Nat)
  | [] => none
  | [d] => if isDecimal d then some [decimalValue d] else none
  | d :: '_' :: rest =>
    if isDecimal d then (digitRun rest).map (decimalValue d :: ·) else none
  | d :: c :: rest =>
    if isDecimal d then (digitRun (c :: rest)).map (decimalValue d :: ·) else none

/-- The number that a list of decimal digits writes, the first one weighing most. -/
def ofDigits (digits : List Nat) : Nat := digits.foldl (fun n d => 10 * n + d) 0

/-- The number that a run of digits writes; none for a run that is malformed or too long. -/
def readNatural (s : List Char) : Option Nat :=
  match digitRun s with
  | some digits => if digits.length ≤ maxDigits then some (ofDigits digits) else none
  | none => none

/-- The integer that a text writes: blanks, an optional sign, digits, blanks. -/
def readInteger (s : List Char) : Option Int :=
  match dropEndWhile isNumeralBlank (s.dropWhile isNumeralBlank) with
  | '+' :: rest => (readNatural rest).map Int.ofNat
  | '-' :: rest => (readNatural rest).map fun n => -Int.ofNat n
  | rest => (readNatural rest).map Int.ofNat

def writeNat (n : Nat) : List Char := Nat.toDigits 10 n

/-- The decimal form of an integer, with a minus sign when it is negative. -/
def writeInt : Int → List Char
  | .ofNat n => writeNat n
  | .negSucc n => '-' :: writeNat (n + 1)

end ProxyRouting.Text
