import ProxyRouting.Text.Integer

namespace ProxyRouting

/-- The number of the line of a text in which position `n` lies. Lines count from one. -/
def lineAt (s : List Char) (n : Nat) : Nat := (s.take n).count '\n' + 1

/-- The number of the line at a position; a negative position counts from the end. -/
def lineAtIndex (s : List Char) (index : Int) : Nat :=
  lineAt s (if index < 0 then s.length - index.natAbs else index.toNat)

/-- The number of the line behind a character of line `n`. -/
def nextLine (n : Nat) (c : Char) : Nat := if c = '\n' then n + 1 else n

def lineNote (n : Nat) : String := "(line " ++ String.ofList (Text.writeNat n) ++ ")"

end ProxyRouting
