import ProxyRouting.Text.Blank
import ProxyRouting.Text.Case
import ProxyRouting.Text.Pieces
import ProxyRouting.Text.Word

namespace ProxyRouting

/-- The declaration of the function that answers requests, as it stands in the source text of a
script: the names of its parameters, either of which may be missing, and the text behind the brace
that opens its body. -/
structure Declaration where
  first : List Char
  second : List Char
  behind : List Char
deriving DecidableEq, Repr

namespace Declaration

/-- The text behind a word at the front, ASCII letters of either case being alike. -/
def afterWord? (word : String) (s : List Char) : Option (List Char) :=
  Text.after? Text.sameAsciiLetter word.toList s

/-- The text behind the ASCII blanks at the front. -/
def skipBlanks (s : List Char) : List Char := s.dropWhile Text.isAsciiBlank

/-- The text behind a mark that stands behind blanks. -/
def afterMark? (mark : Char) (s : List Char) : Option (List Char) :=
  match skipBlanks s with
  | c :: rest => if c = mark then some rest else none
  | [] => none

/-- A name behind blanks, which may be empty, and the text behind it. -/
def name (s : List Char) : Text.Front (List Char) :=
  ((skipBlanks s).takeWhile Text.isAsciiWord, (skipBlanks s).dropWhile Text.isAsciiWord)

/-- The parameters behind the opening parenthesis: up to two names, a comma between them or not. -/
def parameters? (s : List Char) : Option Declaration := do
  let (first, rest) := name s
  let (second, rest) := name ((afterMark? ',' rest).getD rest)
  let rest ← afterMark? ')' rest
  let behind ← afterMark? '\x7b' rest
  some { first, second, behind }

def atFront? (s : List Char) : Option Declaration := do
  let rest ← afterWord? "function" s
  if (rest.takeWhile Text.isAsciiBlank).isEmpty then none
  else
    let rest ← afterWord? "FindProxyForURL" (skipBlanks rest)
    let rest ← afterMark? '(' rest
    parameters? rest

def find? : List Char → Option Declaration
  | [] => none
  | c :: rest => (atFront? (c :: rest)).or (find? rest)

end Declaration

end ProxyRouting
