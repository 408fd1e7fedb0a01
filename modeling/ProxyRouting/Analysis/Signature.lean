import ProxyRouting.Analysis.Structure
import ProxyRouting.Text.Blank
import ProxyRouting.Text.Pieces

namespace ProxyRouting

namespace Signature

/-- The text behind a word at the front of a text. -/
def afterWord? (word : String) (s : List Char) : Option (List Char) :=
  Text.after? (fun a b => a = b) word.toList s

/-- The text behind the blanks at the front. -/
def skipBlanks (s : List Char) : List Char := s.dropWhile Text.isBlank

/-- The parameters of a declaration of the function that answers requests, at the front of a text.
They stand in one line. -/
def atFront? (s : List Char) : Option (List Char) := do
  let rest ← afterWord? "function" s
  if (rest.takeWhile Text.isBlank).isEmpty then none
  else
    let rest ← afterWord? "FindProxyForURL" (skipBlanks rest)
    let rest ← afterWord? "(" (skipBlanks rest)
    let parameters := rest.takeWhile (· != ')')
    if parameters.length < rest.length && !parameters.contains '\n' then some parameters else none

/-- The parameters of the first declaration in a text. -/
def find? : List Char → Option (List Char)
  | [] => none
  | c :: rest => (atFront? (c :: rest)).or (find? rest)

end Signature

/-- What is wrong with the declaration of the function that answers requests: it is missing, or has
another number of parameters than two. -/
def signatureProblems (script : List Char) : List String :=
  (if Text.occurs "function FindProxyForURL".toList script then []
    else ["Missing required function: FindProxyForURL(url, host)"]) ++
  match Signature.find? script with
  | some parameters =>
    if (Text.pieces ',' parameters).length = 2 then []
    else ["FindProxyForURL must have exactly 2 parameters: (url, host)"]
  | none => []

/-- What is wrong with the syntax of a script. What a runtime said about it, if it was asked, stands
in place of the problems of its structure. -/
def syntaxProblems (said : Option (List String)) (script : List Char) : List String :=
  said.getD ((structureProblems script).map StructureProblem.message) ++ signatureProblems script

end ProxyRouting
