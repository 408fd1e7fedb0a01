import ProxyRouting.Analysis.Line

namespace ProxyRouting

/-- The kinds of brackets. -/
inductive Bracket where
  | paren
  | brace
  | square
deriving DecidableEq, Repr

namespace Bracket

def opened? (c : Char) : Option Bracket :=
  if c = '(' then some paren
  else if c = '\x7b' then some brace
  else if c = '[' then some square
  else none

def closed? (c : Char) : Option Bracket :=
  if c = ')' then some paren
  else if c = '\x7d' then some brace
  else if c = ']' then some square
  else none

def name : Bracket → String
  | paren => "parentheses"
  | brace => "braces"
  | square => "brackets"

end Bracket

/-- What is wrong with the structure of a script. -/
inductive StructureProblem where
  | brokenQuote (line : Nat)
  | openQuote
  | openComment
  | strayBracket (kind : Bracket) (line : Nat)
  | openBracket (kind : Bracket)
deriving DecidableEq, Repr

def StructureProblem.message : StructureProblem → String
  | brokenQuote line => "Unterminated string literal " ++ lineNote line
  | openQuote => "Unterminated string literal at end of script"
  | openComment => "Unterminated block comment"
  | strayBracket kind line => "Unbalanced " ++ kind.name ++ " " ++ lineNote line
  | openBracket kind => "Unbalanced " ++ kind.name ++ ": missing closing character"

/-- Where the characters of a script stand: in its code, in a comment up to the end of the line, in
a comment between marks, or in a text that a quote opened. -/
inductive Place where
  | code
  | lineComment
  | blockComment
  | quoted (mark : Char)
deriving DecidableEq, Repr

/-- A character that opens a text, and closes it again. -/
def isQuote (c : Char) : Bool := c = '"' || c = '\x27' || c = '\x60'

/-- Whether a text that a quote opened may go on in the next line. -/
def spansLines (mark : Char) : Bool := mark = '\x60'

/-- What is wrong at the end of a script: what is left open. -/
def Place.atEnd (p : Place) (stack : List Bracket) : List StructureProblem :=
  (match p with
    | code | lineComment => []
    | blockComment => [.openComment]
    | quoted _ => [.openQuote]) ++
  match stack with
  | [] => []
  | kind :: _ => [.openBracket kind]

/-- What is wrong with a script from a place in line `line` on, where the brackets of `stack` are
open, the innermost first. A bracket that closes another one than the innermost ends the search. -/
def structureFrom : Place → Nat → List Bracket → List Char → List StructureProblem
  | p, _, stack, [] => p.atEnd stack
  | .code, line, stack, '/' :: '/' :: rest => structureFrom .lineComment line stack rest
  | .code, line, stack, '/' :: '*' :: rest => structureFrom .blockComment line stack rest
  | .code, line, stack, c :: rest =>
    if isQuote c then structureFrom (.quoted c) line stack rest
    else match Bracket.opened? c, Bracket.closed? c with
      | some kind, _ => structureFrom .code line (kind :: stack) rest
      | none, some kind =>
        match stack with
        | [] => [.strayBracket kind line]
        | top :: others =>
          if top = kind then structureFrom .code line others rest else [.strayBracket kind line]
      | none, none => structureFrom .code (nextLine line c) stack rest
  | .lineComment, line, stack, c :: rest =>
    structureFrom (if c = '\n' then .code else .lineComment) (nextLine line c) stack rest
  | .blockComment, line, stack, '*' :: '/' :: rest => structureFrom .code line stack rest
  | .blockComment, line, stack, c :: rest =>
    structureFrom .blockComment (nextLine line c) stack rest
  | .quoted mark, line, stack, '\\' :: c :: rest =>
    structureFrom (.quoted mark) (nextLine line c) stack rest
  | .quoted mark, line, stack, c :: rest =>
    if c = '\\' then Place.atEnd (.quoted mark) stack
    else if c = mark then structureFrom .code line stack rest
    else if c = '\n' && !spansLines mark then
      .brokenQuote line :: structureFrom .code (line + 1) stack rest
    else structureFrom (.quoted mark) (nextLine line c) stack rest

/-- What is wrong with the brackets, comments and quoted texts of a script. -/
def structureProblems (script : List Char) : List StructureProblem :=
  structureFrom .code 1 [] script

end ProxyRouting
