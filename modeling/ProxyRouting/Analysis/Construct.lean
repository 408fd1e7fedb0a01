import ProxyRouting.Analysis.Line
import ProxyRouting.Text.Blank
import ProxyRouting.Text.Pieces

namespace ProxyRouting

/-- How much a construct in a script matters. -/
inductive Gravity where
  | critical
  | warning
deriving DecidableEq, Repr

def Gravity.name : Gravity → String
  | critical => "critical"
  | warning => "warning"

/-- A piece of a phrase: a word as it stands, or blanks, at least `least` of them. -/
inductive Piece where
  | word (text : String)
  | blanks (least : Nat)
deriving DecidableEq, Repr

/-- The number of characters of a phrase at the front of a text, blanks being taken as far as they
go. -/
def phraseLength? : List Piece → List Char → Option Nat
  | [], _ => some 0
  | .word text :: pieces, s =>
    match Text.after? (fun a b => a = b) text.toList s with
    | some rest => (phraseLength? pieces rest).map (text.length + ·)
    | none => none
  | .blanks least :: pieces, s =>
    let run := s.takeWhile Text.isBlank
    if run.length < least then none
    else (phraseLength? pieces (s.dropWhile Text.isBlank)).map (run.length + ·)

/-- A construct that has no place in a proxy script: the phrases that show it, its gravity, and what
is said about it. -/
structure Construct where
  phrases : List (List Piece)
  gravity : Gravity
  message : String
deriving Repr

namespace Construct

/-- The constructs that are looked for, in the order in which they are reported. -/
def all : List Construct := [
  ⟨[[.word "eval", .blanks 0, .word "("]], .critical,
    "Uses eval() - critical security risk. Remove eval() calls."⟩,
  ⟨[[.word "new", .blanks 1, .word "Function", .blanks 0, .word "("]], .critical,
    "Uses Function() constructor - security risk"⟩,
  ⟨[[.word "document."]], .warning,
    "Attempts to access document object (PAC scripts have no DOM access)"⟩,
  ⟨[[.word "window."]], .warning,
    "Attempts to access window object (not available in PAC context)"⟩,
  ⟨[[.word "XMLHttpRequest"], [.word "fetch("]], .warning,
    "Attempts network requests (not allowed in PAC scripts)"⟩,
  ⟨[[.word "localStorage"], [.word "sessionStorage"]], .warning,
    "Attempts to access storage (not available in PAC context)"⟩,
  ⟨[[.word "chrome."], [.word "browser."]], .warning,
    "Attempts to access browser APIs (not available in PAC context)"⟩,
  ⟨[[.word "import", .blanks 1], [.word "require", .blanks 0, .word "("]], .warning,
    "Uses module imports (not supported in PAC scripts)"⟩]

/-- The number of characters of the construct at the front of a text. -/
def length? (c : Construct) (s : List Char) : Option Nat :=
  c.phrases.findSome? fun phrase => phraseLength? phrase s

/-- The lines in which the construct begins, from line `line` on. The first `skip` characters belong
to an occurrence that has been found. -/
def linesFrom (c : Construct) : Nat → Nat → List Char → List Nat
  | _, _, [] => []
  | skip + 1, line, x :: rest => c.linesFrom skip (nextLine line x) rest
  | 0, line, x :: rest =>
    match c.length? (x :: rest) with
    | some n => line :: c.linesFrom (n - 1) (nextLine line x) rest
    | none => c.linesFrom 0 (nextLine line x) rest

end Construct

/-- A construct found in a script. -/
structure Issue where
  gravity : Gravity
  message : String
  line : Nat
deriving DecidableEq, Repr

/-- The constructs found in a script, one construct after another, each in the order of the text. -/
def securityIssues (script : List Char) : List Issue :=
  Construct.all.flatMap fun c =>
    (c.linesFrom 0 1 script).map fun line =>
      ⟨c.gravity, c.message ++ " " ++ lineNote line, line⟩

end ProxyRouting
