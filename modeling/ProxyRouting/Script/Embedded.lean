import ProxyRouting.Profile.Basic
import ProxyRouting.Script.Declaration

namespace ProxyRouting

/-- The text up to the closing brace that belongs to an opening one, `depth` other braces being
open. Braces inside quotes and comments count like all others. -/
def untilClosed (depth : Nat) : List Char → Option (List Char)
  | [] => none
  | c :: rest =>
    if c = '\x7b' then (untilClosed (depth + 1) rest).map (c :: ·)
    else if c = '\x7d' then
      match depth with
      | 0 => some []
      | depth + 1 => (untilClosed depth rest).map (c :: ·)
    else (untilClosed depth rest).map (c :: ·)

/-- Each line of a text behind two blanks. -/
def indentLines (s : List Char) : List Char :=
  Text.joined ['\n'] ((Text.pieces '\n' s).map fun line => ' ' :: ' ' :: line)

/-- The body of the first function that answers requests in the source text of a script, without
blanks at its ends; none when there is no such function, its braces do not close, or nothing stands
between them. -/
def functionBody? (source : List Char) : Option (List Char) := do
  let declaration ← Declaration.find? source
  let body ← untilClosed 0 declaration.behind
  if (Text.strip body).isEmpty then none else some (Text.strip body)

/-- The body of the function that answers requests, one level indented. -/
def extractBody (source : String) : Option String :=
  (functionBody? source.toList).map fun body => String.ofList (indentLines body)

/-- The script of a profile as a function of its own inside another script. Functions are numbered
from zero. -/
structure Embedded where
  profile : String
  title : Option String
  number : Int
  body : String
deriving DecidableEq, Repr

namespace Embedded

def function (e : Embedded) : String :=
  "_embeddedPAC_" ++ String.ofList (Text.writeInt e.number)

/-- The source text of the function, behind a line that names the profile. -/
def source (e : Embedded) : String :=
  "// Embedded PAC script: " ++ Text.shown e.title ++ "\n" ++
  "function " ++ e.function ++ "(url, host) \x7b\n" ++
  e.body ++ "\n" ++
  "\x7d"

/-- The script of a profile as the function with a number; none without an id, without a script, or
when the body of the script cannot be taken out. -/
def ofProfile? (p : Profile) (number : Int) : Option Embedded :=
  match p.id, p.scriptText? with
  | some id, some script =>
    if id = "" then none
    else (extractBody script).map fun body => { profile := id, title := p.name, number, body }
  | _, _ => none

/-- The profiles that routes of the kind existing lead to: those of the rules in their order, then
that of the fallback. -/
def references (rules : List Rule) (fallback : Route) : List (Option String) :=
  ((rules.map Rule.route ++ [fallback]).filter fun r => r.kind? = some .existing).map Route.profile

/-- Embed the script of one more profile, unless there is none or it has been embedded. -/
def add (profiles : List Profile) (found : List Embedded) (id : Option String) : List Embedded :=
  if found.any fun e => some e.profile = id then found
  else match Profile.find? id profiles with
    | none => found
    | some p =>
      if p.runsScript then found ++ (ofProfile? p found.length).toList else found

/-- The scripts that the rules and the fallback lead to, in the order in which they are first
referred to. A script that cannot be embedded takes no number. -/
def collect (rules : List Rule) (fallback : Route) (profiles : List Profile) : List Embedded :=
  (references rules fallback).foldl (add profiles) []

/-- The embedded script of the profile with this id; an empty id has none. -/
def find? (id : Option String) (found : List Embedded) : Option Embedded :=
  if Text.isFilled id then found.find? fun e => some e.profile = id else none

end Embedded

end ProxyRouting
