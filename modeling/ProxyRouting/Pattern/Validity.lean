import ProxyRouting.Pattern.Matching

namespace ProxyRouting

/-- What is wrong with a pattern. -/
inductive PatternProblem where
  | empty
  | unknownGrammar
  | wildcardCharacters
  | hostCharacters
  | malformedRegex
  | networkFormat
  | networkLength
  | octets
deriving DecidableEq, Repr

def PatternProblem.message : PatternProblem → String
  | empty => "Pattern cannot be empty"
  | unknownGrammar => "Unknown pattern type"
  | wildcardCharacters => "Invalid characters in wildcard pattern"
  | hostCharacters => "Invalid hostname format"
  | malformedRegex => "Invalid regular expression"
  | networkFormat => "Invalid CIDR notation (e.g., 192.168.0.0/16)"
  | networkLength => "CIDR prefix must be between 0 and 32"
  | octets => "Invalid IP address octets"

namespace Grammar

/-- A character of a host name: an ASCII letter, digit or underscore, a dot or a hyphen. -/
def isHostChar (c : Char) : Bool := Text.isAsciiWord c || c = '.' || c = '-'

def isWildcardChar (c : Char) : Bool := isHostChar c || c = '*' || c = '?'

/-- What is wrong with the text of a network: four groups of digits, a slash and one or two digits
are its form; the length is at most 32, and no number exceeds what an octet holds. -/
def networkProblem? (pattern : List Char) : Option PatternProblem :=
  match Text.pieces '/' pattern with
  | [address, length] =>
    match Quad.ofChars? address with
    | some q =>
      if length.all Char.isDigit && 1 ≤ length.length && length.length ≤ 2 then
        if 32 < Quad.groupValue length then some .networkLength
        else if q.InRange then none else some .octets
      else some .networkFormat
    | none => some .networkFormat
  | _ => some .networkFormat

/-- What is wrong with a pattern that has a character, if anything is. -/
def problem? (g : Grammar) (pattern : List Char) : Except Fault (Option PatternProblem) :=
  match g with
  | wildcard => .ok (if pattern.all isWildcardChar then none else some .wildcardCharacters)
  | exact => .ok (if pattern.all isHostChar then none else some .hostCharacters)
  | regex => orMalformed (some .malformedRegex) ((Regex.read {} pattern).map fun _ => none)
  | network => .ok (networkProblem? pattern)

end Grammar

/-- What is wrong with a pattern in the grammar of the given name, if anything is. -/
def patternProblem? (pattern grammar : Option String) : Except Fault (Option PatternProblem) :=
  match pattern with
  | none => .ok (some .empty)
  | some pattern =>
    if Text.isEmptyOrBlank pattern.toList then .ok (some .empty)
    else match Grammar.named? grammar with
      | none => .ok (some .unknownGrammar)
      | some g => g.problem? pattern.toList

end ProxyRouting
