import ProxyRouting.Regex.Node
import ProxyRouting.Text.Hexadecimal
import ProxyRouting.Text.Integer
import ProxyRouting.Text.Pieces

namespace ProxyRouting.Regex

open Text (Front)

/-- Why a text is no regular expression. -/
inductive ReadError where
  | malformed
  /-- A repetition counts past the largest number there is. -/
  | countTooLarge
  /-- A repetition is written with too many digits. -/
  | countTooLong
  /-- The expression is to be read within ASCII and throughout. -/
  | incompatibleFlags
deriving DecidableEq, Repr

/-- What a backslash and what follows it stand for. -/
inductive Escape where
  | code (n : Nat)
  | ofClass (cls : CharClass) (negated : Bool)
  | anchor (a : Bool → Anchor)
  | backref (number : Nat)

def isOctal (c : Char) : Bool := '0' ≤ c && c ≤ '7'

def octalValue (digits : List Char) : Nat :=
  digits.foldl (fun n c => 8 * n + Text.digitValue c) 0

/-- The code point written with exactly `count` hexadecimal digits. -/
def hexCode (count : Nat) (s : List Char) : Except ReadError (Front Nat) :=
  let digits := s.take count
  match Text.hexNumber? digits with
  | some n =>
    if digits.length = count && n < 0x110000 then .ok (n, s.drop count) else .error .malformed
  | none => .error .malformed

/-- The control characters that have a letter of their own. -/
def controlCode? : Char → Option Nat
  | 'a' => some 7
  | 'f' => some 12
  | 'n' => some 10
  | 'r' => some 13
  | 't' => some 9
  | 'v' => some 11
  | _ => none

/-- The classes that have a letter of their own; the capital letter stands for all other
characters. -/
def classOf? : Char → Option (CharClass × Bool)
  | 'd' => some (.digit, false)
  | 'D' => some (.digit, true)
  | 's' => some (.blank, false)
  | 'S' => some (.blank, true)
  | 'w' => some (.word, false)
  | 'W' => some (.word, true)
  | _ => none

/-- The anchors that have a letter of their own; an edge of a word depends on whether words are
those of ASCII. -/
def anchorOf? : Char → Option (Bool → Anchor)
  | 'A' => some fun _ => .textStart
  | 'Z' => some fun _ => .textEnd
  | 'b' => some fun ascii => .wordEdge ascii false
  | 'B' => some fun ascii => .wordEdge ascii true
  | _ => none

/-- The code point of a character given by its number in hexadecimal. -/
def numberedCode? (c : Char) (rest : List Char) : Option (Except ReadError (Front Nat)) :=
  if c = 'x' then some (hexCode 2 rest)
  else if c = 'u' then some (hexCode 4 rest)
  else if c = 'U' then some (hexCode 8 rest)
  else none

/-- A digit other than zero behind a backslash. Three octal digits are a code point, all else is the
number of a group. -/
def digitEscape (c : Char) (rest : List Char) : Except ReadError (Front Escape) :=
  match rest with
  | d :: e :: behind =>
    if isOctal c && isOctal d && isOctal e then
      if octalValue [c, d, e] ≤ 0o377 then .ok (.code (octalValue [c, d, e]), behind)
      else .error .malformed
    else if d.isDigit then
      .ok (.backref (10 * Text.digitValue c + Text.digitValue d), e :: behind)
    else .ok (.backref (Text.digitValue c), rest)
  | [d] =>
    if d.isDigit then .ok (.backref (10 * Text.digitValue c + Text.digitValue d), [])
    else .ok (.backref (Text.digitValue c), rest)
  | [] => .ok (.backref (Text.digitValue c), [])

/-- What `c` behind a backslash stands for outside a set. A letter without a meaning is an error. -/
def readEscape (c : Char) (rest : List Char) : Except ReadError (Front Escape) :=
  match anchorOf? c, classOf? c, controlCode? c, numberedCode? c rest with
  | some a, _, _, _ => .ok (.anchor a, rest)
  | _, some (cls, negated), _, _ => .ok (.ofClass cls negated, rest)
  | _, _, some n, _ => .ok (.code n, rest)
  | _, _, _, some read => read.map fun r => (.code r.1, r.2)
  | none, none, none, none =>
    if c = '0' then
      let digits := (rest.take 2).takeWhile isOctal
      .ok (.code (octalValue digits), rest.drop digits.length)
    else if c.isDigit then digitEscape c rest
    else if c.isAlpha then .error .malformed
    else .ok (.code c.toNat, rest)

/-- What `c` behind a backslash stands for inside a set, where the letter b is the backspace and
there are neither anchors nor groups. -/
def readSetEscape (c : Char) (rest : List Char) : Except ReadError (Front Escape) :=
  match classOf? c, controlCode? c, numberedCode? c rest with
  | some (cls, negated), _, _ => .ok (.ofClass cls negated, rest)
  | _, some n, _ => .ok (.code n, rest)
  | _, _, some read => read.map fun r => (.code r.1, r.2)
  | none, none, none =>
    if c = 'b' then .ok (.code 8, rest)
    else if isOctal c then
      let digits := c :: (rest.take 2).takeWhile isOctal
      if octalValue digits ≤ 0o377 then .ok (.code (octalValue digits), rest.drop (digits.length - 1))
      else .error .malformed
    else if c.isDigit || c.isAlpha then .error .malformed
    else .ok (.code c.toNat, rest)

/-- One end of a range in a set, or a member of its own. -/
def readMember (ascii : Bool) (c : Char) (rest : List Char) : Except ReadError (Front SetItem) :=
  if c = '\\' then
    match rest with
    | [] => .error .malformed
    | e :: behind =>
      match readSetEscape e behind with
      | .ok (.code n, behind) => .ok (.code n, behind)
      | .ok (.ofClass cls negated, behind) => .ok (.ofClass cls ascii negated, behind)
      | .ok _ => .error .malformed
      | .error err => .error err
  else .ok (.code c.toNat, rest)

/-- The members of a set up to its closing bracket, behind those in `found`, last first. A bracket
that comes first is a member. -/
def readMembers (ascii : Bool) : Nat → List SetItem → List Char → Except ReadError (Front (List SetItem))
  | _, _, [] => .error .malformed
  | 0, _, _ => .error .malformed
  | fuel + 1, found, c :: rest =>
    if c = ']' && !found.isEmpty then .ok (found.reverse, rest)
    else do
      let (first, rest) ← readMember ascii c rest
      match rest with
      | '-' :: ']' :: rest => .ok ((.code '-'.toNat :: first :: found).reverse, rest)
      | ['-'] => .error .malformed
      | '-' :: d :: rest => do
        let (last, rest) ← readMember ascii d rest
        match first, last with
        | .code m, .code n =>
          if m ≤ n then readMembers ascii fuel (.range m n :: found) rest else .error .malformed
        | _, _ => .error .malformed
      | rest => readMembers ascii fuel (first :: found) rest

/-- A set behind its opening bracket: a caret that makes it the set of all other characters, and the
members. -/
def readSet (ascii : Bool) (folding : Folding) (s : List Char) : Except ReadError (Front CharTest) := do
  let (negated, body) : Bool × List Char := match s with
    | '^' :: rest => (true, rest)
    | rest => (false, rest)
  let (items, rest) ← readMembers ascii body.length [] body
  .ok (.set negated items folding, rest)

end ProxyRouting.Regex
