import ProxyRouting.Doc.Basic
import ProxyRouting.Text.Hexadecimal
import ProxyRouting.Text.Integer
import ProxyRouting.Text.Pieces

namespace ProxyRouting.Doc

open Text (Front)

/-- The blanks that may stand between the tokens of a document. -/
def isGap (c : Char) : Bool := c = ' ' || c = '\t' || c = '\n' || c = '\r'

/-- The text behind the blanks at the front. -/
def skipGap (s : List Char) : List Char := s.dropWhile isGap

/-- The character that a backslash and a letter stand for. -/
def escapeValue? : Char → Option Nat
  | '"' => some 0x22
  | '\\' => some 0x5c
  | '/' => some 0x2f
  | 'b' => some 8
  | 'f' => some 12
  | 'n' => some 10
  | 'r' => some 13
  | 't' => some 9
  | _ => none

/-- The units of a quoted text up to its closing quote. A control character may not stand in it. -/
def quotedUnits : List Char → Except Fault (Front (List Nat))
  | [] => .error .malformedDocument
  | '"' :: rest => .ok ([], rest)
  | '\\' :: 'u' :: a :: b :: c :: d :: rest =>
    match Text.hexNumber? [a, b, c, d] with
    | some n => do
      let (units, rest) ← quotedUnits rest
      pure (n :: units, rest)
    | none => .error .malformedDocument
  | '\\' :: e :: rest =>
    match escapeValue? e with
    | some n => do
      let (units, rest) ← quotedUnits rest
      pure (n :: units, rest)
    | none => .error .malformedDocument
  | c :: rest =>
    if c.toNat < 32 then .error .malformedDocument
    else if c = '\\' then .error .malformedDocument
    else do
      let (units, rest) ← quotedUnits rest
      pure (c.toNat :: units, rest)

/-- The characters of a list of units, where a high and a low surrogate make one character. -/
def joinUnits : List Nat → List Char
  | [] => []
  | [n] => [Char.ofNat n]
  | high :: low :: rest =>
    if 0xD800 ≤ high && high < 0xDC00 && 0xDC00 ≤ low && low < 0xE000 then
      Char.ofNat (0x10000 + (high - 0xD800) * 0x400 + (low - 0xDC00)) :: joinUnits rest
    else Char.ofNat high :: joinUnits (low :: rest)

/-- A quoted text behind its opening quote. -/
def quoted (s : List Char) : Except Fault (Front String) := do
  let (units, rest) ← quotedUnits s
  pure (String.ofList (joinUnits units), rest)

/-- The whole part of a number: a zero alone, or digits that start with another one. -/
def wholePart (s : List Char) : Option (List Char × List Char) :=
  match s with
  | '0' :: rest => some (['0'], rest)
  | c :: _ => if c.isDigit then some (s.takeWhile Char.isDigit, s.dropWhile Char.isDigit) else none
  | [] => none

/-- The digits behind a decimal point; without a digit there is no such part. -/
def fractionPart (s : List Char) : Option (List Char × List Char) :=
  match s with
  | '.' :: rest =>
    if (rest.takeWhile Char.isDigit).isEmpty then none
    else some (rest.takeWhile Char.isDigit, rest.dropWhile Char.isDigit)
  | _ => none

/-- The value of a run of ASCII digits. -/
def digitsValue (s : List Char) : Nat := Text.ofDigits (s.map Text.digitValue)

/-- The exponent of a number; without a digit there is no such part. -/
def exponentPart (s : List Char) : Option (Int × List Char) :=
  match s with
  | c :: rest =>
    if c = 'e' || c = 'E' then
      let (negative, digits) : Bool × List Char := match rest with
        | '-' :: r => (true, r)
        | '+' :: r => (false, r)
        | r => (false, r)
      if (digits.takeWhile Char.isDigit).isEmpty then none
      else
        let n : Int := digitsValue (digits.takeWhile Char.isDigit)
        some (if negative then -n else n, digits.dropWhile Char.isDigit)
    else none
  | [] => none

/-- A number behind its sign. A number with neither fraction nor exponent is whole. -/
def number (negative : Bool) (s : List Char) : Except Fault (Front Doc) :=
  match wholePart s with
  | none => .error .malformedDocument
  | some (whole, rest) =>
    match fractionPart rest, exponentPart ((fractionPart rest).elim rest Prod.snd) with
    | none, none =>
      if Text.maxDigits < whole.length then .error .notAnInteger
      else
        let n : Int := digitsValue whole
        .ok (int (if negative then -n else n), rest)
    | fraction, exponent =>
      let places := fraction.elim [] Prod.fst
      let digits := whole ++ places
      let scale : Int := exponent.elim 0 Prod.fst
      let behind := exponent.elim (fraction.elim rest Prod.snd) Prod.snd
      .ok (real (Binary64.ofDecimal negative (digitsValue digits) digits.length
        (scale - places.length)), behind)

def words : List (List Char × Doc) :=
  [("null".toList, null), ("true".toList, bool true), ("false".toList, bool false),
   ("NaN".toList, real .undefined), ("Infinity".toList, real (.infinite false)),
   ("-Infinity".toList, real (.infinite true))]

def word (s : List Char) : Option (Doc × List Char) :=
  (words.find? fun w => w.1.isPrefixOf s).map fun w => (w.2, s.drop w.1.length)

def scalar (s : List Char) : Except Fault (Front Doc) :=
  match word s with
  | some found => .ok found
  | none =>
    match s with
    | '"' :: rest => do
      let (t, rest) ← quoted rest
      pure (text t, rest)
    | '-' :: rest => number true rest
    | _ => number false s

mutual

/-- A value; `fuel` bounds the number of nested steps. -/
def value : Nat → List Char → Except Fault (Front Doc)
  | 0, _ => .error .malformedDocument
  | fuel + 1, '[' :: rest =>
    match skipGap rest with
    | ']' :: rest => .ok (array [], rest)
    | rest => do
      let (items, rest) ← elements fuel rest
      pure (array items, rest)
  | fuel + 1, '{' :: rest =>
    match skipGap rest with
    | '}' :: rest => .ok (object [], rest)
    | rest => do
      let (fields, rest) ← members fuel rest
      pure (object fields, rest)
  | _ + 1, s => scalar s

/-- One or more values up to the closing bracket. -/
def elements : Nat → List Char → Except Fault (Front (List Doc))
  | 0, _ => .error .malformedDocument
  | fuel + 1, s => do
    let (item, rest) ← value fuel s
    match skipGap rest with
    | ']' :: rest => pure ([item], rest)
    | ',' :: rest => do
      let (items, rest) ← elements fuel (skipGap rest)
      pure (item :: items, rest)
    | _ => .error .malformedDocument

/-- One or more fields up to the closing brace. -/
def members : Nat → List Char → Except Fault (Front Fields)
  | 0, _ => .error .malformedDocument
  | fuel + 1, '"' :: rest => do
    let (name, rest) ← quoted rest
    match skipGap rest with
    | ':' :: rest => do
      let (item, rest) ← value fuel (skipGap rest)
      match skipGap rest with
      | '}' :: rest => pure ([(name, item)], rest)
      | ',' :: rest => do
        let (fields, rest) ← members fuel (skipGap rest)
        pure ((name, item) :: fields, rest)
      | _ => .error .malformedDocument
    | _ => .error .malformedDocument
  | _ + 1, _ => .error .malformedDocument

end

/-- Read a document that fills the whole text, blanks at its ends apart. -/
def read (s : String) : Except Fault Doc := do
  let (doc, rest) ← value (2 * s.length + 2) (skipGap s.toList)
  match skipGap rest with
  | [] => pure doc
  | _ => .error .malformedDocument

end ProxyRouting.Doc
