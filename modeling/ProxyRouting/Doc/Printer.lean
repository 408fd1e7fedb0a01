import ProxyRouting.Doc.Basic
import ProxyRouting.Number.Shortest
import ProxyRouting.Text.Hexadecimal
import ProxyRouting.Text.Pieces

namespace ProxyRouting.Doc

/-- A unit of 16 bits as a backslash, the letter u and four hexadecimal digits. -/
def writeUnit (n : Nat) : List Char :=
  '\\' :: 'u' :: [n / 4096, n / 256, n / 16, n].map fun d => Text.hexDigit (d % 16)

/-- A character inside quotes: printable ASCII as it is, all else escaped, a character above the
first plane as two surrogates. -/
def writeChar (c : Char) : List Char :=
  let n := c.toNat
  if c = '"' then ['\\', '"']
  else if c = '\\' then ['\\', '\\']
  else if c = '\n' then ['\\', 'n']
  else if c = '\r' then ['\\', 'r']
  else if c = '\t' then ['\\', 't']
  else if n = 12 then ['\\', 'f']
  else if n = 8 then ['\\', 'b']
  else if 32 ≤ n && n < 127 then [c]
  else if n < 0x10000 then writeUnit n
  else writeUnit (0xD800 + (n - 0x10000) / 0x400) ++ writeUnit (0xDC00 + (n - 0x10000) % 0x400)

def writeText (s : String) : List Char := '"' :: (s.toList.flatMap writeChar ++ ['"'])

/-- A floating-point number; infinities and what is no number are words. -/
def writeReal : Binary64 → List Char
  | .undefined => "NaN".toList
  | .infinite negative => if negative then "-Infinity".toList else "Infinity".toList
  | x => x.toText

/-- A line break and the blanks that indent a line inside `depth` brackets. -/
def lineBreak (depth : Nat) : List Char := '\n' :: List.replicate (2 * depth) ' '

/-- Items between brackets, each on a line of its own; without items the brackets stand together. -/
def bracketed (opening closing : Char) (depth : Nat) (items : List (List Char)) : List Char :=
  if items.isEmpty then [opening, closing]
  else opening :: (lineBreak (depth + 1) ++ Text.joined (',' :: lineBreak (depth + 1)) items ++
    lineBreak depth ++ [closing])

mutual

def writeAt (depth : Nat) : Doc → List Char
  | null => "null".toList
  | bool true => "true".toList
  | bool false => "false".toList
  | int n => Text.writeInt n
  | real x => writeReal x
  | text s => writeText s
  | array items => bracketed '[' ']' depth (writeItems (depth + 1) items)
  | object fields => bracketed '\x7b' '\x7d' depth (writeFields (depth + 1) fields)

def writeItems (depth : Nat) : List Doc → List (List Char)
  | [] => []
  | item :: rest => writeAt depth item :: writeItems depth rest

/-- The fields of an object: the name, a colon with a blank behind it, and the value. -/
def writeFields (depth : Nat) : Fields → List (List Char)
  | [] => []
  | (name, value) :: rest =>
    (writeText name ++ [':', ' '] ++ writeAt depth value) :: writeFields depth rest

end

/-- Write a document with one item to a line and two blanks for each bracket around it. -/
def write (d : Doc) : String := String.ofList (writeAt 0 d)

end ProxyRouting.Doc
