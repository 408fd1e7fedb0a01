import ProxyRouting.Text.Blank
import ProxyRouting.Text.Case
import ProxyRouting.Text.Decimal
import ProxyRouting.Text.Word

namespace ProxyRouting.Regex

/-- How letters that differ in case only are compared: as different letters, as one letter within
ASCII, or as one letter throughout. -/
inductive Folding where
  | exact
  | ascii
  | full
deriving DecidableEq, Repr

namespace Folding

/-- The code point that stands for all forms with one lower-case form. -/
def lowered : Folding → Nat → Nat
  | exact, n => n
  | ascii, n => Text.asciiLowerCode n
  | full, n => Text.lowerCode n

/-- Whether a character in a text is the letter `letter` of an expression. -/
def same (f : Folding) (letter found : Nat) : Bool :=
  match f with
  | exact => letter = found
  | ascii => Text.asciiLowerCode letter = Text.asciiLowerCode found
  | full => Text.sameCode letter found

/-- Whether a character in a text is one of the letters from `first` to `last`. -/
def within (f : Folding) (first last found : Nat) : Bool :=
  match f with
  | exact => first ≤ found && found ≤ last
  | ascii => (Text.asciiFormsOf found).any fun n => first ≤ n && n ≤ last
  | full => (Text.formsOf found).any fun n => first ≤ n && n ≤ last

end Folding

/-- The classes of characters that have a letter of their own. -/
inductive CharClass where
  | digit
  | blank
  | word
deriving DecidableEq, Repr

/-- Whether a character belongs to a class, within ASCII or throughout. -/
def CharClass.holds : CharClass → (ascii : Bool) → Char → Bool
  | digit, true, c => c.isDigit
  | digit, false, c => Text.isDecimal c
  | blank, true, c => Text.isAsciiBlank c
  | blank, false, c => Text.isBlank c
  | word, true, c => Text.isAsciiWord c
  | word, false, c => Text.isWord c

/-- A member of a set of characters. -/
inductive SetItem where
  | code (n : Nat)
  | range (first last : Nat)
  | ofClass (cls : CharClass) (ascii negated : Bool)
deriving DecidableEq, Repr

/-- Whether a member of a set covers a character. -/
def SetItem.holds (f : Folding) : SetItem → Char → Bool
  | code n, c => f.same n c.toNat
  | range first last, c => f.within first last c.toNat
  | ofClass cls ascii negated, c => cls.holds ascii c != negated

/-- What one character has to satisfy. -/
inductive CharTest where
  | code (n : Nat) (folding : Folding)
  | any (lineBreaks : Bool)
  | set (negated : Bool) (items : List SetItem) (folding : Folding)
deriving DecidableEq, Repr

def CharTest.holds : CharTest → Char → Bool
  | code n folding, c => folding.same n c.toNat
  | any lineBreaks, c => lineBreaks || c != '\n'
  | set negated items folding, c => (items.any fun item => item.holds folding c) != negated

/-- What a position in a text has to satisfy. -/
inductive Anchor where
  | textStart
  | textEnd
  /-- The end of the text, or the position before a line break that ends it. -/
  | lastLineEnd
  | lineStart
  | lineEnd
  /-- A position between a word character and another one, or a position that is none. An empty
  text has neither. -/
  | wordEdge (ascii negated : Bool)
deriving DecidableEq, Repr

/-- How a repetition weighs more rounds against fewer. A possessive one takes all rounds it can and
gives none back. -/
inductive Appetite where
  | greedy
  | lazy
  | possessive
deriving DecidableEq, Repr

/-- A regular expression. Groups count from one. -/
inductive Node where
  | empty
  | char (test : CharTest)
  | anchor (a : Anchor)
  | seq (first second : Node)
  | alt (first second : Node)
  | group (number : Nat) (body : Node)
  | backref (number : Nat) (folding : Folding)
  | ifGroup (number : Nat) (yes no : Node)
  | atomic (body : Node)
  /-- A look at the text ahead. -/
  | ahead (negated : Bool) (body : Node)
  /-- A look at the text behind, from `width` characters back. -/
  | behind (negated : Bool) (width : Nat) (body : Node)
  /-- At least `least` and at most `most` rounds. -/
  | rounds (appetite : Appetite) (least : Nat) (most : Option Nat) (body : Node)
deriving Repr

namespace Node

def sequence (nodes : List Node) : Node := nodes.foldr seq empty

def choice : List Node → Node
  | [] => empty
  | [node] => node
  | node :: others => alt node (choice others)

end Node

end ProxyRouting.Regex
