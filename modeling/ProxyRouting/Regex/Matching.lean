import ProxyRouting.Regex.Node

namespace ProxyRouting.Regex

/-- A position in a text, with the text before it, nearest character first, the text after it, and
where each group last opened and closed. -/
structure Cursor where
  pos : Nat
  before : List Char
  after : List Char
  opened : List (Nat × Nat)
  closed : List (Nat × Nat)
deriving Repr

namespace Cursor

def start (text : List Char) : Cursor := ⟨0, [], text, [], []⟩

/-- The cursor behind the next character `x`, which leaves `rest`. -/
def pass (c : Cursor) (x : Char) (rest : List Char) : Cursor :=
  { c with pos := c.pos + 1, before := x :: c.before, after := rest }

def back (c : Cursor) (width : Nat) : Cursor :=
  { c with
    pos := c.pos - width
    before := c.before.drop width
    after := (c.before.take width).reverse ++ c.after }

/-- Group `n` opens here. -/
def enter (c : Cursor) (n : Nat) : Cursor := { c with opened := (n, c.pos) :: c.opened }

/-- Group `n` closes here. -/
def leave (c : Cursor) (n : Nat) : Cursor := { c with closed := (n, c.pos) :: c.closed }

/-- The cursor with the groups that another one found. -/
def withGroups (c d : Cursor) : Cursor := { c with opened := d.opened, closed := d.closed }

/-- Where group `n` starts and ends, once it has matched. -/
def span? (c : Cursor) (n : Nat) : Option (Nat × Nat) :=
  match c.opened.lookup n, c.closed.lookup n with
  | some first, some last => if first ≤ last then some (first, last) else none
  | _, _ => none

/-- The cursor behind `part`, when the text goes on with it up to case. -/
def passAll (f : Folding) (c : Cursor) : List Char → Option Cursor
  | [] => some c
  | x :: part =>
    match c.after with
    | y :: rest =>
      if f.lowered x.toNat = f.lowered y.toNat then passAll f (c.pass y rest) part else none
    | [] => none

end Cursor

def Anchor.holds : Anchor → Cursor → Bool
  | textStart, c => c.before.isEmpty
  | textEnd, c => c.after.isEmpty
  | lastLineEnd, c => c.after.isEmpty || c.after == ['\n']
  | lineStart, c => c.before.isEmpty || c.before.head? == some '\n'
  | lineEnd, c => c.after.isEmpty || c.after.head? == some '\n'
  | wordEdge ascii negated, c =>
    let isWord (x : Option Char) : Bool := x.any (CharClass.word.holds ascii)
    !(c.before.isEmpty && c.after.isEmpty) &&
      (isWord c.before.head? != isWord c.after.head?) != negated

/-- What follows a part of an expression: it continues from a cursor, or refuses it. -/
abbrev Follow := Cursor → Option Cursor

/-- A part of an expression: from a cursor it tries one way after another until what follows
succeeds. -/
abbrev Step := Cursor → Follow → Option Cursor

namespace Step

def times (step : Step) : Nat → Step
  | 0, c, k => k c
  | n + 1, c, k => step c fun d => times step n d k

/-- Exactly `n` rounds, each settled before the next one. -/
def settledTimes (step : Step) : Nat → Cursor → Option Cursor
  | 0, c => some c
  | n + 1, c =>
    match step c some with
    | some d => settledTimes step n d
    | none => none

/-- Up to `n` more rounds, more preferred to fewer. No round starts where the one before it
started, at `last`. -/
def moreFirst (step : Step) : Nat → Option Nat → Step
  | 0, _, c, k => k c
  | n + 1, last, c, k =>
    if last = some c.pos then k c
    else (step c fun d => moreFirst step n (some c.pos) d k).orElse fun _ => k c

/-- Up to `n` more rounds, fewer preferred to more. -/
def fewerFirst (step : Step) : Nat → Option Nat → Step
  | 0, _, c, k => k c
  | n + 1, last, c, k =>
    (k c).orElse fun _ =>
      if last = some c.pos then none else step c fun d => fewerFirst step n (some c.pos) d k

/-- As many of up to `n` more rounds as there can be, each settled before the next one. -/
def settledMost (step : Step) : Nat → Option Nat → Cursor → Cursor
  | 0, _, c => c
  | n + 1, last, c =>
    if last = some c.pos then c
    else match step c some with
      | some d => settledMost step n (some c.pos) d
      | none => c

/-- A bound on the rounds past the least number that can start from a cursor: each but the last one
goes forward. -/
def spare (least : Nat) (most : Option Nat) (c : Cursor) : Nat :=
  match most with
  | some m => min (m - least) (c.after.length + 2)
  | none => c.after.length + 2

def rounds (step : Step) (appetite : Appetite) (least : Nat) (most : Option Nat) : Step :=
  fun c k =>
    match appetite with
    | .greedy => times step least c fun d => moreFirst step (spare least most d) none d k
    | .lazy => times step least c fun d => fewerFirst step (spare least most d) none d k
    | .possessive =>
      match settledTimes step least c with
      | some d => k (settledMost step (spare least most d) none d)
      | none => none

end Step

/-- Match an expression from a cursor in `text`, and what follows it after that. Ways are tried in
the order in which the expression prefers them. -/
def Node.run (text : List Char) : Node → Step
  | .empty, c, k => k c
  | .char test, c, k =>
    match c.after with
    | x :: rest => if test.holds x then k (c.pass x rest) else none
    | [] => none
  | .anchor a, c, k => if a.holds c then k c else none
  | .seq first second, c, k => run text first c fun d => run text second d k
  | .alt first second, c, k => (run text first c k).orElse fun _ => run text second c k
  | .group n body, c, k => run text body (c.enter n) fun d => k (d.leave n)
  | .backref n folding, c, k =>
    match c.span? n with
    | some (first, last) =>
      match c.passAll folding ((text.drop first).take (last - first)) with
      | some d => k d
      | none => none
    | none => none
  | .ifGroup n yes no, c, k =>
    if (c.span? n).isSome then run text yes c k else run text no c k
  | .atomic body, c, k =>
    match run text body c some with
    | some d => k d
    | none => none
  | .ahead negated body, c, k =>
    match run text body c some with
    | some d => if negated then none else k (c.withGroups d)
    | none => if negated then k c else none
  | .behind negated width body, c, k =>
    if width ≤ c.before.length then
      match run text body (c.back width) some with
      | some d => if negated then none else k (c.withGroups d)
      | none => if negated then k c else none
    else if negated then k c else none
  | .rounds appetite least most body, c, k =>
    Step.rounds (run text body) appetite least most c k

namespace Node

/-- Whether the expression matches from a position in the text or from a later one. The text before
the position is given nearest character first. -/
def searchFrom (node : Node) (text before : List Char) : List Char → Bool
  | [] => (node.run text ⟨before.length, before, [], [], []⟩ some).isSome
  | x :: rest =>
    (node.run text ⟨before.length, before, x :: rest, [], []⟩ some).isSome ||
      searchFrom node text (x :: before) rest

def search (node : Node) (text : List Char) : Bool := node.searchFrom text [] text

def fills (node : Node) (text : List Char) : Bool :=
  (node.run text (.start text) fun c => if c.after.isEmpty then some c else none).isSome

end Node

end ProxyRouting.Regex
