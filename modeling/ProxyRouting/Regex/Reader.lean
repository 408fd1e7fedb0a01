import ProxyRouting.Regex.Escape
import ProxyRouting.Text.Identifier

namespace ProxyRouting.Regex

open Text (Front)

/-- What holds for a part of an expression. -/
structure Flags where
  ignoreCase : Bool := false
  multiline : Bool := false
  dotAll : Bool := false
  verbose : Bool := false
  ascii : Bool := false
deriving DecidableEq, Repr, Inhabited

namespace Flags

def folding (f : Flags) : Folding :=
  if !f.ignoreCase then .exact else if f.ascii then .ascii else .full

/-- The letters that name flags. Two of them stand for no field: `u` takes back `a`, and under `t`
nothing may be repeated; `L` is refused. -/
def letters : List Char := ['i', 'L', 'm', 's', 'x', 'a', 't', 'u']

def set (f : Flags) (on : Bool) (names : List Char) : Flags where
  ignoreCase := if names.contains 'i' then on else f.ignoreCase
  multiline := if names.contains 'm' then on else f.multiline
  dotAll := if names.contains 's' then on else f.dotAll
  verbose := if names.contains 'x' then on else f.verbose
  ascii := if names.contains 'a' then on else if names.contains 'u' then !on else f.ascii

end Flags

/-- The least and the greatest number of characters that an expression matches; without a second
number there is no greatest. -/
structure Width where
  least : Nat
  most : Option Nat
deriving DecidableEq, Repr

namespace Width

/-- The width of what matches a fixed number of characters. -/
def exactly (n : Nat) : Width := ⟨n, some n⟩

/-- The width of two expressions one after the other. -/
def plus (v w : Width) : Width :=
  ⟨v.least + w.least, match v.most, w.most with
    | some m, some n => some (m + n)
    | _, _ => none⟩

def orElse (v w : Width) : Width :=
  ⟨min v.least w.least, match v.most, w.most with
    | some m, some n => some (max m n)
    | _, _ => none⟩

def rounds (w : Width) (least : Nat) (most : Option Nat) : Width :=
  ⟨w.least * least, match w.most, most with
    | some 0, _ | _, some 0 => some 0
    | some m, some n => some (m * n)
    | _, _ => none⟩

end Width

/-- An expression that has been read, its width, and whether it may be repeated: neither an anchor
nor a repetition may. -/
structure Item where
  node : Node
  width : Width
  repeatable : Bool := true
deriving Repr

namespace Item

def char (test : CharTest) : Item := ⟨.char test, .exactly 1, true⟩

def anchor (a : Anchor) : Item := ⟨.anchor a, .exactly 0, false⟩

/-- Expressions one after another, given last first. -/
def sequence (items : List Item) : Item where
  node := .sequence (items.reverse.map Item.node)
  width := items.foldr (fun item w => w.plus item.width) (.exactly 0)

/-- A choice, given last first. -/
def choice (items : List Item) : Item where
  node := .choice (items.reverse.map Item.node)
  width := match items with
    | [] => .exactly 0
    | item :: others => others.foldr (fun other w => w.orElse other.width) item.width

end Item

/-- What an opening bracket starts. -/
inductive Opening where
  | plain
  | group (number : Nat)
  | atomic
  | ahead (negated : Bool)
  | behind (negated : Bool)
  /-- The branch for a group that has matched. -/
  | condition (number : Nat)
  /-- The other branch, behind the first one. -/
  | otherwise (number : Nat) (yes : Item)
deriving Repr

/-- An expression inside brackets that has been read in part: its finished alternatives and the
items of the one that goes on, last first. `barrier` is the barrier outside the brackets. -/
structure Frame where
  opening : Opening
  flags : Flags
  barrier : Option Nat
  finished : List Item := []
  items : List Item := []
deriving Repr

/-- The state of reading: the innermost brackets and those around them. -/
structure Reading where
  inner : Frame
  outer : List Frame := []
  /-- The number of groups that have been opened. -/
  groups : Nat := 0
  /-- The widths of the groups that have been closed. -/
  widths : List (Nat × Width) := []
  names : List (List Char × Nat) := []
  /-- While a look behind is read, the number of groups opened before it: no other group may be
  referred to. -/
  barrier : Option Nat := none
  /-- The greatest number of a group that a condition asks for. -/
  asked : Nat := 0
  /-- Whether the whole expression is to be read within ASCII, or throughout. -/
  asksAscii : Bool := false
  asksUnicode : Bool := false
  /-- Whether repetitions are ruled out. -/
  noRounds : Bool := false
  /-- Whether something was read that rules the expression out once all of it is read. -/
  spoiled : Bool := false
deriving Repr

namespace Reading

/-- The largest count of a repetition is below this number, and so is the width of a look behind. -/
def countLimit : Nat := 4294967295

/-- No group has this number or a greater one. -/
def groupLimit : Nat := 1073741823

/-- The flags of the innermost brackets. -/
def flags (r : Reading) : Flags := r.inner.flags

def append (r : Reading) (item : Item) : Reading :=
  { r with inner := { r.inner with items := item :: r.inner.items } }

def appendCode (r : Reading) (n : Nat) : Reading :=
  r.append (.char (.code n r.flags.folding))

/-- The item of a reference to a group: it is closed, and was opened before any look behind that is
being read. -/
def backref (r : Reading) (n : Nat) : Except ReadError Item :=
  match r.widths.lookup n with
  | some width =>
    if r.barrier.all (n ≤ ·) then .ok ⟨.backref n r.flags.folding, width, true⟩
    else .error .malformed
  | none => .error .malformed

def push (r : Reading) (opening : Opening) (flags : Flags) : Reading :=
  { r with
    inner := { opening, flags, barrier := r.barrier }
    outer := r.inner :: r.outer }

def pushGroup (r : Reading) : Reading :=
  { r.push (.group (r.groups + 1)) r.flags with groups := r.groups + 1 }

/-- Open a look behind. -/
def pushBehind (r : Reading) (negated : Bool) : Reading :=
  { r.push (.behind negated) r.flags with barrier := some (r.barrier.getD r.groups) }

def repeatLast (r : Reading) (appetite : Appetite) (least : Nat) (most : Option Nat) :
    Except ReadError Reading :=
  match r.inner.items with
  | [] => .error .malformed
  | item :: others =>
    if item.repeatable then
      let rounds : Item :=
        ⟨.rounds appetite least most item.node, item.width.rounds least most, false⟩
      .ok { r with
        inner := { r.inner with items := rounds :: others }
        spoiled := r.spoiled || r.noRounds }
    else .error .malformed

/-- The appetite that a mark behind a repetition asks for. -/
def appetite : List Char → Front Appetite
  | '?' :: rest => (.lazy, rest)
  | '+' :: rest => (.possessive, rest)
  | rest => (.greedy, rest)

/-- Repeat the last item with the appetite asked for. -/
def repeatWith (r : Reading) (least : Nat) (most : Option Nat) (rest : List Char) :
    Except ReadError (Front Reading) := do
  let (mode, rest) := appetite rest
  let r ← r.repeatLast mode least most
  .ok (r, rest)

/-- The digits of two counts behind an opening brace, up to the closing one. One count stands for
both. -/
def counts? (s : List Char) : Option (Front (List Char × List Char)) :=
  let least := s.takeWhile Char.isDigit
  match s.dropWhile Char.isDigit with
  | '\x7d' :: rest => if least.isEmpty then none else some ((least, least), rest)
  | ',' :: rest =>
    match rest.dropWhile Char.isDigit with
    | '\x7d' :: behind => some ((least, rest.takeWhile Char.isDigit), behind)
    | _ => none
  | _ => none

/-- The number that the digits of a count write; no digits set no bound. -/
def count (digits : List Char) : Except ReadError (Option Nat) :=
  if digits.isEmpty then .ok none
  else if Text.maxDigits < digits.length then .error .countTooLong
  else if countLimit ≤ Text.ofDigits (digits.map Text.digitValue) then .error .countTooLarge
  else .ok (some (Text.ofDigits (digits.map Text.digitValue)))

/-- Repeat the last item as often as counts between braces say. A brace without counts is a
character. -/
def readCounts (r : Reading) (rest : List Char) : Except ReadError (Front Reading) :=
  match counts? rest with
  | none => .ok (r.appendCode '\x7b'.toNat, rest)
  | some (_, ['\\']) => .error .malformed
  | some ((least, most), rest) => do
    let least ← count least
    let most ← count most
    if most.any (· < least.getD 0) then .error .malformed
    else r.repeatWith (least.getD 0) most rest

/-- The text from `mark` on; a backslash hides the character behind it. Without a mark nothing is
left but a backslash that hides nothing. -/
def skipTo (mark : Char) : List Char → List Char
  | [] => []
  | ['\\'] => ['\\']
  | '\\' :: _ :: rest => skipTo mark rest
  | c :: rest => if c = mark then c :: rest else skipTo mark rest

def readName (mark : Char) (s : List Char) : Except ReadError (Front (List Char)) :=
  match s.dropWhile (· != mark) with
  | _ :: rest =>
    let name := s.takeWhile (· != mark)
    if name.isEmpty then .error .malformed else .ok (name, rest)
  | [] => .error .malformed

/-- Open a group with a name, which is new. -/
def openNamed (r : Reading) (s : List Char) : Except ReadError (Front Reading) := do
  let (name, rest) ← readName '>' s
  if Text.isIdentifier name && (r.names.lookup name).isNone then
    .ok ({ r.pushGroup with names := (name, r.groups + 1) :: r.names }, rest)
  else .error .malformed

def namedBackref (r : Reading) (s : List Char) : Except ReadError (Front Reading) := do
  let (name, rest) ← readName ')' s
  match r.names.lookup name with
  | some n => do
    let item ← r.backref n
    .ok (r.append item, rest)
  | none => .error .malformed

/-- The number of the group that a condition asks for, by name or number. -/
def conditionNumber (r : Reading) (name : List Char) : Except ReadError Nat :=
  if Text.isIdentifier name then
    match r.names.lookup name with
    | some n => .ok n
    | none => .error .malformed
  else match Text.readInteger name with
    | some (.ofNat (n + 1)) => if n + 1 < groupLimit then .ok (n + 1) else .error .malformed
    | _ => .error .malformed

/-- Open a condition. Within a look behind it may ask only for what a reference may refer to. -/
def openCondition (r : Reading) (s : List Char) : Except ReadError (Front Reading) := do
  let (name, rest) ← readName ')' s
  let n ← r.conditionNumber name
  if r.barrier.isSome then discard (r.backref n)
  let r := { r with asked := if Text.isIdentifier name then r.asked else max r.asked n }
  .ok (r.push (.condition n) r.flags, rest)

/-- The flags named from the letter `c` on, behind those in `found`, and the character that ends
them. Words are those of ASCII or not, but not both. -/
def flagNames (c : Char) (found : List Char) : List Char → Except ReadError (List Char × Char × List Char)
  | [] => .error .malformed
  | d :: rest =>
    let found := c :: found
    if c = 'L' || (found.contains 'a' && found.contains 'u') then .error .malformed
    else if d = ')' || d = '-' || d = ':' then .ok (found, d, rest)
    else if Flags.letters.contains d then flagNames d found rest
    else .error .malformed

def flagsOff (found : List Char) : List Char → Except ReadError (Front (List Char))
  | [] => .error .malformed
  | c :: rest =>
    if c = ':' && !found.isEmpty then .ok (found, rest)
    else if c = 'a' || c = 'u' || c = 'L' then .error .malformed
    else if Flags.letters.contains c then flagsOff (c :: found) rest
    else .error .malformed

/-- Open brackets in which flags are turned on and off. No flag is turned both on and off, and
repetitions are ruled out only for the whole expression. -/
def openFlagged (r : Reading) (on off : List Char) : Except ReadError Reading :=
  if on.contains 't' || off.contains 't' || on.any off.contains then .error .malformed
  else .ok (r.push .plain ((r.flags.set true on).set false off))

/-- Turn flags on for the whole expression, at its very start. -/
def setFlags (r : Reading) (on : List Char) : Except ReadError Reading :=
  if r.outer.isEmpty && r.inner.finished.isEmpty && r.inner.items.isEmpty then
    .ok { r with
      inner := { r.inner with flags := r.flags.set true on }
      asksAscii := r.asksAscii || on.contains 'a'
      asksUnicode := r.asksUnicode || on.contains 'u'
      noRounds := r.noRounds || on.contains 't' }
  else .error .malformed

/-- Flags behind an opening bracket and a question mark. -/
def readFlags (r : Reading) (c : Char) (rest : List Char) : Except ReadError (Front Reading) :=
  if c = '-' then do
    let (off, rest) ← flagsOff [] rest
    .ok (← r.openFlagged [] off, rest)
  else do
    let (on, mark, rest) ← flagNames c [] rest
    if mark = ')' then .ok (← r.setFlags on, rest)
    else if mark = ':' then .ok (← r.openFlagged on [], rest)
    else do
      let (off, rest) ← flagsOff [] rest
      .ok (← r.openFlagged on off, rest)

def readOpening (r : Reading) (s : List Char) : Except ReadError (Front Reading) :=
  match s with
  | '?' :: 'P' :: '<' :: rest => r.openNamed rest
  | '?' :: 'P' :: '=' :: rest => r.namedBackref rest
  | '?' :: ':' :: rest => .ok (r.push .plain r.flags, rest)
  | '?' :: '#' :: rest =>
    match skipTo ')' rest with
    | ')' :: behind => .ok (r, behind)
    | _ => .error .malformed
  | '?' :: '=' :: rest => .ok (r.push (.ahead false) r.flags, rest)
  | '?' :: '!' :: rest => .ok (r.push (.ahead true) r.flags, rest)
  | '?' :: '<' :: '=' :: rest => .ok (r.pushBehind false, rest)
  | '?' :: '<' :: '!' :: rest => .ok (r.pushBehind true, rest)
  | '?' :: '(' :: rest => r.openCondition rest
  | '?' :: '>' :: rest => .ok (r.push .atomic r.flags, rest)
  | '?' :: c :: rest =>
    if c = '-' || Flags.letters.contains c then r.readFlags c rest else .error .malformed
  | ['?'] => .error .malformed
  | rest => .ok (r.pushGroup, rest)

/-- The finished alternatives of the innermost brackets as one expression. -/
def contents (r : Reading) : Item := .choice (.sequence r.inner.items :: r.inner.finished)

/-- A bar ends an alternative, or the first branch of a condition; a condition has no third one. -/
def bar (r : Reading) : Except ReadError Reading :=
  match r.inner.opening with
  | .condition n =>
    let yes := Item.sequence r.inner.items
    .ok { r with inner := { r.inner with opening := .otherwise n yes, items := [] } }
  | .otherwise _ _ => .error .malformed
  | _ =>
    let finished := .sequence r.inner.items :: r.inner.finished
    .ok { r with inner := { r.inner with finished, items := [] } }

/-- The width of a look behind, which has to be fixed. -/
def fixed? (w : Width) : Option Nat :=
  if w.most = some w.least ∧ w.least ≤ countLimit then some w.least else none

/-- Close the innermost brackets. -/
def close (r : Reading) : Except ReadError Reading :=
  match r.outer with
  | [] => .error (if r.asksAscii && r.asksUnicode then .incompatibleFlags else .malformed)
  | frame :: outer =>
    let body := r.contents
    let back : Reading := { r with inner := frame, outer, barrier := r.inner.barrier }
    .ok <| match r.inner.opening with
    | .plain => back.append body
    | .group n =>
      { back.append { body with node := .group n body.node } with
        widths := (n, body.width) :: r.widths }
    | .atomic => back.append { body with node := .atomic body.node }
    | .ahead negated => back.append ⟨.ahead negated body.node, .exactly 0, true⟩
    | .behind negated =>
      { back.append ⟨.behind negated body.width.least body.node, .exactly 0, true⟩ with
        spoiled := r.spoiled || (fixed? body.width).isNone }
    | .condition n =>
      back.append ⟨.ifGroup n body.node .empty, body.width.orElse (.exactly 0), true⟩
    | .otherwise n yes =>
      back.append ⟨.ifGroup n yes.node body.node, yes.width.orElse body.width, true⟩

/-- What stands between the tokens of a verbose expression. -/
def isFiller (c : Char) : Bool := Text.isAsciiBlank c

def readBackslash (r : Reading) (s : List Char) : Except ReadError (Front Reading) :=
  match s with
  | [] => .error .malformed
  | c :: rest =>
    match readEscape c rest with
    | .ok (.code n, rest) => .ok (r.appendCode n, rest)
    | .ok (.ofClass cls negated, rest) =>
      .ok (r.append (.char (.set false [.ofClass cls r.flags.ascii negated] .exact)), rest)
    | .ok (.anchor a, rest) => .ok (r.append (.anchor (a r.flags.ascii)), rest)
    | .ok (.backref n, rest) => (r.backref n).map fun item => (r.append item, rest)
    | .error err => .error err

def step (r : Reading) (c : Char) (rest : List Char) : Except ReadError (Front Reading) :=
  if c = '|' then r.bar.map (·, rest)
  else if c = ')' then r.close.map (·, rest)
  else if r.flags.verbose && isFiller c then .ok (r, rest)
  else if r.flags.verbose && c = '#' then
    .ok (r, skipTo '\n' rest)
  else if c = '\\' then r.readBackslash rest
  else if c = '[' then do
    let (test, rest) ← readSet r.flags.ascii r.flags.folding rest
    .ok (r.append (.char test), rest)
  else if c = '*' then r.repeatWith 0 none rest
  else if c = '+' then r.repeatWith 1 none rest
  else if c = '?' then r.repeatWith 0 (some 1) rest
  else if c = '\x7b' then r.readCounts rest
  else if c = '.' then .ok (r.append (.char (.any r.flags.dotAll)), rest)
  else if c = '(' then r.readOpening rest
  else if c = '^' then
    .ok (r.append (.anchor (if r.flags.multiline then .lineStart else .textStart)), rest)
  else if c = '$' then
    .ok (r.append (.anchor (if r.flags.multiline then .lineEnd else .lastLineEnd)), rest)
  else .ok (r.appendCode c.toNat, rest)

/-- Read token after token; each takes a character at least, so the length of the text is fuel
enough. -/
def readAll : Nat → Reading → List Char → Except ReadError Reading
  | _, r, [] => .ok r
  | 0, _, _ => .error .malformed
  | fuel + 1, r, c :: rest => do
    let (r, rest) ← r.step c rest
    readAll fuel r rest

/-- The expression, once all of it is read: no brackets are open, its flags agree, every group asked
for exists, and nothing rules it out. -/
def finish (r : Reading) : Except ReadError Node :=
  if !r.outer.isEmpty then .error .malformed
  else if r.asksAscii && r.asksUnicode then .error .incompatibleFlags
  else if r.groups < r.asked || r.spoiled then .error .malformed
  else .ok r.contents.node

end Reading

def read (flags : Flags) (s : List Char) : Except ReadError Node := do
  let start : Reading := { inner := { opening := .plain, flags, barrier := none } }
  (← start.readAll s.length s).finish

end ProxyRouting.Regex
