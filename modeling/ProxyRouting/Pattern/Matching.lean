import ProxyRouting.Fault
import ProxyRouting.Pattern.Grammar
import ProxyRouting.Pattern.Wildcard
import ProxyRouting.Script.Condition
import ProxyRouting.Text.Optional

namespace ProxyRouting

/-- A malformed regular expression is no fault of the one who matches it; other errors are. -/
def Fault.ofReadError? : Regex.ReadError → Option Fault
  | .malformed => none
  | .countTooLarge => some .repetitionTooLarge
  | .countTooLong => some .notAnInteger
  | .incompatibleFlags => some .incompatibleFlags

/-- A result that a malformed regular expression replaces by `otherwise`. -/
def orMalformed {α : Type} (otherwise : α) : Except Regex.ReadError α → Except Fault α
  | .ok a => .ok a
  | .error err =>
    match Fault.ofReadError? err with
    | none => .ok otherwise
    | some fault => .error fault

namespace Grammar

/-- Whether a host matches a pattern that is there. -/
def matchesText (g : Grammar) (pattern host : String) : Except Fault Bool :=
  match g with
  | wildcard => orMalformed false (Wildcard.hasMatch pattern.toList host.toList)
  | exact => .ok (host = pattern)
  | regex => orMalformed false ((Regex.read {} pattern.toList).map fun node => node.search host.toList)
  | network =>
    match Quad.read? host with
    | some address => .ok ((Network.read? pattern).any fun n => n.hasMember address)
    | none => .ok false

/-- Whether a host matches a pattern. A pattern that is absent matches nothing where its text is not
needed: a host name is compared, and a host that is no address belongs to no network. -/
def hasMatch (g : Grammar) (pattern : Option String) (host : String) : Except Fault Bool :=
  match g, pattern with
  | g, some pattern => g.matchesText pattern host
  | exact, none => .ok false
  | network, none => if (Quad.read? host).isSome then .error .missingText else .ok false
  | _, none => .error .missingPattern

/-- The condition of a script that stands for a pattern. A network that cannot be read is a
condition that nothing satisfies. -/
def condition (g : Grammar) (pattern : Option String) : Except Fault Condition :=
  match g, pattern with
  | wildcard, pattern => .ok (.shell (Text.shown pattern))
  | exact, pattern => .ok (.equals (Text.shown pattern))
  | regex, some pattern => .ok (.search pattern)
  | network, some pattern =>
    match Network.read? pattern with
    | some n => .ok (.inNet (String.ofList n.address) (Quad.mask n.length))
    | none => .ok .never
  | _, none => .error .missingText

end Grammar

/-- Whether a host matches a pattern in the grammar of the given name. A grammar that is not known
matches nothing. -/
def patternMatches (pattern grammar : Option String) (host : String) : Except Fault Bool :=
  match Grammar.named? grammar with
  | some g => g.hasMatch pattern host
  | none => .ok false

/-- The condition for a pattern in the grammar of the given name, if that grammar is known. -/
def patternCondition (pattern grammar : Option String) : Except Fault (Option Condition) :=
  match Grammar.named? grammar with
  | some g => (g.condition pattern).map some
  | none => .ok none

end ProxyRouting
