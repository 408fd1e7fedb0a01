namespace ProxyRouting

/-- The grammars in which a pattern can be written. -/
inductive Grammar where
  /-- An asterisk stands for any run of characters, a question mark for one character. -/
  | wildcard
  /-- A host name. -/
  | exact
  | regex
  /-- An IPv4 network: an address and a length. -/
  | network
deriving DecidableEq, Repr

namespace Grammar

def name : Grammar → String
  | wildcard => "wildcard"
  | exact => "exact"
  | regex => "regex"
  | network => "cidr"

def all : List Grammar := [wildcard, exact, regex, network]

def named? (name : Option String) : Option Grammar := all.find? fun g => some g.name = name

/-- A grammar is found by its name, and by no other. -/
theorem named?_eq_some_iff {name : Option String} {g : Grammar} :
    named? name = some g ↔ name = some g.name := by
  constructor
  · intro h
    have := List.find?_some h
    simpa [eq_comm] using this
  · rintro rfl
    cases g <;> rfl

end Grammar

end ProxyRouting
