namespace ProxyRouting

/-- What a JavaScript runtime does when it is asked to parse a script. -/
inductive Outcome where
  | parses
  /-- It reports an error, by the name of its kind and a message. -/
  | reports (name message : String)
  /-- The question fails. -/
  | fails
  /-- The runtime is gone, for good. -/
  | vanishes
deriving DecidableEq, Repr

/-- A JavaScript runtime: what it does when it is asked for the first time, the second time, and so
on. On some machines there is none. -/
abbrev Runtime := Option (Nat → Outcome)

namespace Runtime

/-- The runtime that does what a list says, and finds nothing wrong after that. -/
def ofList (outcomes : List Outcome) : Runtime := some fun n => outcomes.getD n .parses

end Runtime

/-- What is known about the runtime. -/
inductive RuntimeState where
  | unsought
  | found
  | gone
deriving DecidableEq, Repr

/-- What is known about the runtime, how often it was sought, and how often it was asked. -/
structure Checker where
  state : RuntimeState
  lookups : Nat
  calls : Nat
deriving DecidableEq, Repr

namespace Checker

def initial : Checker := ⟨.unsought, 0, 0⟩

/-- What is said about an outcome; nothing when the runtime has no say. -/
def verdict? : Outcome → Option (List String)
  | .parses => some []
  | .reports name message =>
    some [(if name = "SyntaxError" then "Syntax error: " else "Error: ") ++ message]
  | .fails | .vanishes => none

def ask (c : Checker) (outcomes : Nat → Outcome) : Option (List String) × Checker :=
  let outcome := outcomes c.calls
  (verdict? outcome,
    { c with
      state := if outcome = .vanishes then .gone else .found
      calls := c.calls + 1 })

/-- Ask the runtime to parse a script, once it is found and unless it is gone. -/
def parse (c : Checker) (runtime : Runtime) : Option (List String) × Checker :=
  match c.state, runtime with
  | .gone, _ => (none, c)
  | .found, some outcomes => c.ask outcomes
  | .unsought, some outcomes => { c with lookups := c.lookups + 1 }.ask outcomes
  | .unsought, none => (none, { c with state := .gone, lookups := c.lookups + 1 })
  | .found, none => (none, c)

end Checker

end ProxyRouting
