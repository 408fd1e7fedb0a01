import ProxyRouting.References

namespace ProxyRouting.Store

/-- Put a profile in the place of the first one with its id, or behind all others. -/
def put (p : Profile) : List Profile → List Profile
  | [] => [p]
  | q :: rest => if q.id = p.id then p :: rest else q :: put p rest

def position (p : Profile) (store : List Profile) : Nat := store.findIdx fun q => q.id = p.id

/-- The profile that is put stands at its position. -/
theorem getElem?_put (p : Profile) (store : List Profile) :
    (put p store)[position p store]? = some p := by
  induction store with
  | nil => rfl
  | cons q rest ih =>
    by_cases h : q.id = p.id
    · simp [put, position, List.findIdx_cons, h]
    · simpa [put, position, List.findIdx_cons, h] using ih

/-- Remove all profiles with an id, and all references to it. -/
def remove (id : Option String) (store : List Profile) : List Profile :=
  (store.filter fun q => q.id ≠ id).map fun q =>
    { q with ruleSet := q.ruleSet.map fun s => s.removeReferences id }

/-- The profile at a position; a negative position counts from the end. -/
def entry (store : List Profile) (index : Int) : Except Fault Profile :=
  let found : Option Profile :=
    if 0 ≤ index then store[index.toNat]?
    else if index.natAbs ≤ store.length then store[store.length - index.natAbs]?
    else none
  match found with
  | some p => .ok p
  | none => .error .missingEntry

/-- The rule set of the profile at a position. -/
def ruleSetAt (store : List Profile) (index : Int) : Except Fault RuleSet := do
  match (← entry store index).ruleSet with
  | some s => pure s
  | none => .error .missingRuleSet

end ProxyRouting.Store
