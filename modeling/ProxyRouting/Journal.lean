import ProxyRouting.Doc.Basic

namespace ProxyRouting

/-- What a finding is about. -/
inductive Category where
  | pattern
  | profile
  | script
deriving DecidableEq, Repr

namespace Category

def name : Category → String
  | pattern => "pattern_validation"
  | profile => "config_validation"
  | script => "pac_analysis"

def all : List Category := [pattern, profile, script]

def named (name : String) : Except Fault Category :=
  match all.find? fun c => c.name = name with
  | some c => .ok c
  | none => .error .unknownCategory

theorem named_name (c : Category) : named c.name = .ok c := by
  cases c <;> rfl

end Category

/-- How serious a finding is. -/
inductive Severity where
  | low
  | medium
  | high
deriving DecidableEq, Repr

namespace Severity

def level : Severity → Nat
  | low => 1
  | medium => 2
  | high => 3

def all : List Severity := [low, medium, high]

def ofLevel (n : Int) : Except Fault Severity :=
  match all.find? fun s => (s.level : Int) = n with
  | some s => .ok s
  | none => .error .unknownSeverity

theorem ofLevel_level (s : Severity) : ofLevel s.level = .ok s := by
  cases s <;> rfl

end Severity

/-- Something that was found, with details and with facts about where. -/
structure Finding where
  category : Category
  severity : Severity
  message : String
  details : Option String
  context : Doc
deriving Repr

/-- Who is told about findings. To its `n`-th call it may object, given what the journal holds by
then. -/
structure Listener where
  respond : (n : Nat) → (held : List Finding) → Option Fault

/-- A record of findings: the last `limit` of them, oldest first, and how often its listener was
told. -/
structure Journal where
  limit : Nat
  listener : Option Listener
  entries : List Finding
  notified : Nat

namespace Journal

/-- An empty journal with room for `limit` findings, one at least. -/
def create (limit : Int) (listener : Option Listener) : Except Fault Journal :=
  if limit < 1 then .error .journalWithoutRoom
  else .ok { limit := limit.toNat, listener, entries := [], notified := 0 }

/-- The journal with one more finding; the oldest one goes when there is no room. -/
def store (j : Journal) (f : Finding) : Journal :=
  let entries := j.entries ++ [f]
  { j with entries := entries.drop (entries.length - j.limit) }

/-- A journal never holds more than it has room for. -/
theorem length_entries_store_le (j : Journal) (f : Finding) :
    (j.store f).entries.length ≤ j.limit := by
  simp only [store, List.length_drop]
  omega

theorem limit_store (j : Journal) (f : Finding) : (j.store f).limit = j.limit := rfl

theorem mem_entries_store {j : Journal} (h : 0 < j.limit) (f : Finding) :
    f ∈ (j.store f).entries := by
  simp only [store, List.length_append, List.length_singleton]
  rw [List.drop_append_of_le_length (by omega)]
  simp

/-- Store a finding, and then tell the listener, who may object. -/
def record (j : Journal) (f : Finding) : Except Fault Unit × Journal :=
  let j := j.store f
  match j.listener with
  | none => (.ok (), j)
  | some listener =>
    (match listener.respond j.notified j.entries with
      | none => .ok ()
      | some fault => .error fault,
    { j with notified := j.notified + 1 })

/-- The findings that are held, of one category or all, and of a severity at least. -/
def history (j : Journal) (category : Option Category) (least : Option Severity) : List Finding :=
  j.entries.filter fun f =>
    category.all (f.category = ·) && least.all (·.level ≤ f.severity.level)

/-- The number of findings held in each category that has one. -/
def counts (j : Journal) : List (Category × Nat) :=
  (Category.all.map fun c => (c, j.entries.countP (·.category = c))).filter fun entry => 0 < entry.2

def clear (j : Journal) : Journal := { j with entries := [] }

end Journal

end ProxyRouting
