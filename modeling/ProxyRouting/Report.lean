import ProxyRouting.Text.Integer

namespace ProxyRouting

/-- What a validation found: errors, which make the object unusable, and warnings. -/
structure Report where
  errors : List String
  warnings : List String
deriving DecidableEq, Repr

namespace Report

def empty : Report := ⟨[], []⟩

def error (message : String) : Report := ⟨[message], []⟩

def warning (message : String) : Report := ⟨[], [message]⟩

def isValid (r : Report) : Bool := r.errors.isEmpty

/-- The findings of two reports, those of the second one behind `lead`. -/
def merge (r s : Report) (lead : String) : Report :=
  ⟨r.errors ++ s.errors.map (lead ++ ·), r.warnings ++ s.warnings.map (lead ++ ·)⟩

instance : Append Report := ⟨fun r s => ⟨r.errors ++ s.errors, r.warnings ++ s.warnings⟩⟩

@[simp] theorem errors_append (r s : Report) : (r ++ s).errors = r.errors ++ s.errors := rfl

@[simp] theorem warnings_append (r s : Report) : (r ++ s).warnings = r.warnings ++ s.warnings := rfl

@[simp] theorem errors_empty_merge (r : Report) (lead : String) :
    (empty.merge r lead).errors = r.errors.map (lead ++ ·) := rfl

@[simp] theorem warnings_empty_merge (r : Report) (lead : String) :
    (empty.merge r lead).warnings = r.warnings.map (lead ++ ·) := rfl

def joined (reports : List Report) : Report := reports.foldr (· ++ ·) empty

def summary (r : Report) : String :=
  if r.isValid then
    if r.warnings.isEmpty then "✅ Configuration is valid"
    else "⚠️ Configuration is valid with " ++
      String.ofList (Text.writeNat r.warnings.length) ++ " warning(s)"
  else "❌ Configuration has " ++ String.ofList (Text.writeNat r.errors.length) ++ " error(s)"

end Report

end ProxyRouting
