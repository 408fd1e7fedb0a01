import ProxyRouting.Analysis.Construct
import ProxyRouting.Analysis.Mistake
import ProxyRouting.Desk

namespace ProxyRouting

/-- What was found in a script. -/
structure Analysis where
  syntaxErrors : List String
  security : List Issue
  warnings : List String
deriving DecidableEq, Repr

namespace Analysis

def syntaxValid (a : Analysis) : Bool := a.syntaxErrors.isEmpty

def critical (a : Analysis) : List Issue := a.security.filter fun i => i.gravity = .critical

def uncritical (a : Analysis) : List Issue := a.security.filter fun i => i.gravity ≠ .critical

/-- The analysis of a script that is too large to be looked at. -/
def oversized (settings : Settings) : Analysis where
  syntaxErrors :=
    ["PAC script exceeds maximum size of " ++ settings.maxScript.text ++ " bytes"]
  security := []
  warnings := []

/-- The analysis of a script about which a runtime said something, or nothing. -/
def ofScript (settings : Settings) (said : Option (List String)) (script : List Char) : Analysis where
  syntaxErrors := syntaxProblems said script
  security := securityIssues script
  warnings := (mistakes settings script).map Mistake.message

/-- The findings that an analysis leaves in a journal: one on errors of syntax, one on critical
constructs. -/
def findings (a : Analysis) (source : String) : List Finding :=
  let context := Doc.object [("pac_source", .text source)]
  (if a.syntaxErrors.isEmpty then []
    else [⟨.script, .medium, "PAC script has syntax errors",
      some ("; ".intercalate a.syntaxErrors), context⟩]) ++
  (if a.critical.isEmpty then []
    else [⟨.script, .high, "PAC script uses dangerous functions",
      some ("; ".intercalate (a.critical.map Issue.message)), context⟩])

end Analysis

/-- The setting in which scripts are looked at: the settings, and the runtime of the machine. -/
structure Workplace where
  settings : Settings
  runtime : Runtime

namespace Workplace

/-- What a runtime says about a script, if one is to be asked. -/
def said (w : Workplace) : Work (Option (List String)) :=
  if w.settings.asksRuntime then Desk.askRuntime w.runtime else pure none

/-- What is wrong with the syntax of a script. -/
def checkSyntax (w : Workplace) (script : List Char) : Work (List String) := do
  return syntaxProblems (← w.said) script

/-- Analyze a script that comes from `source`, and record what is found. A script beyond the limit
is not looked at. -/
def analyze (w : Workplace) (script : List Char) (source : String) : Work Analysis := do
  let analysis ←
    if w.settings.maxScript.exceededBy script.length then pure (Analysis.oversized w.settings)
    else do pure (Analysis.ofScript w.settings (← w.said) script)
  (analysis.findings source).forM Desk.note
  return analysis

end Workplace

end ProxyRouting
