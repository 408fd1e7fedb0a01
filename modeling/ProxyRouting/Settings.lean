import ProxyRouting.Doc.Printer
import ProxyRouting.Doc.Reader
import ProxyRouting.Text.Blank

namespace ProxyRouting

/-- A limit as it was stored, so that it is written back unchanged. A switch counts as one or
zero. -/
inductive Limit where
  | whole (n : Int)
  | switch (on : Bool)
  | fraction (x : Binary64)
deriving DecidableEq, Repr

namespace Limit

def value : Limit → Binary64
  | whole n => .ofInt n
  | switch on => .ofInt (if on then 1 else 0)
  | fraction x => x

/-- Whether a size goes beyond the limit. -/
def exceededBy (l : Limit) (size : Nat) : Bool := l.value.less (.ofInt size)

def text : Limit → String
  | whole n => String.ofList (Text.writeInt n)
  | switch on => if on then "True" else "False"
  | fraction x => String.ofList x.toText

/-- The limit in thousands, rounded down, inside a message. -/
def thousandsText : Limit → String
  | whole n => String.ofList (Text.writeInt (n.fdiv 1000))
  | switch _ => "0"
  | fraction x => String.ofList x.thousands.toText

/-- The limit that a stored number or switch sets. -/
def ofDoc : Doc → Except Fault Limit
  | .int n => .ok (whole n)
  | .bool b => .ok (switch b)
  | .real x => .ok (fraction x)
  | _ => .error .notANumber

def toDoc : Limit → Doc
  | whole n => .int n
  | switch on => .bool on
  | fraction x => .real x

end Limit

/-- What can be tuned: the indentation of compiled statements, limits on the sizes of names and
scripts, and whether a JavaScript runtime is asked to parse scripts. Any stored value counts as an
answer to the last question, and is kept to be written back. -/
structure Settings where
  indent : String
  maxNameLength : Limit
  largeScript : Limit
  maxScript : Limit
  runtimeCheck : Doc
deriving Repr

namespace Settings

def standard : Settings where
  indent := "  "
  maxNameLength := .whole 50
  largeScript := .whole 10000
  maxScript := .whole 1048576
  runtimeCheck := .bool true

/-- Whether a JavaScript runtime is asked to parse scripts. -/
def asksRuntime (s : Settings) : Bool := s.runtimeCheck.isSet

/-- A text is an indentation when it is made of spaces and tabs, one at least. -/
def isIndent (s : String) : Bool := s != "" && s.toList.all fun c => c = ' ' || c = '\t'

def indentOfDoc (d : Doc) : Except Fault String :=
  if !d.isSet then .error (.badSettings .indentIsBlank)
  else match d with
    | .text s => if isIndent s then .ok s else .error (.badSettings .indentIsBlank)
    | _ => .error .notAText

/-- The limit on names lies between 1 and 500. -/
def nameLimitOfDoc (d : Doc) : Except Fault Limit := do
  let limit ← Limit.ofDoc d
  if Binary64.atMost (.ofInt 1) limit.value && Binary64.atMost limit.value (.ofInt 500) then
    pure limit
  else .error (.badSettings .nameLength)

/-- The size from which a script is called large is positive. -/
def largeScriptOfDoc (d : Doc) : Except Fault Limit := do
  let limit ← Limit.ofDoc d
  if limit.value.less (.ofInt 1) then .error (.badSettings .scriptThreshold) else pure limit

/-- No script that is accepted is smaller than a large one. -/
def maxScriptOfDoc (large : Limit) (d : Doc) : Except Fault Limit := do
  let limit ← Limit.ofDoc d
  if limit.value.less large.value then .error (.badSettings .scriptSize) else pure limit

/-- Settings with the fields given, in the order of their rules; a field that is missing has its
standard value, and unknown fields are passed over. -/
def ofFields (fs : Fields) : Except Fault Settings := do
  let indent ← indentOfDoc ((fs.find? "indent").getD (.text standard.indent))
  let maxNameLength ←
    nameLimitOfDoc ((fs.find? "max_name_length").getD standard.maxNameLength.toDoc)
  let largeScript ←
    largeScriptOfDoc ((fs.find? "large_script_threshold").getD standard.largeScript.toDoc)
  let maxScript ←
    maxScriptOfDoc largeScript ((fs.find? "max_pac_size").getD standard.maxScript.toDoc)
  let runtimeCheck := (fs.find? "use_js_syntax_check").getD standard.runtimeCheck
  pure { indent, maxNameLength, largeScript, maxScript, runtimeCheck }

def ofDoc (d : Doc) : Except Fault Settings := do ofFields (← d.fields)

def toDoc (s : Settings) : Doc := .object [
  ("indent", .text s.indent),
  ("max_name_length", s.maxNameLength.toDoc),
  ("large_script_threshold", s.largeScript.toDoc),
  ("max_pac_size", s.maxScript.toDoc),
  ("use_js_syntax_check", s.runtimeCheck)]

def toJson (s : Settings) : String := s.toDoc.write

def ofJson (text : String) : Except Fault Settings := do ofDoc (← Doc.read text)

end Settings

end ProxyRouting
