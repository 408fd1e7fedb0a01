import ProxyRouting.Script.Condition
import ProxyRouting.Script.Embedded

namespace ProxyRouting

/-- What a statement of a script returns: an answer as it stands, or what an embedded function
answers. -/
inductive Action where
  | answer (text : String)
  | call (function : String)
deriving DecidableEq, Repr

def Action.render : Action → String
  | answer text => "\"" ++ text ++ "\""
  | call function => function ++ "(url, host)"

/-- A statement that returns under a condition. -/
structure Statement where
  condition : Condition
  action : Action
deriving DecidableEq, Repr

def Statement.render (s : Statement) : String :=
  "if (" ++ s.condition.render ++ ") return " ++ s.action.render ++ ";"

/-- The source text of the statement that returns when no other one does. -/
def Action.renderLast (a : Action) : String := "return " ++ a.render ++ ";"

/-- A script that answers requests: functions that other scripts were made into, statements in the
order in which they are tried, and what is returned after all of them. -/
structure Script where
  functions : List Embedded
  statements : List Statement
  last : Action
deriving DecidableEq, Repr

namespace Script

/-- The lines of the function that answers requests, each statement behind `indent`. -/
def lines (s : Script) (indent : String) : List String :=
  ["function FindProxyForURL(url, host) \x7b"] ++
  s.statements.map (fun statement => indent ++ statement.render) ++
  [indent ++ s.last.renderLast] ++
  ["\x7d"]

/-- The source text of a script: the embedded functions with an empty line behind each, and the
function that answers requests. -/
def render (s : Script) (indent : String) : String :=
  String.join (s.functions.map fun e => e.source ++ "\n\n") ++
  "\n".intercalate (s.lines indent)

end Script

end ProxyRouting
