import ProxyRouting.Address

namespace ProxyRouting

/-- What a statement of a script asks about the host. -/
inductive Condition where
  /-- The host matches a shell expression. -/
  | shell (expression : String)
  /-- The host is this very text. -/
  | equals (host : String)
  /-- A regular expression matches somewhere in the host. -/
  | search (expression : String)
  /-- The host is an address that agrees with another one where a mask has ones. -/
  | inNet (address : String) (mask : Quad)
  /-- Nothing satisfies the condition, which keeps the place of a rule that cannot be compiled. -/
  | never
deriving DecidableEq, Repr

/-- A text with each backslash written twice, as it stands inside a quoted text of a script. -/
def doubleBackslashes (s : List Char) : List Char :=
  s.flatMap fun c => if c = '\\' then ['\\', '\\'] else [c]

/-- The source text of a condition. A regular expression is written with its backslashes doubled,
every other text as it is. -/
def Condition.render : Condition → String
  | shell expression => "shExpMatch(host, \"" ++ expression ++ "\")"
  | equals host => "host === \"" ++ host ++ "\""
  | search expression =>
    "new RegExp(\"" ++ String.ofList (doubleBackslashes expression.toList) ++ "\").test(host)"
  | inNet address mask => "isInNet(host, \"" ++ address ++ "\", \"" ++ mask.write ++ "\")"
  | never => "false"

end ProxyRouting
