import ProxyRouting.Regex.Matching
import ProxyRouting.Regex.Reader

namespace ProxyRouting.Wildcard

/-- The characters with a meaning in regular expressions that are plain ones in a wildcard. -/
def isSpecial (c : Char) : Bool :=
  ['.', '+', '^', '$', '\x7b', '\x7d', '(', ')', '|', '[', ']', '\\'].contains c

/-- The part of a regular expression that matches what one character of a wildcard matches. -/
def charRegex (c : Char) : List Char :=
  if c = '*' then ['.', '*']
  else if c = '?' then ['.']
  else if isSpecial c then ['\\', c]
  else [c]

/-- The regular expression that matches what a wildcard matches. -/
def toRegex (pattern : List Char) : List Char :=
  '^' :: (pattern.flatMap charRegex ++ ['$'])

/-- Whether the whole host matches a wildcard, letters of either case being alike. -/
def hasMatch (pattern host : List Char) : Except Regex.ReadError Bool := do
  let node ← Regex.read { ignoreCase := true } (toRegex pattern)
  pure (node.fills host)

end ProxyRouting.Wildcard
