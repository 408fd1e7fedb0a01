import ProxyRouting.Analysis.Distance
import ProxyRouting.Analysis.Signature
import ProxyRouting.Entry
import ProxyRouting.Settings
import ProxyRouting.Text.Word

namespace ProxyRouting

/-- A mistake that authors of scripts often make. -/
inductive Mistake where
  | noReturn
  | noKnownAnswer
  | unknownAnswer (entry : String) (line : Nat)
  | missingSemicolons
  | misspelled (name builtin : String)
  | usesConsole
  | largeScript (limit : Limit)
deriving DecidableEq, Repr

def Mistake.message : Mistake → String
  | noReturn => "No return statement found - PAC must return a proxy string"
  | noKnownAnswer =>
    "No DIRECT or PROXY return statements found - verify return values are correct"
  | unknownAnswer entry line =>
    "Unrecognised proxy return value '" ++ entry ++ "' " ++ lineNote line
  | missingSemicolons =>
    "Many statements may be missing semicolons - verify syntax is correct"
  | misspelled name builtin =>
    "'" ++ name ++ "' may be a typo - did you mean '" ++ builtin ++ "'?"
  | usesConsole => "console.log/warn/error are not available in PAC scripts"
  | largeScript limit =>
    "Script is very large (>" ++ limit.thousandsText ++
      "KB) - consider simplifying for better performance"

def builtinFunctions : List String :=
  ["isPlainHostName", "dnsDomainIs", "localHostOrDomainIs", "isResolvable", "isInNet", "dnsResolve",
   "myIpAddress", "dnsDomainLevels", "shExpMatch", "weekdayRange", "dateRange", "timeRange"]

namespace Mistake

/-- Whether a text starts with a known answer: a word that starts an entry, letters of either case
being alike, where a word ends. -/
def startsWithAnswer (s : List Char) : Bool :=
  ("DIRECT" :: Keyword.all.map Keyword.word).any fun word =>
    match Text.after? Text.sameLetter word.toList s with
    | some (c :: _) => !Text.isWord c
    | some [] => true
    | none => false

/-- Whether a text starts with the return of a known answer. -/
def startsWithReturn (s : List Char) : Bool :=
  match Text.after? Text.sameLetter "return".toList s with
  | some rest =>
    !(rest.takeWhile Text.isBlank).isEmpty &&
    match rest.dropWhile Text.isBlank with
    | quote :: rest => (quote = '"' || quote = '\x27') && startsWithAnswer rest
    | [] => false
  | none => false

/-- Whether a known answer is returned somewhere in a text. -/
def returnsAnswer : List Char → Bool
  | [] => false
  | c :: rest => startsWithReturn (c :: rest) || returnsAnswer rest

/-- The text between the quotes of a return at the front of a script, and the length of all of it.
The text has neither quotes nor line breaks. -/
def returned? (s : List Char) : Option (List Char × Nat) :=
  match Text.after? (fun a b => a = b) "return".toList s with
  | some rest =>
    let blanks := rest.takeWhile Text.isBlank
    match rest.dropWhile Text.isBlank with
    | quote :: behind =>
      let body := behind.takeWhile fun c => c != '"' && c != '\x27' && c != '\n'
      if !blanks.isEmpty && (quote = '"' || quote = '\x27') &&
          (behind.drop body.length).head? = some quote then
        some (body, 6 + blanks.length + 1 + body.length + 1)
      else none
    | [] => none
  | none => none

/-- The texts that are returned from line `line` on, each with the line of its return. The first
`skip` characters belong to a return that has been found. -/
def returnedFrom : Nat → Nat → List Char → List (List Char × Nat)
  | _, _, [] => []
  | skip + 1, line, c :: rest => returnedFrom skip (nextLine line c) rest
  | 0, line, c :: rest =>
    match returned? (c :: rest) with
    | some (body, n) => (body, line) :: returnedFrom (n - 1) (nextLine line c) rest
    | none => returnedFrom 0 (nextLine line c) rest

/-- The upper-case form of a character, as far as an entry for a direct connection is concerned. -/
def upperChar (c : Char) : Char := if c = '\u0131' then 'I' else c.toUpper

/-- Whether an entry is known: one for a direct connection, in letters of any case, or one that
announces a server. -/
def isKnownEntry (entry : List Char) : Bool :=
  entry.map upperChar = Entry.direct.toList || (Entry.ofChars? (Text.strip entry)).isSome

def unknownAnswers (script : List Char) : List Mistake :=
  (returnedFrom 0 1 script).flatMap fun (body, line) =>
    ((Entry.chainOfChars body).filter fun entry => !isKnownEntry entry).map fun entry =>
      unknownAnswer (String.ofList entry) line

/-- The lines of a script that hold more than a comment, without the blanks at their ends. -/
def statements (script : List Char) : List (List Char) :=
  ((Text.pieces '\n' script).map Text.strip).filter fun line =>
    !line.isEmpty && !("//".toList.isPrefixOf line)

def isTerminated (line : List Char) : Bool :=
  match line.getLast? with
  | some c => c = ';' || c = '\x7b' || c = '\x7d'
  | none => false

/-- Whether most of several statements lack the mark that ends one. -/
def lacksSemicolons (script : List Char) : Bool :=
  let lines := statements script
  5 < lines.length && 2 * lines.countP isTerminated < lines.length

/-- What stands at the end of a call and is no part of its name: the parenthesis, and those blanks
that are spaces, tabs, line feeds or carriage returns. -/
def isCallEnd (c : Char) : Bool := c = '(' || c = ' ' || c = '\t' || c = '\r' || c = '\n'

/-- The name of the function that is called at the front of a text, which starts with a word. -/
def calledName? (s : List Char) : Option (List Char) :=
  let word := s.takeWhile Text.isWord
  let rest := s.dropWhile Text.isWord
  let blanks := rest.takeWhile Text.isBlank
  match rest.dropWhile Text.isBlank with
  | '(' :: _ => some (Text.dropEndWhile isCallEnd (word ++ blanks ++ ['(']))
  | _ => none

/-- The names of the functions that are called in a text, whose first character follows a word
character or not. -/
def calledNames : Bool → List Char → List (List Char)
  | _, [] => []
  | afterWord, c :: rest =>
    (if Text.isWord c && !afterWord then (calledName? (c :: rest)).toList else []) ++
      calledNames (Text.isWord c) rest

/-- A name that may be a misspelled one: it starts with a small letter, and is that of no known
function. -/
def isSuspect (name : List Char) : Bool :=
  (match name with
    | c :: _ => 'a' ≤ c && c ≤ 'z'
    | [] => false) &&
  name != "function".toList && !(builtinFunctions.any fun f => f.toList = name)

/-- The first known function whose name is at most two edits away from a name. -/
def similarBuiltin? (name : List Char) : Option String :=
  builtinFunctions.find? fun f => editDistance name f.toList ≤ 2

/-- The names that may be misspelled, each once; those in `seen` have been looked at. -/
def misspellings : (seen names : List (List Char)) → List Mistake
  | _, [] => []
  | seen, name :: rest =>
    if seen.contains name || !isSuspect name then misspellings seen rest
    else
      ((similarBuiltin? name).map (misspelled (String.ofList name))).toList ++
        misspellings (name :: seen) rest

def callsConsole (script : List Char) : Bool :=
  ["console.log", "console.warn", "console.error"].any fun s => Text.occurs s.toList script

end Mistake

/-- The mistakes found in a script, one kind after another. -/
def mistakes (settings : Settings) (script : List Char) : List Mistake :=
  (if Text.occurs "return ".toList script then [] else [.noReturn]) ++
  (if Mistake.returnsAnswer script then [] else [.noKnownAnswer]) ++
  Mistake.unknownAnswers script ++
  (if Mistake.lacksSemicolons script then [.missingSemicolons] else []) ++
  Mistake.misspellings [] (Mistake.calledNames false script) ++
  (if Mistake.callsConsole script then [.usesConsole] else []) ++
  (if settings.largeScript.exceededBy script.length then [.largeScript settings.largeScript] else [])

end ProxyRouting
