import ProxyRouting.Fault
import ProxyRouting.Number.Binary64

namespace ProxyRouting

/-- A stored document: the values that the host keeps and hands over. Whole numbers and
floating-point numbers are told apart, and the fields of an object keep their order. -/
inductive Doc where
  | null
  | bool (b : Bool)
  | int (n : Int)
  | real (x : Binary64)
  | text (s : String)
  | array (items : List Doc)
  | object (fields : List (String × Doc))
deriving Inhabited, Repr

/-- The fields of an object, in the order in which they were written. -/
abbrev Fields := List (String × Doc)

/-- The value of a field. Of several fields of one name the last one counts. -/
def Fields.find? (name : String) : Fields → Option Doc
  | [] => none
  | (key, value) :: rest =>
    (Fields.find? name rest).or (if key = name then some value else none)

namespace Doc

/-- Whether a value counts as set: everything does but null, false, zero and what is empty. -/
def isSet : Doc → Bool
  | null => false
  | bool b => b
  | int n => n != 0
  | real x => !x.isZero
  | text s => s != ""
  | array items => !items.isEmpty
  | object fields => !fields.isEmpty

def fields : Doc → Except Fault Fields
  | object fields => .ok fields
  | _ => .error .notAnObject

/-- The text of a value that is a text or null. -/
def optionalText : Doc → Except Fault (Option String)
  | text s => .ok (some s)
  | null => .ok none
  | _ => .error .notAText

/-- The items of a list; a text gives its characters, an object the names of its fields. -/
def items : Doc → Except Fault (List Doc)
  | array items => .ok items
  | text s => .ok (s.toList.map fun c => text c.toString)
  | object fields => .ok ((fields.map Prod.fst).eraseDups.map text)
  | _ => .error .notAList

/-- A text that may be absent, as a document. -/
def ofText : Option String → Doc
  | some s => text s
  | none => null

end Doc

namespace Fields

/-- A text field; a field that is not there has the text `missing`. -/
def textOr (fs : Fields) (name : String) (missing : Option String) : Except Fault (Option String) :=
  match fs.find? name with
  | some d => d.optionalText
  | none => .ok missing

/-- A switch, on or off as its value is set or not. -/
def switchOr (fs : Fields) (name : String) (missing : Bool) : Bool :=
  match fs.find? name with
  | some d => d.isSet
  | none => missing

/-- A part that is read only when its value is set. -/
def whenSet {α : Type} (fs : Fields) (name : String) (read : Doc → Except Fault α) :
    Except Fault (Option α) :=
  match fs.find? name with
  | some d => if d.isSet then (read d).map some else .ok none
  | none => .ok none

/-- A part that is read unless it is missing or null. -/
def whenPresent {α : Type} (fs : Fields) (name : String) (read : Doc → Except Fault α) :
    Except Fault (Option α) :=
  match fs.find? name with
  | none | some .null => .ok none
  | some d => (read d).map some

end Fields

end ProxyRouting
