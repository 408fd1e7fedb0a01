import ProxyRouting.Text.Decimal
import ProxyRouting.Text.Hexadecimal
import ProxyRouting.Text.Pieces

namespace ProxyRouting.Ipv6

/-- A group of an address: one to four hexadecimal digits. -/
def isGroup (s : List Char) : Bool := !s.isEmpty && s.length ≤ 4 && s.all Text.isHexDigit

def isOctet (s : List Char) : Bool :=
  !s.isEmpty && s.length ≤ 3 && s.all Char.isDigit && (s = ['0'] || s.head? != some '0') &&
    s.foldl (fun n c => 10 * n + Text.digitValue c) 0 ≤ 255

/-- The tail of an address in dotted form: four octets. -/
def isDotted (s : List Char) : Bool :=
  let octets := Text.pieces '.' s
  octets.length = 4 && octets.all isOctet

/-- The groups of an address, where a dotted tail stands for two. -/
def groups? (s : List Char) : Option (List (List Char)) :=
  let parts := Text.pieces ':' s
  match parts.getLast? with
  | some last =>
    if parts.length < 3 then none
    else if last.contains '.' then
      if isDotted last then some (parts.dropLast ++ [['0'], ['0']]) else none
    else some parts
  | none => none

/-- The groups before the gap, whose first one may be empty only when it is the only one. -/
def isHead (parts : List (List Char)) : Bool := parts = [[]] || parts.all isGroup

/-- How many groups are written before or behind the gap. -/
def written (parts : List (List Char)) : Nat := if parts = [[]] then 0 else parts.length

/-- Whether groups make an address: eight of them, or fewer with one gap. A gap is a group without
digits between two others. -/
def areGroups (parts : List (List Char)) : Bool :=
  let inner := parts.tail.dropLast
  match inner.findIdx? List.isEmpty with
  | none => parts.length = 8 && parts.all isGroup
  | some i =>
    let head := parts.take (i + 1)
    let tail := parts.drop (i + 2)
    inner.countP List.isEmpty = 1 && isHead head && isHead tail &&
      written head + written tail < 8

def isAddress (s : List Char) : Bool :=
  match groups? s with
  | some parts => areGroups parts
  | none => false

/-- Whether a text is an IPv6 address, which may have a zone behind a percent sign. -/
def isScoped (s : List Char) : Bool :=
  match s.dropWhile (· != '%') with
  | [] => isAddress s
  | _ :: zone => isAddress (s.takeWhile (· != '%')) && !zone.isEmpty && !zone.contains '%'

end ProxyRouting.Ipv6
