import ProxyRouting.Proofs.Pattern.Glob
import ProxyRouting.Proofs.Pattern.Network
import ProxyRouting.Proofs.Script.Literal
import ProxyRouting.Proofs.Script.Source

/-! What the text of a condition asks of a host. The text is read on its own, by the functions of a
proxy script that it calls and the texts between its quotes, and for a pattern without a problem the
answer is whether the host matches the pattern. -/
namespace ProxyRouting

/-- What a condition asks, once its text is read. -/
inductive Query where
  | glob (pattern : List Char)
  | equals (name : List Char)
  | search (expression : List Char)
  | inNet (address mask : List Char)
  | never
deriving DecidableEq, Repr

namespace Query

def read? (text : List Char) : Option Query :=
  match Literal.parts? false text with
  | some [code] => if code = "false".toList then some never else none
  | some [before, s, behind] =>
    if before = "shExpMatch(host, ".toList ∧ behind = ")".toList then some (glob s)
    else if before = "host === ".toList ∧ behind = [] then some (equals s)
    else if before = "new RegExp(".toList ∧ behind = ").test(host)".toList then some (search s)
    else none
  | some [before, s, between, t, behind] =>
    if before = "isInNet(host, ".toList ∧ between = ", ".toList ∧ behind = ")".toList then
      some (inNet s t)
    else none
  | _ => none

/-- The answer for a host. An address lies in a network when it agrees with that where the mask has
ones, all three of them being dotted addresses. -/
def holds : Query → (host : List Char) → Bool
  | glob pattern, host => Wildcard.fits pattern host
  | equals name, host => host = name
  | search expression, host =>
    match Regex.read {} expression with
    | .ok node => node.search host
    | .error _ => false
  | inNet address mask, host =>
    match Quad.ofChars? host, Quad.ofChars? address, Quad.ofChars? mask with
    | some h, some a, some m => decide (Network.Agree m h a)
    | _, _, _ => false
  | never, _ => false

end Query

namespace Condition

/-- What a condition is meant to ask. -/
def query : Condition → Query
  | shell expression => .glob expression.toList
  | equals host => .equals host.toList
  | search expression => .search expression.toList
  | inNet address mask => .inNet address.toList mask.toChars
  | never => .never

/-- Whether the texts of a condition stand unchanged between quotes: without quotes and line breaks
and, where backslashes are not doubled, without those. -/
def IsQuotable : Condition → Prop
  | shell s | equals s | inNet s _ => Literal.IsPlain s.toList ∧ '\\' ∉ s.toList
  | search s => Literal.IsPlain s.toList
  | never => True

open Literal in
theorem parts?_verbatim {code s rest first : List Char} {others : List (List Char)}
    (hCode : '"' ∉ code) (h : IsPlain s ∧ '\\' ∉ s)
    (hRest : parts? false rest = some (first :: others)) :
    parts? false (code ++ '"' :: (s ++ '"' :: rest)) = some (code :: s :: first :: others) := by
  have := parts?_quoted hCode h.1 hRest
  rwa [doubleBackslashes_of_not_mem h.2] at this

theorem isPlain_toChars (q : Quad) : Literal.IsPlain q.toChars ∧ '\\' ∉ q.toChars := by
  have hOther : ∀ {c : Char}, c.isDigit = false → c ≠ '.' → c ∉ q.toChars := by
    intro c hDigit hDot hc
    rcases Quad.isDigit_or_eq_of_mem_toChars hc with h | h
    · rw [hDigit] at h
      cases h
    · exact hDot h
  refine ⟨fun c hc => ⟨?_, ?_, ?_⟩, hOther (by decide) (by decide)⟩
  all_goals
    rintro rfl
    exact hOther (by decide) (by decide) hc

/-- The fixed texts and the quoted ones of a condition, in turn. -/
def parts : Condition → List (List Char)
  | shell s => ["shExpMatch(host, ".toList, s.toList, ")".toList]
  | equals s => ["host === ".toList, s.toList, []]
  | search s => ["new RegExp(".toList, s.toList, ").test(host)".toList]
  | inNet s mask => ["isInNet(host, ".toList, s.toList, ", ".toList, mask.toChars, ")".toList]
  | never => ["false".toList]

open Literal in
theorem parts?_render {c : Condition} (h : c.IsQuotable) :
    parts? false c.render.toList = some c.parts := by
  have hEnd : parts? false [')'] = some [[')']] := parts?_code (by decide)
  cases c with
  | shell s =>
      have hCode : '"' ∉ "shExpMatch(host, ".toList := by decide
      rw [toList_render_shell, parts?_verbatim hCode h hEnd]
      rfl
  | equals s =>
      have hCode : '"' ∉ "host === ".toList := by decide
      rw [toList_render_equals, parts?_verbatim hCode h parts?_outside_nil]
      rfl
  | search s =>
      have hCode : '"' ∉ "new RegExp(".toList := by decide
      have hTest : parts? false ").test(host)".toList = some [").test(host)".toList] :=
        parts?_code (by decide)
      rw [toList_render_search, parts?_quoted hCode h hTest]
      rfl
  | inNet s mask =>
      have hCode : '"' ∉ "isInNet(host, ".toList := by decide
      have hBetween : '"' ∉ ", ".toList := by decide
      have hMask := parts?_verbatim hBetween (isPlain_toChars mask) hEnd
      rw [toList_render_inNet, parts?_verbatim hCode h hMask]
      rfl
  | never => rfl

theorem read?_render {c : Condition} (h : c.IsQuotable) :
    Query.read? c.render.toList = some c.query := by
  rw [Query.read?, parts?_render h]
  cases c with
  | shell s => rfl
  | equals s => rfl
  | search s => rfl
  | inNet s mask => rfl
  | never => rfl

end Condition

end ProxyRouting
