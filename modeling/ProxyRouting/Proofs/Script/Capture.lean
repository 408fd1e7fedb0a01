import ProxyRouting.Compile
import ProxyRouting.Proofs.Script.Embedding
import ProxyRouting.Proofs.Script.Extraction
import ProxyRouting.Proofs.Script.Source
import ProxyRouting.Proofs.Text.Numeral

/-! Which names an embedded body captures. The functions of a script are numbered, so a body that
mentions a number that is in use calls another function than it did where it came from, or itself.
A body that was compiled mentions what its statements mention. -/
namespace ProxyRouting

namespace Embedded

/-- The name of the function with a number. -/
def nameOf (n : Nat) : String := "_embeddedPAC_" ++ String.ofList (Text.writeNat n)

theorem toList_nameOf (n : Nat) :
    (nameOf n).toList = "_embeddedPAC_".toList ++ Text.writeNat n := by
  rw [nameOf, String.toList_append]
  exact congrArg _ String.toList_ofList

theorem function_eq_nameOf {e : Embedded} {n : Nat} (h : e.number = n) :
    e.function = nameOf n := by
  rw [function, h]
  rfl

theorem isBlank_of_mem_nameOf {n : Nat} {c : Char} (h : c ∈ (nameOf n).toList) :
    Text.isBlank c = false := by
  rw [toList_nameOf] at h
  rcases List.mem_append.mp h with hFixed | hDigit
  · have hAll : "_embeddedPAC_".toList.all (fun c => !Text.isBlank c) = true := by decide
    simpa using List.all_eq_true.mp hAll c hFixed
  · exact Text.isBlank_of_isDigit (Text.isDigit_of_mem_writeNat hDigit)

/-- The names in use are those with the numbers from zero on. -/
theorem Sound.exists_function_iff {profiles : List Profile} {found : List Embedded}
    (h : Sound profiles found) {name : String} :
    (∃ f ∈ found, f.function = name) ↔ ∃ k < found.length, nameOf k = name := by
  constructor
  · rintro ⟨f, hMem, rfl⟩
    obtain ⟨k, hk, hAt⟩ := List.mem_iff_getElem.mp hMem
    have hSome : found[k]? = some f := by rw [List.getElem?_eq_getElem hk, hAt]
    exact ⟨k, hk, (function_eq_nameOf (h.numbered k f hSome)).symm⟩
  · rintro ⟨k, hk, rfl⟩
    exact ⟨found[k], List.getElem_mem hk,
      function_eq_nameOf (h.numbered k _ (List.getElem?_eq_getElem hk))⟩

/-- The source text that an embedded script was taken from. -/
def origin? (e : Embedded) (profiles : List Profile) : Option String :=
  (Profile.find? (some e.profile) profiles).bind Profile.scriptText?

/-- An embedded body is the indented body of the function in its source text. -/
theorem Sound.exists_origin {profiles : List Profile} {found : List Embedded}
    (h : Sound profiles found) {e : Embedded} (hMem : e ∈ found) :
    ∃ source body, e.origin? profiles = some source ∧ functionBody? source.toList = some body ∧
      e.body.toList = indentLines body := by
  obtain ⟨p, hFind, -, hEmbedded⟩ := h.origin e hMem
  obtain ⟨-, -, source, hSource, hBody⟩ := ofProfile?_eq_some hEmbedded
  obtain ⟨body, hFunction, hIndented⟩ := Option.map_eq_some_iff.mp hBody
  refine ⟨source, body, ?_, hFunction, ?_⟩
  · rw [origin?, hFind]
    exact hSource
  · rw [← hIndented, String.toList_ofList]

/-- Whether the body that is taken out of a source text mentions the function with a number. -/
def Mentions (source : String) (k : Nat) : Prop :=
  ∃ body, functionBody? source.toList = some body ∧ (nameOf k).toList <:+: body

/-- A body mentions the functions that its source text makes it mention. -/
theorem Sound.infix_body_iff {profiles : List Profile} {found : List Embedded}
    (h : Sound profiles found) {e : Embedded} (hMem : e ∈ found) (k : Nat) :
    (nameOf k).toList <:+: e.body.toList ↔
      ∃ source, e.origin? profiles = some source ∧ Mentions source k := by
  obtain ⟨source, body, hSource, hBody, hIndented⟩ := h.exists_origin hMem
  rw [hIndented, infix_indentLines_iff fun c hc => isBlank_of_mem_nameOf hc]
  constructor
  · exact fun hInfix => ⟨source, hSource, body, hBody, hInfix⟩
  · rintro ⟨source', hSource', body', hBody', hInfix⟩
    rw [hSource, Option.some.injEq] at hSource'
    subst hSource'
    rw [hBody, Option.some.injEq] at hBody'
    subst hBody'
    exact hInfix

/-- Source text without the prefix of the names mentions none of them. -/
theorem prefix_infix_of_mentions {source : String} {k : Nat} (h : Mentions source k) :
    "_embeddedPAC_".toList <:+: source.toList := by
  obtain ⟨body, hBody, hInfix⟩ := h
  have hSource := infix_of_functionBody? hBody (fun c hc => isBlank_of_mem_nameOf hc) hInfix
  rw [toList_nameOf] at hSource
  exact (List.prefix_append _ _).isInfix.trans hSource

/-- No embedded body captures a name when no source text mentions a number in use. -/
theorem Sound.not_infix_iff {profiles : List Profile} {found : List Embedded}
    (h : Sound profiles found) :
    (∀ e ∈ found, ∀ f ∈ found, ¬ f.function.toList <:+: e.body.toList) ↔
      ∀ e ∈ found, ∀ source, e.origin? profiles = some source →
        ∀ k < found.length, ¬ Mentions source k := by
  constructor
  · intro hFree e hMem source hSource k hk hMentions
    obtain ⟨f, hf, hName⟩ := h.exists_function_iff.mpr ⟨k, hk, rfl⟩
    refine hFree e hMem f hf ?_
    rw [hName]
    exact (h.infix_body_iff hMem k).mpr ⟨source, hSource, hMentions⟩
  · intro hFree e hMem f hf hInfix
    obtain ⟨k, hk, hName⟩ := h.exists_function_iff.mp ⟨f, hf, rfl⟩
    rw [← hName] at hInfix
    obtain ⟨source, hSource, hMentions⟩ := (h.infix_body_iff hMem k).mp hInfix
    exact hFree e hMem source hSource k hk hMentions

end Embedded

end ProxyRouting
