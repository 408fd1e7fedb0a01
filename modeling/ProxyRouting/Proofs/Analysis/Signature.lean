import ProxyRouting.Analysis.Signature
import ProxyRouting.Proofs.Text.Ends

/-! The declaration of the function that answers requests, where it stands at the front of a
script. -/
namespace ProxyRouting

namespace Signature

theorem afterWord?_append (word : String) (rest : List Char) :
    afterWord? word (word.toList ++ rest) = some rest :=
  Text.after?_eq_some_iff.mpr rfl

/-- The parameters of a declaration stand between the parentheses behind the name. -/
theorem atFront?_of_declared {parameters : List Char} (hParen : ')' ∉ parameters)
    (hLine : '\n' ∉ parameters) (rest : List Char) :
    atFront? ("function".toList ++ ' ' ::
      ("FindProxyForURL".toList ++ '(' :: (parameters ++ ')' :: rest))) = some parameters := by
  have hBlank : Text.isBlank ' ' = true := by decide
  have hName : skipBlanks (' ' :: ("FindProxyForURL".toList ++ '(' :: (parameters ++ ')' :: rest))) =
      "FindProxyForURL".toList ++ '(' :: (parameters ++ ')' :: rest) := by
    have hFirst : "FindProxyForURL".toList = 'F' :: "indProxyForURL".toList := rfl
    have hLetter : ¬ Text.isBlank 'F' = true := by decide
    rw [skipBlanks, List.dropWhile_cons_of_pos hBlank, hFirst, List.cons_append,
      List.dropWhile_cons_of_neg hLetter]
  have hParameters : skipBlanks ('(' :: (parameters ++ ')' :: rest)) =
      "(".toList ++ (parameters ++ ')' :: rest) := by
    have hMark : ¬ Text.isBlank '(' = true := by decide
    rw [skipBlanks, List.dropWhile_cons_of_neg hMark]
    rfl
  have hTaken : (parameters ++ ')' :: rest).takeWhile (· != ')') = parameters := by
    rw [List.takeWhile_append_of_pos (Text.bne_of_not_mem hParen),
      List.takeWhile_cons_of_neg (by decide), List.append_nil]
  unfold atFront?
  rw [afterWord?_append]
  simp only [Option.bind_eq_bind, Option.bind_some]
  rw [hName, afterWord?_append, List.takeWhile_cons_of_pos hBlank]
  simp only [List.isEmpty_cons, Option.bind_some, Bool.false_eq_true, if_false]
  rw [hParameters, afterWord?_append]
  simp only [Option.bind_some, hTaken]
  simp [hLine]

end Signature

theorem signatureProblems_of_declared {parameters : List Char} (hParen : ')' ∉ parameters)
    (hLine : '\n' ∉ parameters) (hTwo : (Text.pieces ',' parameters).length = 2)
    (rest : List Char) :
    signatureProblems ("function".toList ++ ' ' ::
      ("FindProxyForURL".toList ++ '(' :: (parameters ++ ')' :: rest))) = [] := by
  have hOccurs : Text.occurs "function FindProxyForURL".toList ("function".toList ++ ' ' ::
      ("FindProxyForURL".toList ++ '(' :: (parameters ++ ')' :: rest))) = true := by
    have hName : "function FindProxyForURL".toList =
        "function".toList ++ ' ' :: "FindProxyForURL".toList := rfl
    rw [Text.occurs_iff, hName, ← List.cons_append, ← List.append_assoc]
    exact (List.prefix_append _ _).isInfix
  have hFound : Signature.find? ("function".toList ++ ' ' ::
      ("FindProxyForURL".toList ++ '(' :: (parameters ++ ')' :: rest))) = some parameters := by
    have hFirst : "function".toList = 'f' :: "unction".toList := rfl
    have hFront := Signature.atFront?_of_declared hParen hLine rest
    rw [hFirst, List.cons_append] at hFront
    rw [hFirst, List.cons_append, Signature.find?, hFront, Option.some_or]
  rw [signatureProblems, hOccurs, hFound]
  simp [hTwo]

end ProxyRouting
