import ProxyRouting.Script.Statement
import ProxyRouting.Settings

/-! The source text of conditions and statements as characters, with what stands between quotes told
apart from the fixed text around it. -/
namespace ProxyRouting

namespace Condition

theorem toList_render_shell (s : String) :
    (shell s).render.toList = "shExpMatch(host, ".toList ++ '"' :: (s.toList ++ '"' :: [')']) := by
  change ("shExpMatch(host, \"" ++ s ++ "\")").toList = _
  simp only [String.toList_append, List.append_assoc]
  rfl

theorem toList_render_equals (s : String) :
    (equals s).render.toList = "host === ".toList ++ '"' :: (s.toList ++ '"' :: []) := by
  change ("host === \"" ++ s ++ "\"").toList = _
  simp only [String.toList_append, List.append_assoc]
  rfl

theorem toList_render_search (s : String) :
    (search s).render.toList = "new RegExp(".toList ++
      '"' :: (doubleBackslashes s.toList ++ '"' :: ").test(host)".toList) := by
  change ("new RegExp(\"" ++ String.ofList (doubleBackslashes s.toList) ++ "\").test(host)").toList = _
  simp only [String.toList_append, String.toList_ofList, List.append_assoc]
  rfl

theorem toList_render_inNet (s : String) (mask : Quad) :
    (inNet s mask).render.toList = "isInNet(host, ".toList ++
      '"' :: (s.toList ++ '"' :: (", ".toList ++ '"' :: (mask.toChars ++ '"' :: [')']))) := by
  change ("isInNet(host, \"" ++ s ++ "\", \"" ++ mask.write ++ "\")").toList = _
  simp only [Quad.write, String.toList_append, String.toList_ofList, List.append_assoc]
  rfl

/-- No condition but the one that nothing satisfies is written like that. -/
theorem render_ne_false {c : Condition} (h : c ≠ .never) : c.render ≠ "false" := by
  intro hFalse
  have hChars := congrArg String.toList hFalse
  cases c with
  | shell s => simp [toList_render_shell] at hChars
  | equals s => simp [toList_render_equals] at hChars
  | search s => simp [toList_render_search] at hChars
  | inNet s mask => simp [toList_render_inNet] at hChars
  | never => exact h rfl

end Condition

namespace Action

theorem toList_render_answer (s : String) :
    (answer s).render.toList = '"' :: (s.toList ++ ['"']) := by
  change ("\"" ++ s ++ "\"").toList = _
  simp only [String.toList_append, List.append_assoc]
  rfl

theorem toList_render_call (s : String) :
    (call s).render.toList = s.toList ++ "(url, host)".toList := by
  change (s ++ "(url, host)").toList = _
  rw [String.toList_append]

theorem toList_renderLast (a : Action) :
    a.renderLast.toList = "return ".toList ++ (a.render.toList ++ [';']) := by
  change ("return " ++ a.render ++ ";").toList = _
  simp only [String.toList_append, List.append_assoc]
  rfl

end Action

theorem Statement.toList_render (s : Statement) :
    s.render.toList = "if (".toList ++
      (s.condition.render.toList ++ (") return ".toList ++ (s.action.render.toList ++ [';']))) := by
  change ("if (" ++ s.condition.render ++ ") return " ++ s.action.render ++ ";").toList = _
  simp only [String.toList_append, List.append_assoc]
  rfl

theorem Settings.eq_of_mem_indent {indent : String} (h : isIndent indent = true) {c : Char}
    (hc : c ∈ indent.toList) : c = ' ' ∨ c = '\t' := by
  simp only [isIndent, Bool.and_eq_true] at h
  have hBlank := List.all_eq_true.mp h.2 c hc
  simpa using hBlank

namespace Script

theorem toList_intercalate_cons (mark first : String) (others : List String) :
    (mark.intercalate (first :: others)).toList =
      first.toList ++ others.flatMap fun text => mark.toList ++ text.toList := by
  induction others generalizing first with
  | nil => simp
  | cons other others ih =>
      rw [String.intercalate_cons_cons, String.toList_append, String.toList_append, ih,
        List.flatMap_cons, List.append_assoc, List.append_assoc]

/-- What stands between the braces of the function that answers requests, up to the last line. -/
def inner (s : Script) (indent : String) : List Char :=
  (s.statements.map Statement.render ++ [s.last.renderLast]).flatMap fun text =>
    '\n' :: (indent.toList ++ text.toList)

def main (s : Script) (indent : String) : List Char :=
  "function FindProxyForURL(url, host) ".toList ++ '\x7b' :: (s.inner indent ++ ['\n', '\x7d'])

/-- The embedded functions stand in front of the one that answers requests. -/
theorem toList_render (s : Script) (indent : String) :
    (s.render indent).toList =
      (s.functions.flatMap fun e => e.source.toList ++ ['\n', '\n']) ++ s.main indent := by
  have hFunctions : (String.join (s.functions.map fun e => e.source ++ "\n\n")).toList =
      s.functions.flatMap fun e => e.source.toList ++ ['\n', '\n'] := by
    rw [String.toList_join, List.flatMap_map]
    simp only [String.toList_append]
    rfl
  have hLines : ("\n".intercalate (s.lines indent)).toList = s.main indent := by
    have hOpen : "function FindProxyForURL(url, host) \x7b".toList =
        "function FindProxyForURL(url, host) ".toList ++ ['\x7b'] := rfl
    have hClose : "\x7d".toList = ['\x7d'] := rfl
    have hBreak : "\n".toList = ['\n'] := rfl
    unfold lines main inner
    rw [List.append_assoc, List.append_assoc, List.singleton_append, toList_intercalate_cons, hOpen]
    simp only [List.flatMap_append, List.flatMap_map, List.flatMap_cons, List.flatMap_nil,
      String.toList_append, hClose, hBreak, List.append_assoc, List.append_nil, List.cons_append,
      List.nil_append]
  unfold render
  rw [String.toList_append, hFunctions, hLines]

end Script

end ProxyRouting
