import ProxyRouting.Settings
import ProxyRouting.Proofs.Doc.Written
import ProxyRouting.Proofs.Stored

/-! Stored settings. Settings of an indentation, integer limits and a switch are read back from the
text that is kept of them, however large the limits are as long as they can be read at all; fields
of other names that have come between their own change nothing. -/
namespace ProxyRouting

namespace Binary64

theorem inUnits_ofInt (n : Int) : inUnits (n < 0) n.natAbs 0 (min 0 0) = n := by
  have hUnit : (n.natAbs : Int) * (Nat.pow 2 (0 - min (0 : Int) 0).toNat : Nat) = n.natAbs :=
    Int.mul_one _
  simp only [inUnits, hUnit, decide_eq_true_eq]
  omega

/-- Integers are compared as integers, whatever their size. -/
theorem less_ofInt (m n : Int) : (ofInt m).less (ofInt n) = decide (m < n) := by
  rw [ofInt, ofInt, less, inUnits_ofInt, inUnits_ofInt]

theorem atMost_ofInt (m n : Int) : (ofInt m).atMost (ofInt n) = decide (m ≤ n) := by
  show (!(ofInt n).less (ofInt m)) = _
  rw [less_ofInt, ← decide_not]
  exact decide_eq_decide.mpr Int.not_lt

end Binary64

/-- Fields that are asked for by no name do not count. -/
theorem Fields.find?_filter (keep : String → Bool) (fs : Fields) {name : String}
    (h : keep name = true) :
    Fields.find? name (fs.filter fun field => keep field.1) = fs.find? name := by
  induction fs with
  | nil => rfl
  | cons field rest ih =>
      obtain ⟨key, value⟩ := field
      rw [List.filter_cons, find?_cons]
      by_cases hKey : keep key = true
      · rw [if_pos hKey, find?_cons, ih]
      · have hNe : key ≠ name := by
          rintro rfl
          exact hKey h
        rw [if_neg hKey, ih, if_neg hNe, Option.or_none]

namespace Settings

/-- The names of the fields in which settings are kept. -/
def isKnown (name : String) : Bool :=
  ["indent", "max_name_length", "large_script_threshold", "max_pac_size",
    "use_js_syntax_check"].contains name

/-- Fields of unknown names are passed over, wherever they stand. -/
theorem ofFields_filter_isKnown (fs : Fields) :
    ofFields (fs.filter fun field => isKnown field.1) = ofFields fs := by
  have hFind : ∀ name, isKnown name = true →
      Fields.find? name (fs.filter fun field => isKnown field.1) = fs.find? name :=
    fun name => Fields.find?_filter isKnown fs
  rw [ofFields, hFind "indent" (by decide), hFind "max_name_length" (by decide),
    hFind "large_script_threshold" (by decide), hFind "max_pac_size" (by decide),
    hFind "use_js_syntax_check" (by decide)]
  rfl

section

variable {indent : String} {name large most : Int}

theorem indentOfDoc_text (h : isIndent indent = true) :
    indentOfDoc (.text indent) = .ok indent := by
  have hSet : (Doc.text indent).isSet = true := (Bool.and_eq_true_iff.mp h).1
  simp only [indentOfDoc, hSet, h]
  rfl

theorem nameLimitOfDoc_int (h : 1 ≤ name ∧ name ≤ 500) :
    nameLimitOfDoc (.int name) = .ok (.whole name) := by
  show (if _ then _ else _) = _
  rw [if_pos]
  · rfl
  · simp only [Limit.value, Binary64.atMost_ofInt]
    simpa using h

theorem largeScriptOfDoc_int (h : 1 ≤ large) :
    largeScriptOfDoc (.int large) = .ok (.whole large) := by
  show (if _ then _ else _) = _
  rw [if_neg]
  · rfl
  · simp only [Limit.value, Binary64.less_ofInt]
    simpa using h

theorem maxScriptOfDoc_int (h : large ≤ most) :
    maxScriptOfDoc (.whole large) (.int most) = .ok (.whole most) := by
  show (if _ then _ else _) = _
  rw [if_neg]
  · rfl
  · simp only [Limit.value, Binary64.less_ofInt]
    simpa using h

/-- Settings with an indentation, integer limits and a switch. -/
def plain (indent : String) (name large most : Int) (asks : Bool) : Settings where
  indent := indent
  maxNameLength := .whole name
  largeScript := .whole large
  maxScript := .whole most
  runtimeCheck := .bool asks

theorem ofDoc_toDoc_plain (asks : Bool) (hIndent : isIndent indent = true)
    (hName : 1 ≤ name ∧ name ≤ 500) (hLarge : 1 ≤ large) (hMost : large ≤ most) :
    ofDoc (plain indent name large most asks).toDoc = .ok (plain indent name large most asks) := by
  rw [toDoc, ofDoc, Doc.fields_object_bind, ofFields,
    Fields.getD_find? "indent" (d := .text indent) (by simp [plain]),
    Fields.getD_find? "max_name_length" (d := .int name) (by simp [plain, Limit.toDoc]),
    Fields.getD_find? "large_script_threshold" (d := .int large) (by simp [plain, Limit.toDoc]),
    Fields.getD_find? "max_pac_size" (d := .int most) (by simp [plain, Limit.toDoc]),
    Fields.getD_find? "use_js_syntax_check" (d := .bool asks) (by simp [plain]),
    indentOfDoc_text hIndent, nameLimitOfDoc_int hName, largeScriptOfDoc_int hLarge]
  show maxScriptOfDoc (.whole large) (.int most) >>= _ = _
  rw [maxScriptOfDoc_int hMost]
  rfl

theorem isWhole_toDoc_plain (indent : String) (asks : Bool) (hName : 1 ≤ name ∧ name ≤ 500)
    (hLarge : 1 ≤ large) (hMost : large ≤ most)
    (hDigits : (Text.writeInt most).length ≤ Text.maxDigits) :
    (plain indent name large most asks).toDoc.isWhole = true := by
  have hMostDigits : (Text.writeNat most.natAbs).length ≤ Text.maxDigits := by
    obtain ⟨most, rfl⟩ := Int.eq_ofNat_of_zero_le (Int.le_trans (by omega) hMost)
    exact hDigits
  have hLargeDigits := Text.length_writeNat_mono (m := large.natAbs) (n := most.natAbs) (by omega)
  have hNameDigits := Text.length_writeNat_mono (m := name.natAbs) (n := 500) (by omega)
  have hThree : (Text.writeNat 500).length ≤ Text.maxDigits := by decide
  simp only [plain, toDoc, Limit.toDoc, Doc.isWhole, Doc.fieldsAreWhole, Bool.and_eq_true,
    decide_eq_true_eq, and_true, true_and]
  omega

end

end Settings

/-- Settings with an indentation of blanks and tabs, with limits in their order and with a switch
are read back from the text that is kept of them, up to the number of digits that are read, and from
their fields with unknown ones anywhere among them. -/
theorem settings_are_read_back (indent : String) (name large most : Int) (asks : Bool)
    (hIndent : Settings.isIndent indent = true) (hName : 1 ≤ name ∧ name ≤ 500)
    (hLarge : 1 ≤ large) (hMost : large ≤ most) :
    ((Text.writeInt most).length ≤ Text.maxDigits →
      Settings.ofJson (Settings.plain indent name large most asks).toJson =
        .ok (Settings.plain indent name large most asks)) ∧
    ∀ fs : Fields,
      (Settings.plain indent name large most asks).toDoc =
        .object (fs.filter fun field => Settings.isKnown field.1) →
      Settings.ofDoc (.object fs) = .ok (Settings.plain indent name large most asks) := by
  have hRead := Settings.ofDoc_toDoc_plain asks hIndent hName hLarge hMost
  constructor
  · intro hDigits
    have hWhole := Settings.isWhole_toDoc_plain indent asks hName hLarge hMost hDigits
    rw [Settings.ofJson, Settings.toJson, Doc.read_write hWhole]
    exact hRead
  · intro fs hKnown
    rw [hKnown] at hRead
    rw [← hRead, Settings.ofDoc, Settings.ofDoc, Doc.fields_object_bind, Doc.fields_object_bind,
      Settings.ofFields_filter_isKnown]

/-- Settings with tabs and with limits beyond every machine word. -/
def tabbed : Settings := Settings.plain "\t \t" 1 36893488147419103232 73786976294838206464 false

/-- They are read back also with fields of other names around the known ones. -/
theorem settings_are_read_back_tabbed :
    Settings.ofJson tabbed.toJson = .ok tabbed ∧
    Settings.ofDoc (.object [("theme", .text "dark"), ("indent", .text "\t \t"),
      ("max_name_length", .int 1), ("Indent", .null),
      ("large_script_threshold", .int 36893488147419103232),
      ("max_pac_size", .int 73786976294838206464), ("use_js_syntax_check", .bool false),
      ("window", .array [.int 640, .int 480])]) = .ok tabbed := by
  have hRead := settings_are_read_back "\t \t" 1 36893488147419103232 73786976294838206464 false
    (by decide) (by decide) (by decide) (by decide)
  exact ⟨hRead.1 (by decide), hRead.2 _ rfl⟩

end ProxyRouting
