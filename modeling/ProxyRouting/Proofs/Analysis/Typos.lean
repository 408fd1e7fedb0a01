import ProxyRouting.Proofs.Analysis.Edits
import ProxyRouting.Proofs.Analysis.Names
import ProxyRouting.Proofs.Text.Pieces

/-! Warnings of misspelled names. Each of them stands for a call whose name is near to that of a
known function, and no two are about one name. The name is a word unless blanks got into it. -/
namespace ProxyRouting

/-- Two edits at most lead from a name to that of a function. -/
def IsNear (name f : String) : Prop := ∃ n ≤ 2, EditDistance.Edits n name.toList f.toList

/-- A known function is the first one to which a name is near. -/
def IsFirstNear (name builtin : String) : Prop :=
  ∃ before behind, builtinFunctions = before ++ builtin :: behind ∧ IsNear name builtin ∧
    ∀ f ∈ before, ¬ IsNear name f

theorem IsFirstNear.mem_builtinFunctions {name builtin : String} (h : IsFirstNear name builtin) :
    builtin ∈ builtinFunctions := by
  obtain ⟨before, behind, hSplit, -, -⟩ := h
  rw [hSplit]
  exact List.mem_append_right before List.mem_cons_self

/-- A name is taken for that of a known function with a mistake in it. -/
structure Misspells (name builtin : String) : Prop where
  small : ∃ c ∈ name.toList.head?, 'a' ≤ c ∧ c ≤ 'z'
  unknown : name ∉ builtinFunctions
  first : IsFirstNear name builtin

namespace Mistake

variable {name builtin : String}

theorem similarBuiltin?_eq_some_iff :
    similarBuiltin? name.toList = some builtin ↔ IsFirstNear name builtin := by
  rw [similarBuiltin?, List.find?_eq_some_iff_append]
  simp only [decide_eq_true_eq, Bool.not_eq_true', decide_eq_false_iff_not,
    EditDistance.editDistance_le_iff]
  constructor
  · rintro ⟨hNear, before, behind, hSplit, hBefore⟩
    exact ⟨before, behind, hSplit, hNear, hBefore⟩
  · rintro ⟨before, behind, hSplit, hNear, hBefore⟩
    exact ⟨hNear, before, behind, hSplit, hBefore⟩

theorem isSuspect_iff :
    isSuspect name.toList = true ↔
      (∃ c ∈ name.toList.head?, 'a' ≤ c ∧ c ≤ 'z') ∧ name ≠ "function" ∧
        name ∉ builtinFunctions := by
  have hKeyword : (name.toList != "function".toList) = true ↔ name ≠ "function" := by
    rw [bne_iff_ne, Ne, String.toList_inj]
  have hUnknown :
      (!builtinFunctions.any fun f => f.toList = name.toList) = true ↔ name ∉ builtinFunctions := by
    simp only [Bool.not_eq_true', List.any_eq_false, decide_eq_true_eq, String.toList_inj]
    exact ⟨fun h hMem => h name hMem rfl, fun h f hf hSame => h (hSame ▸ hf)⟩
  unfold isSuspect
  rw [Bool.and_eq_true, Bool.and_eq_true, hKeyword, hUnknown, and_assoc]
  refine and_congr_left' ?_
  cases name.toList with
  | nil => simp
  | cons c rest => simp

/-- The names that are looked up and found are those that misspell a known one. -/
theorem misspells_iff :
    isSuspect name.toList = true ∧ similarBuiltin? name.toList = some builtin ↔
      Misspells name builtin := by
  rw [isSuspect_iff]
  constructor
  · rintro ⟨⟨hSmall, -, hUnknown⟩, hSimilar⟩
    exact ⟨hSmall, hUnknown, similarBuiltin?_eq_some_iff.mp hSimilar⟩
  · rintro ⟨hSmall, hUnknown, hFirst⟩
    have hSimilar := similarBuiltin?_eq_some_iff.mpr hFirst
    refine ⟨⟨hSmall, ?_, hUnknown⟩, hSimilar⟩
    -- the keyword is near to none of them
    rintro rfl
    have hNone : similarBuiltin? "function".toList = none := by decide +kernel
    rw [hNone] at hSimilar
    cases hSimilar

/-- The names that are looked up are the suspect ones, each once. -/
theorem exists_fresh (seen names : List (List Char)) :
    ∃ fresh : List (List Char), fresh.Nodup ∧
      (∀ name, name ∈ fresh ↔ name ∈ names ∧ name ∉ seen ∧ isSuspect name = true) ∧
      misspellings seen names = fresh.filterMap fun name =>
        (similarBuiltin? name).map (misspelled (String.ofList name)) := by
  induction names generalizing seen with
  | nil => exact ⟨[], List.nodup_nil, by simp, rfl⟩
  | cons name names ih =>
      rw [misspellings]
      split
      next hSkip =>
        obtain ⟨fresh, hNodup, hMem, hEq⟩ := ih seen
        refine ⟨fresh, hNodup, fun other => ?_, hEq⟩
        rw [hMem, List.mem_cons, or_and_right]
        refine (or_iff_right ?_).symm
        rintro ⟨rfl, hSeen, hSuspect⟩
        simp [hSeen, hSuspect] at hSkip
      next hTake =>
        simp only [Bool.or_eq_true, List.contains_iff_mem, Bool.not_eq_true', not_or,
          Bool.not_eq_false] at hTake
        obtain ⟨fresh, hNodup, hMem, hEq⟩ := ih (name :: seen)
        have hNew : name ∉ fresh := fun h => ((hMem name).mp h).2.1 List.mem_cons_self
        refine ⟨name :: fresh, List.nodup_cons.mpr ⟨hNew, hNodup⟩, fun other => ?_, ?_⟩
        · rw [List.mem_cons, hMem, List.mem_cons, List.mem_cons, not_or]
          by_cases hSame : other = name
          · simp [hSame, hTake]
          · simp [hSame]
        · rw [hEq, List.filterMap_cons]
          cases similarBuiltin? name <;> rfl

/-- Whether a mistake is that of a misspelled name. -/
def isMisspelled : Mistake → Bool
  | misspelled _ _ => true
  | _ => false

/-- The misspelled names are all that is left of the mistakes without those of other kinds. -/
theorem filter_mistakes (settings : Settings) (script : List Char) :
    (mistakes settings script).filter isMisspelled =
      misspellings [] (calledNames false script) := by
  have hNames : (misspellings [] (calledNames false script)).filter isMisspelled =
      misspellings [] (calledNames false script) := by
    obtain ⟨fresh, -, -, hEq⟩ := exists_fresh [] (calledNames false script)
    refine List.filter_eq_self.mpr fun m hm => ?_
    rw [hEq] at hm
    obtain ⟨name, -, hName⟩ := List.mem_filterMap.mp hm
    obtain ⟨builtin, -, rfl⟩ := Option.map_eq_some_iff.mp hName
    rfl
  have hAnswers : (unknownAnswers script).filter isMisspelled = [] := by
    refine List.filter_eq_nil_iff.mpr fun m hm => ?_
    obtain ⟨returned, -, hMem⟩ := List.mem_flatMap.mp hm
    obtain ⟨entry, -, rfl⟩ := List.mem_map.mp hMem
    exact Bool.false_ne_true
  have hWhen : ∀ m : Mistake, m.isMisspelled = false → ∀ (c : Prop) [Decidable c],
      (if c then [m] else []).filter isMisspelled = [] := by
    intro m hm c _
    split
    · rw [List.filter_singleton, hm]
      rfl
    · rfl
  have hUnless : ∀ m : Mistake, m.isMisspelled = false → ∀ (c : Prop) [Decidable c],
      (if c then [] else [m]).filter isMisspelled = [] := by
    intro m hm c _
    rw [← ite_not]
    exact hWhen m hm (¬ c)
  simp only [mistakes, List.filter_append, hNames, hAnswers, hUnless noReturn rfl,
    hUnless noKnownAnswer rfl, hWhen missingSemicolons rfl, hWhen usesConsole rfl,
    hWhen (largeScript settings.largeScript) rfl, List.nil_append, List.append_nil]

/-- A script has a misspelled name when a call in it is known by that name. -/
theorem misspelled_mem_mistakes_iff {settings : Settings} {script : List Char} :
    misspelled name builtin ∈ mistakes settings script ↔
      ∃ call : Call, call.StandsIn script ∧ call.name = name.toList ∧ Misspells name builtin := by
  obtain ⟨fresh, -, hMem, hEq⟩ := exists_fresh [] (calledNames false script)
  have hFilter : misspelled name builtin ∈ mistakes settings script ↔
      misspelled name builtin ∈ misspellings [] (calledNames false script) := by
    rw [← filter_mistakes settings, List.mem_filter]
    exact (and_iff_left rfl).symm
  rw [hFilter, hEq, List.mem_filterMap]
  simp only [Option.map_eq_some_iff, misspelled.injEq]
  constructor
  · rintro ⟨chars, hFresh, _, hSimilar, rfl, rfl⟩
    obtain ⟨hCalled, -, hSuspect⟩ := (hMem chars).mp hFresh
    obtain ⟨call, hStands, rfl⟩ := mem_calledNames_iff.mp hCalled
    refine ⟨call, call.standsBehind_false_iff.mp hStands, String.toList_ofList.symm, ?_⟩
    rw [← misspells_iff, String.toList_ofList]
    exact ⟨hSuspect, hSimilar⟩
  · rintro ⟨call, hStands, hName, hMisspells⟩
    obtain ⟨hSuspect, hSimilar⟩ := misspells_iff.mpr hMisspells
    refine ⟨name.toList, (hMem _).mpr ⟨?_, List.not_mem_nil, hSuspect⟩, builtin, hSimilar,
      String.ofList_toList, rfl⟩
    exact mem_calledNames_iff.mpr ⟨call, call.standsBehind_false_iff.mpr hStands, hName⟩

/-- No two of the misspelled names of a script are the same. -/
theorem pairwise_misspellings (names : List (List Char)) :
    (misspellings [] names).Pairwise fun m n =>
      ∀ name f g, ¬ (m = misspelled name f ∧ n = misspelled name g) := by
  obtain ⟨fresh, hNodup, -, hEq⟩ := exists_fresh [] names
  rw [hEq, List.pairwise_filterMap]
  refine hNodup.imp fun {a b} hOther => ?_
  intro m hm n hn name f g
  obtain ⟨_, -, rfl⟩ := Option.map_eq_some_iff.mp hm
  obtain ⟨_, -, rfl⟩ := Option.map_eq_some_iff.mp hn
  rintro ⟨hFirst, hSecond⟩
  obtain ⟨hFirst, -⟩ := misspelled.inj hFirst
  obtain ⟨hSecond, -⟩ := misspelled.inj hSecond
  exact hOther (String.ofList_injective (hFirst.trans hSecond.symm))

section Message

theorem toList_message_misspelled (name builtin : String) :
    (misspelled name builtin).message.toList =
      '\x27' :: (name.toList ++ '\x27' :: (" may be a typo - did you mean ".toList ++
        '\x27' :: (builtin.toList ++ '\x27' :: ['?']))) := by
  change ("'" ++ name ++ "' may be a typo - did you mean '" ++ builtin ++ "'?").toList = _
  simp only [String.toList_append, List.append_assoc]
  rfl

/-- Quotes take the text about a misspelled name apart. -/
theorem pieces_message_misspelled (name builtin : String) :
    Text.pieces '\x27' (misspelled name builtin).message.toList =
      [] :: (Text.pieces '\x27' name.toList ++ " may be a typo - did you mean ".toList ::
        (Text.pieces '\x27' builtin.toList ++ [['?']])) := by
  have hMiddle : '\x27' ∉ " may be a typo - did you mean ".toList := by decide
  have hFront : Text.pieces '\x27' ['?'] = [['?']] := by decide
  rw [toList_message_misspelled, Text.pieces, if_pos rfl, Text.pieces_append_mark,
    Text.pieces_append_cons hMiddle, Text.pieces_append_mark, hFront]

/-- No other warning starts with a quote. -/
theorem isMisspelled_of_message {m : Mistake} (h : m.message = (misspelled name builtin).message) :
    m.isMisspelled = true := by
  have hHead : m.message.toList.head? = some '\x27' := by
    rw [h, toList_message_misspelled]
    rfl
  cases m with
  | misspelled _ _ => rfl
  | unknownAnswer entry line =>
      change ("Unrecognised proxy return value '" ++ entry ++ "' " ++ lineNote line).toList.head? =
        _ at hHead
      simp only [String.toList_append, List.append_assoc] at hHead
      cases hHead
  | largeScript limit =>
      change ("Script is very large (>" ++ limit.thousandsText ++
        "KB) - consider simplifying for better performance").toList.head? = _ at hHead
      simp only [String.toList_append, List.append_assoc] at hHead
      cases hHead
  | _ => cases hHead

/-- A text about a misspelled name without quotes tells the name and the function. -/
theorem misspelled_eq_of_message {name' builtin' : String} (hName : '\x27' ∉ name'.toList)
    (hBuiltin : '\x27' ∉ builtin'.toList)
    (h : (misspelled name' builtin').message = (misspelled name builtin).message) :
    misspelled name' builtin' = misspelled name builtin := by
  have hPieces := congrArg (Text.pieces '\x27') (congrArg String.toList h)
  rw [pieces_message_misspelled, pieces_message_misspelled, Text.pieces_of_not_mem hName,
    Text.pieces_of_not_mem hBuiltin] at hPieces
  -- There are as many pieces on both sides, so that no quote stands in the other two texts either.
  have hLength := congrArg List.length hPieces
  simp only [List.length_cons, List.length_append, List.length_nil, Text.length_pieces] at hLength
  have hNameFree : '\x27' ∉ name.toList := List.count_eq_zero.mp (by omega)
  have hBuiltinFree : '\x27' ∉ builtin.toList := List.count_eq_zero.mp (by omega)
  rw [Text.pieces_of_not_mem hNameFree, Text.pieces_of_not_mem hBuiltinFree] at hPieces
  simp only [List.cons_append, List.nil_append, List.cons.injEq, true_and, and_true,
    String.toList_inj] at hPieces
  rw [hPieces.1, hPieces.2]

/-- A warning is about a misspelled name only when there is such a name in the script. -/
theorem eq_misspelled_of_message {settings : Settings} {script : List Char} {m : Mistake}
    (hm : m ∈ mistakes settings script) (h : m.message = (misspelled name builtin).message) :
    m = misspelled name builtin := by
  have hKind := isMisspelled_of_message h
  cases m with
  | misspelled name' builtin' =>
      obtain ⟨call, -, hCall, hMisspells⟩ := misspelled_mem_mistakes_iff.mp hm
      refine misspelled_eq_of_message ?_ ?_ h
      · rw [← hCall]
        exact call.not_mem_name (by decide) (by decide)
      · have hNone : ∀ f ∈ builtinFunctions, '\x27' ∉ f.toList := by decide
        exact hNone builtin' hMisspells.first.mem_builtinFunctions
  | _ => cases hKind

end Message

end Mistake

/-- A warning of a misspelled name is right: the name is a word that is called in the script. -/
structure IsTypo (script : List Char) (name builtin : String) : Prop
    extends Misspells name builtin where
  nonempty : name.toList ≠ []
  isWord : ∀ c ∈ name.toList, Text.isWord c = true
  called : ∃ blanks, (∀ c ∈ blanks, Text.isBlank c = true) ∧
    name.toList ++ (blanks ++ ['(']) <:+: script

theorem Call.isTypo_iff {call : Call} {script : List Char} {name builtin : String}
    (hStands : call.StandsIn script) (hName : call.name = name.toList)
    (hMisspells : Misspells name builtin) : IsTypo script name builtin ↔ call.stray = [] := by
  rw [← call.name_isWord_iff, hName]
  constructor
  · exact IsTypo.isWord
  · intro hWord
    refine ⟨hMisspells, hName ▸ call.name_nonempty, hWord, call.gap, ?_, ?_⟩
    · exact fun c hc => isBlank_of_isGap (call.gap_isGap c hc)
    · obtain ⟨front, rest, rfl, -, hLeads⟩ := hStands
      have hText : call.toChars = name.toList ++ (call.gap ++ ['(']) := by
        rw [← hName, Call.toChars, Call.name]
        simp only [List.append_assoc]
      rw [← hText]
      exact hLeads.isInfix.trans (List.suffix_append front rest).isInfix

/-- There is a warning of a misspelled name when it is the name of a call and is near to that of a
known function, and the warning is right exactly when no blanks have got into the name. No two of
these warnings are about one name. -/
theorem misspelled_warning_iff_call (settings : Settings) (script : List Char) :
    (∀ name builtin, (Mistake.misspelled name builtin).message ∈
        (mistakes settings script).map Mistake.message ↔
      ∃ call : Call, call.StandsIn script ∧ call.name = name.toList ∧ Misspells name builtin ∧
        (IsTypo script name builtin ↔ call.stray = [])) ∧
    ((mistakes settings script).map Mistake.message).Pairwise fun a b =>
      ∀ name f g, ¬ (a = (Mistake.misspelled name f).message ∧
        b = (Mistake.misspelled name g).message) := by
  constructor
  · intro name builtin
    rw [List.mem_map]
    constructor
    · rintro ⟨m, hm, hMessage⟩
      obtain rfl := Mistake.eq_misspelled_of_message hm hMessage
      obtain ⟨call, hStands, hName, hMisspells⟩ := Mistake.misspelled_mem_mistakes_iff.mp hm
      exact ⟨call, hStands, hName, hMisspells, call.isTypo_iff hStands hName hMisspells⟩
    · rintro ⟨call, hStands, hName, hMisspells, -⟩
      exact ⟨_, Mistake.misspelled_mem_mistakes_iff.mpr ⟨call, hStands, hName, hMisspells⟩, rfl⟩
  · have hTypos := Mistake.pairwise_misspellings (Mistake.calledNames false script)
    rw [← Mistake.filter_mistakes settings, List.pairwise_filter] at hTypos
    rw [List.pairwise_map]
    refine hTypos.imp_of_mem fun hm hn hOther name f g => ?_
    rintro ⟨hFirst, hSecond⟩
    obtain rfl := Mistake.eq_misspelled_of_message hm hFirst
    obtain rfl := Mistake.eq_misspelled_of_message hn hSecond
    exact hOther rfl rfl name f g ⟨rfl, rfl⟩

/-- A call of a known function is taken for that of a misspelled one when a form feed stands behind
its name, and the name in the warning is no word. -/
theorem formFeed_gets_into_name :
    ¬ ∀ (settings : Settings) (script : List Char) (name builtin : String),
      (Mistake.misspelled name builtin).message ∈ (mistakes settings script).map Mistake.message →
        IsTypo script name builtin := by
  intro hAll
  have hFound : mistakes .standard
      ("function FindProxyForURL(url, host) \x7b if (isInNet\x0c(host, \"10.0.0.0\", " ++
        "\"255.0.0.0\")) return \"DIRECT\"; return \"PROXY p:1\"; \x7d").toList =
      [.misspelled "isInNet\x0c" "isInNet"] := by decide +kernel
  have hTypo := hAll .standard _ _ _ (List.mem_map_of_mem (hFound ▸ List.mem_singleton_self _))
  exact absurd (hTypo.isWord '\x0c' (by decide)) (by decide)

end ProxyRouting
