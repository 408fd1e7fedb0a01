import ProxyRouting.Proofs.Doc.Scalar

/-! Reading back documents. What is written for a document is read as that document again, with its
items and its fields in their order, however deep it goes; line breaks and indentation are passed
over. Floating-point numbers are left out, and so are integers of more digits than are read. -/
namespace ProxyRouting.Doc

mutual

/-- Whether all numbers in a document are integers with no more digits than are read. -/
def isWhole : Doc → Bool
  | null => true
  | bool _ => true
  | int n => (Text.writeNat n.natAbs).length ≤ Text.maxDigits
  | real _ => false
  | text _ => true
  | array items => itemsAreWhole items
  | object fields => fieldsAreWhole fields

def itemsAreWhole : List Doc → Bool
  | [] => true
  | item :: rest => isWhole item && itemsAreWhole rest

def fieldsAreWhole : Fields → Bool
  | [] => true
  | (_, value) :: rest => isWhole value && fieldsAreWhole rest

end

/-! ## Layout -/

section

variable {fuel depth : Nat} {s t rest : List Char}

theorem skipGap_of_head? (h : ∀ c ∈ s.head?, isGap c = false) : skipGap s = s :=
  Text.dropWhile_eq_self_of_head? h

theorem skipGap_cons {c : Char} (h : isGap c = false) (s : List Char) : skipGap (c :: s) = c :: s :=
  skipGap_of_head? (by simp [h])

theorem skipGap_lineBreak (depth : Nat) (h : ∀ c ∈ s.head?, isGap c = false) :
    skipGap (lineBreak depth ++ s) = s := by
  apply Text.dropWhile_append_of_head? _ h
  intro c hc
  rcases List.mem_cons.mp hc with rfl | hBlank
  · rfl
  · rw [List.eq_of_mem_replicate hBlank]
    rfl

theorem endsNumber_lineBreak (depth : Nat) (s : List Char) : EndsNumber (lineBreak depth ++ s) :=
  endsNumber_cons (by decide)

/-- What is read inside brackets must not start with a blank, nor with the closing bracket. -/
def StartsItem (s : List Char) : Prop :=
  ∃ c t, s = c :: t ∧ isGap c = false ∧ c ≠ ']' ∧ c ≠ '\x7d'

theorem StartsItem.append (h : StartsItem s) (t : List Char) : StartsItem (s ++ t) := by
  obtain ⟨c, u, rfl, hc⟩ := h
  exact ⟨c, u ++ t, rfl, hc⟩

theorem StartsItem.isGap_of_mem_head? (h : StartsItem s) : ∀ c ∈ s.head?, isGap c = false := by
  obtain ⟨c, u, rfl, hc, -⟩ := h
  intro d hd
  obtain rfl : c = d := Option.some.inj hd
  exact hc

theorem value_of_elements {items : List Doc} (hs : StartsItem s)
    (h : elements fuel s = .ok (items, rest)) :
    value (fuel + 1) ('[' :: (lineBreak depth ++ s)) = .ok (array items, rest) := by
  rw [value, skipGap_lineBreak depth hs.isGap_of_mem_head?]
  obtain ⟨c, u, rfl, -, hClosing, -⟩ := hs
  split
  next hEq => exact absurd (List.cons.inj hEq).1 hClosing
  next =>
    rw [h]
    rfl

theorem value_of_members {fields : Fields} (hs : StartsItem s)
    (h : members fuel s = .ok (fields, rest)) :
    value (fuel + 1) ('\x7b' :: (lineBreak depth ++ s)) = .ok (object fields, rest) := by
  rw [value, skipGap_lineBreak depth hs.isGap_of_mem_head?]
  obtain ⟨c, u, rfl, -, -, hClosing⟩ := hs
  split
  next hEq => exact absurd (List.cons.inj hEq).1 hClosing
  next =>
    rw [h]
    rfl

theorem elements_last {item : Doc}
    (h : value fuel s = .ok (item, lineBreak depth ++ ']' :: rest)) :
    elements (fuel + 1) s = .ok ([item], rest) := by
  have hGap := skipGap_lineBreak depth (s := ']' :: rest) (by simp [isGap])
  rw [elements, h]
  simp only [bind, Except.bind, hGap]
  rfl

theorem elements_cons {item : Doc} {items : List Doc} (ht : StartsItem t)
    (h : value fuel s = .ok (item, ',' :: (lineBreak depth ++ t)))
    (hItems : elements fuel t = .ok (items, rest)) :
    elements (fuel + 1) s = .ok (item :: items, rest) := by
  have hGap := skipGap_lineBreak depth ht.isGap_of_mem_head?
  have hComma := skipGap_cons (c := ',') rfl (lineBreak depth ++ t)
  rw [elements, h]
  simp only [bind, Except.bind, hComma, hGap, hItems]
  rfl

theorem members_last {name : String} {item : Doc} (hs : StartsItem s)
    (h : value fuel s = .ok (item, lineBreak depth ++ '\x7d' :: rest)) :
    members (fuel + 1) (writeText name ++ ([':', ' '] ++ s)) = .ok ([(name, item)], rest) := by
  have hGap := skipGap_lineBreak depth (s := '\x7d' :: rest) (by simp [isGap])
  have hColon := skipGap_cons (c := ':') rfl (' ' :: s)
  have hItem : skipGap (' ' :: s) = s := skipGap_of_head? hs.isGap_of_mem_head?
  rw [writeText_append, members, quoted_flatMap]
  simp only [bind, Except.bind, List.cons_append, List.nil_append, hColon, hItem, h, hGap]
  rfl

theorem members_cons {name : String} {item : Doc} {fields : Fields} (hs : StartsItem s)
    (ht : StartsItem t) (h : value fuel s = .ok (item, ',' :: (lineBreak depth ++ t)))
    (hFields : members fuel t = .ok (fields, rest)) :
    members (fuel + 1) (writeText name ++ ([':', ' '] ++ s)) =
      .ok ((name, item) :: fields, rest) := by
  have hGap := skipGap_lineBreak depth ht.isGap_of_mem_head?
  have hColon := skipGap_cons (c := ':') rfl (' ' :: s)
  have hItem : skipGap (' ' :: s) = s := skipGap_of_head? hs.isGap_of_mem_head?
  have hComma := skipGap_cons (c := ',') rfl (lineBreak depth ++ t)
  rw [writeText_append, members, quoted_flatMap]
  simp only [bind, Except.bind, List.cons_append, List.nil_append, hColon, hItem, h, hComma, hGap,
    hFields]
  rfl

/-- What starts with neither an opening bracket nor an opening brace is a scalar. -/
theorem value_eq_scalar (hFuel : 0 < fuel) (hs : ∀ c ∈ s.head?, c ≠ '[' ∧ c ≠ '\x7b') :
    value fuel s = scalar s := by
  obtain ⟨fuel, rfl⟩ := Nat.exists_eq_add_one_of_ne_zero (Nat.ne_of_gt hFuel)
  rw [value]
  · rintro rest rfl
    exact (hs _ rfl).1 rfl
  · rintro rest rfl
    exact (hs _ rfl).2 rfl

end

/-! ## What a written document starts with -/

theorem startsItem_writeText (s : String) : StartsItem (writeText s) :=
  ⟨'"', _, rfl, by decide⟩

theorem startsItem_bracketed {opening : Char} (h : isGap opening = false ∧ opening ≠ ']' ∧
    opening ≠ '\x7d') (closing : Char) (depth : Nat) (items : List (List Char)) :
    StartsItem (bracketed opening closing depth items) := by
  cases items with
  | nil => exact ⟨opening, _, rfl, h⟩
  | cons item rest => exact ⟨opening, _, rfl, h⟩

/-- An integer starts with a digit or with its sign. -/
theorem exists_writeInt_eq_cons (n : Int) : ∃ c s, Text.writeInt n = c :: s ∧
    ∀ mark : Char, mark.isDigit = false → mark ≠ '-' → c ≠ mark := by
  obtain ⟨c, s, hs⟩ := List.exists_cons_of_ne_nil (Text.writeInt_ne_nil n)
  refine ⟨c, s, hs, ?_⟩
  rintro mark hMark hSign rfl
  rcases Text.isDigit_or_eq_of_mem_writeInt (hs ▸ List.mem_cons_self) with hDigit | hMinus
  · rw [hMark] at hDigit
    cases hDigit
  · exact hSign hMinus

theorem startsItem_writeInt (n : Int) : StartsItem (Text.writeInt n) := by
  obtain ⟨c, s, hs, hOther⟩ := exists_writeInt_eq_cons n
  have hGap : isGap c = false := by
    simp [isGap, hOther ' ' rfl, hOther '\t' rfl, hOther '\n' rfl, hOther '\r' rfl]
  exact ⟨c, s, hs, hGap, hOther ']' rfl (by decide), hOther '\x7d' rfl (by decide)⟩

theorem startsItem_writeAt {d : Doc} (h : d.isWhole = true) (depth : Nat) :
    StartsItem (writeAt depth d) := by
  cases d with
  | null => exact ⟨'n', _, rfl, by decide⟩
  | bool b =>
      cases b with
      | true => exact ⟨'t', _, rfl, by decide⟩
      | false => exact ⟨'f', _, rfl, by decide⟩
  | int n => exact startsItem_writeInt n
  | real x => cases h
  | text s => exact startsItem_writeText s
  | array items => exact startsItem_bracketed (by decide) _ _ _
  | object fields => exact startsItem_bracketed (by decide) _ _ _

/-! ## Documents -/

/-- What stands inside brackets: each part but the first behind a comma and a line break. -/
def separated (depth : Nat) (parts : List (List Char)) : List Char :=
  Text.joined (',' :: lineBreak depth) parts

section

variable {part : List Char} {parts : List (List Char)}

theorem separated_singleton (depth : Nat) : separated depth [part] = part := rfl

theorem separated_cons (depth : Nat) (h : parts ≠ []) : separated depth (part :: parts) =
    part ++ (',' :: (lineBreak depth ++ separated depth parts)) := by
  rw [separated, Text.joined_cons h, List.append_assoc, List.cons_append, separated]

theorem StartsItem.separated (h : StartsItem part) (depth : Nat) (parts : List (List Char)) :
    StartsItem (separated depth (part :: parts)) := by
  cases parts with
  | nil => exact h
  | cons other parts =>
      rw [separated_cons depth (by simp)]
      exact h.append _

theorem bracketed_append (depth : Nat) (opening closing : Char) (h : parts ≠ [])
    (rest : List Char) :
    bracketed opening closing depth parts ++ rest =
      opening :: (lineBreak (depth + 1) ++
        (separated (depth + 1) parts ++ (lineBreak depth ++ closing :: rest))) := by
  rw [bracketed, if_neg (by simpa using h), Doc.separated]
  simp

theorem length_separated_lt (depth : Nat) (opening closing : Char) (h : parts ≠ []) :
    (separated (depth + 1) parts).length + 1 < (bracketed opening closing depth parts).length := by
  have hBracketed := bracketed_append depth opening closing h []
  rw [List.append_nil] at hBracketed
  rw [hBracketed]
  simp only [List.length_cons, List.length_append]
  omega

end

theorem writeItems_ne_nil {items : List Doc} (h : items ≠ []) (depth : Nat) :
    writeItems depth items ≠ [] := by
  cases items with
  | nil => exact absurd rfl h
  | cons item rest => simp [writeItems]

theorem writeFields_ne_nil {fields : Fields} (h : fields ≠ []) (depth : Nat) :
    writeFields depth fields ≠ [] := by
  cases fields with
  | nil => exact absurd rfl h
  | cons field rest => simp [writeFields]

theorem startsItem_separated_writeItems {items : List Doc} (h : items ≠ [])
    (hItems : itemsAreWhole items = true) (depth : Nat) :
    StartsItem (separated depth (writeItems depth items)) := by
  cases items with
  | nil => exact absurd rfl h
  | cons item rest =>
      simp only [itemsAreWhole, Bool.and_eq_true] at hItems
      rw [writeItems]
      exact (startsItem_writeAt hItems.1 depth).separated _ _

theorem startsItem_separated_writeFields {fields : Fields} (h : fields ≠ []) (depth : Nat) :
    StartsItem (separated depth (writeFields depth fields)) := by
  cases fields with
  | nil => exact absurd rfl h
  | cons field rest =>
      rw [writeFields]
      exact (((startsItem_writeText field.1).append _).append _).separated _ _

mutual

/-- A document is read back from what is written for it, whatever stands behind it. -/
theorem value_writeAt (d : Doc) {depth fuel : Nat} {rest : List Char} (hd : d.isWhole = true)
    (hFuel : (writeAt depth d).length ≤ fuel) (hRest : EndsNumber rest) :
    value fuel (writeAt depth d ++ rest) = .ok (d, rest) := by
  obtain ⟨first, more, hFirst, -⟩ := startsItem_writeAt hd depth
  have hPos : 0 < fuel := by
    rw [hFirst, List.length_cons] at hFuel
    omega
  cases d with
  | null => exact (value_eq_scalar hPos (by simp [writeAt])).trans (scalar_null rest)
  | bool b =>
      cases b with
      | true => exact (value_eq_scalar hPos (by simp [writeAt])).trans (scalar_true rest)
      | false => exact (value_eq_scalar hPos (by simp [writeAt])).trans (scalar_false rest)
  | int n =>
      have hInt : ∀ c ∈ (Text.writeInt n ++ rest).head?, c ≠ '[' ∧ c ≠ '\x7b' := by
        obtain ⟨c, s, hs, hOther⟩ := exists_writeInt_eq_cons n
        simp [hs, hOther '[' rfl, hOther '\x7b' rfl]
      exact (value_eq_scalar hPos hInt).trans (hRest.scalar_writeInt (of_decide_eq_true hd))
  | real x => cases hd
  | text s =>
      exact (value_eq_scalar hPos (by simp [writeAt, writeText])).trans (scalar_writeText s rest)
  | array items =>
      by_cases hItems : items = []
      · obtain ⟨fuel, rfl⟩ := Nat.exists_eq_add_one_of_ne_zero (Nat.ne_of_gt hPos)
        rw [hItems]
        rfl
      · have hParts := writeItems_ne_nil hItems (depth + 1)
        have hLength := length_separated_lt depth '[' ']' hParts
        rw [writeAt] at hFuel ⊢
        obtain ⟨fuel, rfl⟩ := Nat.exists_eq_add_of_lt (Nat.lt_of_lt_of_le hLength hFuel)
        rw [bracketed_append _ _ _ hParts]
        apply value_of_elements ((startsItem_separated_writeItems hItems hd _).append _)
        exact elements_writeItems items hItems hd (by omega)
  | object fields =>
      by_cases hFields : fields = []
      · obtain ⟨fuel, rfl⟩ := Nat.exists_eq_add_one_of_ne_zero (Nat.ne_of_gt hPos)
        rw [hFields]
        rfl
      · have hParts := writeFields_ne_nil hFields (depth + 1)
        have hLength := length_separated_lt depth '\x7b' '\x7d' hParts
        rw [writeAt] at hFuel ⊢
        obtain ⟨fuel, rfl⟩ := Nat.exists_eq_add_of_lt (Nat.lt_of_lt_of_le hLength hFuel)
        rw [bracketed_append _ _ _ hParts]
        apply value_of_members ((startsItem_separated_writeFields hFields _).append _)
        exact members_writeFields fields hFields hd (by omega)

theorem elements_writeItems (items : List Doc) {depth outer fuel : Nat} {rest : List Char}
    (h : items ≠ []) (hItems : itemsAreWhole items = true)
    (hFuel : (separated depth (writeItems depth items)).length < fuel) :
    elements fuel (separated depth (writeItems depth items) ++ (lineBreak outer ++ ']' :: rest)) =
      .ok (items, rest) := by
  obtain ⟨fuel, rfl⟩ := Nat.exists_eq_add_one_of_ne_zero (Nat.ne_of_gt (Nat.zero_lt_of_lt hFuel))
  cases items with
  | nil => exact absurd rfl h
  | cons item items =>
      simp only [itemsAreWhole, Bool.and_eq_true] at hItems
      rw [writeItems] at hFuel ⊢
      by_cases hLast : items = []
      · subst hLast
        rw [writeItems, separated_singleton] at hFuel ⊢
        apply elements_last
        exact value_writeAt item hItems.1 (by omega) (endsNumber_lineBreak _ _)
      · have hParts := writeItems_ne_nil hLast depth
        rw [separated_cons depth hParts] at hFuel ⊢
        simp only [List.length_append, List.length_cons] at hFuel
        simp only [List.append_assoc, List.cons_append]
        apply elements_cons ((startsItem_separated_writeItems hLast hItems.2 _).append _)
        · exact value_writeAt item hItems.1 (by omega) (endsNumber_cons (by decide))
        · exact elements_writeItems items hLast hItems.2 (by omega)

theorem members_writeFields (fields : Fields) {depth outer fuel : Nat} {rest : List Char}
    (h : fields ≠ []) (hFields : fieldsAreWhole fields = true)
    (hFuel : (separated depth (writeFields depth fields)).length < fuel) :
    members fuel (separated depth (writeFields depth fields) ++
      (lineBreak outer ++ '\x7d' :: rest)) = .ok (fields, rest) := by
  obtain ⟨fuel, rfl⟩ := Nat.exists_eq_add_one_of_ne_zero (Nat.ne_of_gt (Nat.zero_lt_of_lt hFuel))
  match fields with
  | [] => exact absurd rfl h
  | (name, item) :: fields =>
      simp only [fieldsAreWhole, Bool.and_eq_true] at hFields
      have hItem := startsItem_writeAt hFields.1 depth
      rw [writeFields] at hFuel ⊢
      by_cases hLast : fields = []
      · subst hLast
        rw [writeFields, separated_singleton] at hFuel ⊢
        simp only [List.length_append] at hFuel
        simp only [List.append_assoc]
        apply members_last (hItem.append _)
        exact value_writeAt item hFields.1 (by omega) (endsNumber_lineBreak _ _)
      · have hParts := writeFields_ne_nil hLast depth
        rw [separated_cons depth hParts] at hFuel ⊢
        simp only [List.length_append, List.length_cons] at hFuel
        simp only [List.append_assoc, List.cons_append]
        apply members_cons (hItem.append _)
          ((startsItem_separated_writeFields hLast _).append _)
        · exact value_writeAt item hFields.1 (by omega) (endsNumber_cons (by decide))
        · exact members_writeFields fields hLast hFields.2 (by omega)

end

/-- A document of texts, integers, switches, lists and objects is read back from its own text. -/
theorem read_write {d : Doc} (hd : d.isWhole = true) : read d.write = .ok d := by
  have hText : d.write.toList = writeAt 0 d := String.toList_ofList
  have hLength : (writeAt 0 d).length ≤ 2 * d.write.length + 2 := by
    rw [← String.length_toList, hText]
    omega
  have hEnd : EndsNumber [] := by simp [EndsNumber]
  have hValue := value_writeAt d hd hLength hEnd
  rw [List.append_nil] at hValue
  rw [read, hText, skipGap_of_head? (startsItem_writeAt hd 0).isGap_of_mem_head?, hValue]
  rfl

end ProxyRouting.Doc
