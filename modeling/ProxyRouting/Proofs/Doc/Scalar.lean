import ProxyRouting.Doc.Printer
import ProxyRouting.Doc.Reader
import ProxyRouting.Proofs.Text.Numeral

/-! Reading back texts and numbers. A quoted text is read back whatever its characters are: an
escape gives the character that was escaped, and two surrogates give the one character that they
stand for. A whole number is read back from its digits when nothing stands behind them that could
belong to a number. -/
namespace ProxyRouting

theorem Text.hexValue?_hexDigit {d : Nat} (h : d < 16) :
    Text.hexValue? (Text.hexDigit d) = some d := by
  have hDigit : ∀ d < 16, Text.hexValue? (Text.hexDigit d) = some d := by decide
  exact hDigit d h

namespace Doc

/-! ## Texts -/

/-- The units of a character: its number, or two surrogates. -/
def charUnits (c : Char) : List Nat :=
  if c.toNat < 0x10000 then [c.toNat]
  else [0xD800 + (c.toNat - 0x10000) / 0x400, 0xDC00 + (c.toNat - 0x10000) % 0x400]

section

variable {rest behind : List Char} {units : List Nat}

theorem quotedUnits_writeUnit {n : Nat} (hn : n < 0x10000)
    (h : quotedUnits rest = .ok (units, behind)) :
    quotedUnits (writeUnit n ++ rest) = .ok (n :: units, behind) := by
  have hDigit : ∀ d, Text.hexValue? (Text.hexDigit (d % 16)) = some (d % 16) :=
    fun d => Text.hexValue?_hexDigit (Nat.mod_lt d (by decide))
  have hNumber : Text.hexNumber? [Text.hexDigit (n / 4096 % 16), Text.hexDigit (n / 256 % 16),
      Text.hexDigit (n / 16 % 16), Text.hexDigit (n % 16)] = some n := by
    simp only [Text.hexNumber?, Text.hexNumberFrom?, hDigit]
    congr 1
    omega
  simp only [writeUnit, List.map_cons, List.map_nil, List.cons_append, List.nil_append]
  rw [quotedUnits, hNumber, h]
  rfl

theorem quotedUnits_escape {e : Char} {n : Nat} (he : escapeValue? e = some n)
    (h : quotedUnits rest = .ok (units, behind)) :
    quotedUnits ('\\' :: e :: rest) = .ok (n :: units, behind) := by
  have hUnit : e ≠ 'u' := by
    rintro rfl
    cases he
  rw [quotedUnits]
  · rw [he, h]
    rfl
  · intro _ _ _ _ _ hEq
    exact absurd hEq hUnit

theorem quotedUnits_plain {c : Char} (hQuote : c ≠ '"') (hBackslash : c ≠ '\\')
    (hControl : 32 ≤ c.toNat) (h : quotedUnits rest = .ok (units, behind)) :
    quotedUnits (c :: rest) = .ok (c.toNat :: units, behind) := by
  rw [quotedUnits]
  · rw [if_neg (by omega), if_neg hBackslash, h]
    rfl
  · exact fun hEq => hQuote hEq
  · exact fun _ _ _ _ _ hEq _ => hBackslash hEq
  · exact fun _ _ hEq _ => hBackslash hEq

/-- What is written for a character is read as its units. -/
theorem quotedUnits_writeChar (c : Char) (h : quotedUnits rest = .ok (units, behind)) :
    quotedUnits (writeChar c ++ rest) = .ok (charUnits c ++ units, behind) := by
  have hBound : c.toNat < 0x110000 := by
    have hValid := c.valid
    simp only [UInt32.isValidChar, Nat.isValidChar] at hValid
    show c.val.toNat < _
    omega
  have hOne : c.toNat < 0x10000 → charUnits c = [c.toNat] := fun hFirst => if_pos hFirst
  rw [writeChar]
  split
  next hc =>
    subst hc
    exact quotedUnits_escape rfl h
  next hQuote =>
  split
  next hc =>
    subst hc
    exact quotedUnits_escape rfl h
  next hBackslash =>
  split
  next hc =>
    subst hc
    exact quotedUnits_escape rfl h
  split
  next hc =>
    subst hc
    exact quotedUnits_escape rfl h
  split
  next hc =>
    subst hc
    exact quotedUnits_escape rfl h
  split
  next hc =>
    rw [hOne (by omega), hc]
    exact quotedUnits_escape rfl h
  split
  next hc =>
    rw [hOne (by omega), hc]
    exact quotedUnits_escape rfl h
  split
  next hPrintable =>
    simp only [Bool.and_eq_true, decide_eq_true_eq] at hPrintable
    rw [hOne (by omega)]
    exact quotedUnits_plain hQuote hBackslash hPrintable.1 h
  split
  next hFirst =>
    rw [hOne hFirst]
    exact quotedUnits_writeUnit hFirst h
  next hAbove =>
    rw [charUnits, if_neg hAbove, List.append_assoc]
    exact quotedUnits_writeUnit (by omega) (quotedUnits_writeUnit (by omega) h)

theorem quotedUnits_flatMap (s rest : List Char) :
    quotedUnits (s.flatMap writeChar ++ '"' :: rest) = .ok (s.flatMap charUnits, rest) := by
  induction s with
  | nil => rfl
  | cons c s ih =>
      rw [List.flatMap_cons, List.flatMap_cons, List.append_assoc]
      exact quotedUnits_writeChar c ih

end

theorem joinUnits_cons {n : Nat} (hn : n < 0xD800 ∨ 0xDC00 ≤ n) (units : List Nat) :
    joinUnits (n :: units) = Char.ofNat n :: joinUnits units := by
  cases units with
  | nil => rfl
  | cons low units =>
      rw [joinUnits, if_neg]
      simp only [Bool.and_eq_true, decide_eq_true_eq]
      omega

/-- The units of a character are joined into that character. -/
theorem joinUnits_charUnits (c : Char) (units : List Nat) :
    joinUnits (charUnits c ++ units) = c :: joinUnits units := by
  have hValid : c.toNat < 0xD800 ∨ 0xDFFF < c.toNat ∧ c.toNat < 0x110000 := c.valid
  rw [charUnits]
  split
  next =>
    rw [List.singleton_append, joinUnits_cons (by omega), Char.ofNat_toNat]
  next =>
    have hNumber : 0x10000 + (0xD800 + (c.toNat - 0x10000) / 0x400 - 0xD800) * 0x400 +
        (0xDC00 + (c.toNat - 0x10000) % 0x400 - 0xDC00) = c.toNat := by omega
    rw [List.cons_append, List.singleton_append, joinUnits, if_pos, hNumber, Char.ofNat_toNat]
    simp only [Bool.and_eq_true, decide_eq_true_eq]
    omega

theorem joinUnits_flatMap (s : List Char) : joinUnits (s.flatMap charUnits) = s := by
  induction s with
  | nil => rfl
  | cons c s ih => rw [List.flatMap_cons, joinUnits_charUnits, ih]

/-- A text is read back up to its closing quote. -/
theorem quoted_flatMap (s : String) (rest : List Char) :
    quoted (s.toList.flatMap writeChar ++ '"' :: rest) = .ok (s, rest) := by
  rw [quoted, quotedUnits_flatMap]
  show Except.ok (String.ofList (joinUnits _), rest) = _
  rw [joinUnits_flatMap, String.ofList_toList]

theorem writeText_append (s : String) (rest : List Char) :
    writeText s ++ rest = '"' :: (s.toList.flatMap writeChar ++ '"' :: rest) := by
  rw [writeText, List.cons_append, List.append_assoc, List.singleton_append]

/-! ## Numbers -/

/-- A text in front of which no number goes on: it starts with no digit, point or exponent. -/
def EndsNumber (s : List Char) : Prop :=
  ∀ c ∈ s.head?, c.isDigit = false ∧ c ≠ '.' ∧ c ≠ 'e' ∧ c ≠ 'E'

theorem endsNumber_cons {c : Char} {s : List Char}
    (h : c.isDigit = false ∧ c ≠ '.' ∧ c ≠ 'e' ∧ c ≠ 'E') : EndsNumber (c :: s) := by
  intro d hd
  obtain rfl : c = d := Option.some.inj hd
  exact h

section

variable {rest : List Char}

theorem EndsNumber.fractionPart_eq_none (h : EndsNumber rest) : fractionPart rest = none := by
  unfold fractionPart
  split
  next => exact absurd rfl (h '.' rfl).2.1
  next => rfl

theorem EndsNumber.exponentPart_eq_none (h : EndsNumber rest) : exponentPart rest = none := by
  cases rest with
  | nil => rfl
  | cons c s =>
      have hc := h c rfl
      have hMark : ¬ (c = 'e' || c = 'E') = true := by simp [hc.2.2.1, hc.2.2.2]
      unfold exponentPart
      exact if_neg hMark

theorem EndsNumber.wholePart_writeNat (h : EndsNumber rest) (n : Nat) :
    wholePart (Text.writeNat n ++ rest) = some (Text.writeNat n, rest) := by
  rcases Nat.eq_zero_or_pos n with rfl | hn
  · rfl
  · have hDigits : ∀ c ∈ Text.writeNat n, c.isDigit = true := fun c => Text.isDigit_of_mem_writeNat
    have hBehind : ∀ c ∈ rest.head?, c.isDigit = false := fun c hc => (h c hc).1
    have hTake := Text.takeWhile_append_of_head? hDigits hBehind
    have hDrop := Text.dropWhile_append_of_head? hDigits hBehind
    have hZero := Text.head?_writeNat_ne_zero hn
    obtain ⟨c, s, hs⟩ := List.exists_cons_of_length_pos (Text.length_writeNat_pos n)
    rw [hs] at hDigits hTake hDrop hZero ⊢
    rw [List.cons_append, wholePart]
    · rw [if_pos (hDigits c List.mem_cons_self), ← List.cons_append, hTake, hDrop]
    · intro hEq
      exact hZero (congrArg some hEq)

/-- A whole number is read back from its digits, if there are not too many of them. -/
theorem EndsNumber.number_writeNat (h : EndsNumber rest) (negative : Bool) {n : Nat}
    (hn : (Text.writeNat n).length ≤ Text.maxDigits) :
    number negative (Text.writeNat n ++ rest) = .ok (int (if negative then -n else n), rest) := by
  rw [number, h.wholePart_writeNat]
  simp only [h.fractionPart_eq_none, Option.elim_none, h.exponentPart_eq_none]
  rw [if_neg (Nat.not_lt.mpr hn), digitsValue, Text.ofDigits_writeNat]

/-! ## Words, texts and numbers -/

theorem word_eq_none {s : List Char} (h : ∀ w ∈ words, ¬ w.1 <+: s) : word s = none := by
  have hFind : words.find? (fun w => w.1.isPrefixOf s) = none := by
    apply List.find?_eq_none.mpr
    intro w hw hPrefix
    exact h w hw (List.isPrefixOf_iff_prefix.mp hPrefix)
  rw [word, hFind, Option.map_none]

/-- No word starts with a quote or with a digit. -/
theorem word_cons_eq_none {c : Char} (hc : c = '"' ∨ c.isDigit = true) (s : List Char) :
    word (c :: s) = none := by
  have hFirst : 'n' ≠ c ∧ 't' ≠ c ∧ 'f' ≠ c ∧ 'N' ≠ c ∧ 'I' ≠ c ∧ '-' ≠ c := by
    refine ⟨?_, ?_, ?_, ?_, ?_, ?_⟩ <;> rintro rfl <;> revert hc <;> decide
  apply word_eq_none
  simp [words, List.cons_prefix_cons, hFirst]

/-- The only word with a sign goes on with a letter. -/
theorem word_minus_eq_none {c : Char} (hc : c.isDigit = true) (s : List Char) :
    word ('-' :: c :: s) = none := by
  have hSecond : 'I' ≠ c := by
    rintro rfl
    cases hc
  apply word_eq_none
  simp [words, List.cons_prefix_cons, hSecond]

theorem scalar_null (rest : List Char) : scalar ("null".toList ++ rest) = .ok (null, rest) := rfl

theorem scalar_true (rest : List Char) :
    scalar ("true".toList ++ rest) = .ok (bool true, rest) := rfl

theorem scalar_false (rest : List Char) :
    scalar ("false".toList ++ rest) = .ok (bool false, rest) := rfl

theorem scalar_writeText (s : String) (rest : List Char) :
    scalar (writeText s ++ rest) = .ok (text s, rest) := by
  rw [writeText_append, scalar, word_cons_eq_none (.inl rfl)]
  simp only
  rw [quoted_flatMap]
  rfl

theorem EndsNumber.scalar_writeNat (h : EndsNumber rest) {n : Nat}
    (hn : (Text.writeNat n).length ≤ Text.maxDigits) :
    scalar (Text.writeNat n ++ rest) = .ok (int n, rest) := by
  have hNumber := h.number_writeNat false hn
  obtain ⟨c, s, hs⟩ := List.exists_cons_of_length_pos (Text.length_writeNat_pos n)
  have hDigit : c.isDigit = true := Text.isDigit_of_mem_writeNat (hs ▸ List.mem_cons_self)
  rw [hs, List.cons_append] at hNumber ⊢
  have hOther : ∀ {mark : Char} {t : List Char}, mark.isDigit = false →
      c :: (s ++ rest) = mark :: t → False := by
    rintro mark t hMark hEq
    rw [(List.cons.inj hEq).1, hMark] at hDigit
    cases hDigit
  rw [scalar, word_cons_eq_none (.inr hDigit)]
  · exact hNumber
  · exact fun _ => hOther rfl
  · exact fun _ => hOther rfl

theorem EndsNumber.scalar_minus_writeNat (h : EndsNumber rest) {n : Nat}
    (hn : (Text.writeNat n).length ≤ Text.maxDigits) :
    scalar ('-' :: (Text.writeNat n ++ rest)) = .ok (int (-n), rest) := by
  have hNumber := h.number_writeNat true hn
  obtain ⟨c, s, hs⟩ := List.exists_cons_of_length_pos (Text.length_writeNat_pos n)
  have hDigit : c.isDigit = true := Text.isDigit_of_mem_writeNat (hs ▸ List.mem_cons_self)
  rw [hs, List.cons_append] at hNumber ⊢
  rw [scalar, word_minus_eq_none hDigit]
  exact hNumber

theorem EndsNumber.scalar_writeInt (h : EndsNumber rest) {n : Int}
    (hn : (Text.writeNat n.natAbs).length ≤ Text.maxDigits) :
    scalar (Text.writeInt n ++ rest) = .ok (int n, rest) := by
  cases n with
  | ofNat n => exact h.scalar_writeNat hn
  | negSucc n => exact h.scalar_minus_writeNat hn

end

end Doc

end ProxyRouting
