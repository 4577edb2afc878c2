import Mathlib.Data.List.TakeWhile
import Querysmith.Blueprint.Call

/-!
# The characters of numbers

A default that is a number, or a text that writes one, stands in a definition as it is. It is
written with figures: decimal digits, signs, points, and the letters of powers of ten and of the
words for what is not finite. No figure is a delimiter or a blank, or a letter at the end of a
word that a nullability clause is made of.

## Key results

- `Value.isFigures_text`: numbers are written with figures
- `isFigures_of_isNumeral`: so are numerals
- `isBlank_of_isFigure`: no figure is a blank
- `Value.defaultLiteral_cases`: a default is NULL, figures, or a string literal
-/

namespace Querysmith

open Text

namespace Text

/-- Ranges that lie apart hold no common code point. -/
theorem CodeRanges.contains_of_apart {a b : CodeRanges}
    (h : ∀ x ∈ a, ∀ y ∈ b, x.2 < y.1 ∨ y.2 < x.1) {code : Nat} (ha : a.contains code = true) :
    b.contains code = false := by
  refine Bool.eq_false_iff.mpr fun hb => ?_
  obtain ⟨x, hx, _, _⟩ := contains_eq_true_iff.mp ha
  obtain ⟨y, hy, _, _⟩ := contains_eq_true_iff.mp hb
  have := h x hx y hy
  omega

/-- A code point with a place in some ranges is in them. -/
theorem CodeRanges.contains_of_offset? {a : CodeRanges} {code : Nat}
    (h : (a.offset? code).isSome = true) : a.contains code = true := by
  induction a with
  | nil => simp [offset?] at h
  | cons r rest ih =>
    unfold offset? at h
    rw [contains, List.any_cons, Bool.or_eq_true]
    split at h
    · next hr => exact .inl hr
    · exact .inr (ih h)

/-- Whether a character can stand in a number. -/
def isFigure (c : Char) : Bool := isDecimalDigit c || "+-.eEinfatyIsN".toList.contains c

/-- The basic digits are decimal digits. -/
theorem isDecimalDigit_of_isDigit {c : Char} (h : c.isDigit = true) : isDecimalDigit c = true := by
  have hlt : c.toNat < 128 := by
    rw [Char.isDigit_iff_toNat] at h
    have : '9'.toNat < 128 := by decide
    omega
  simp [isDecimalDigit, digitValue?, hlt, h]

/-- Decimal digits of any script are figures. -/
theorem isFigure_of_isDecimalDigit {c : Char} (h : isDecimalDigit c = true) :
    isFigure c = true := by
  rw [isFigure, h, Bool.true_or]

theorem isFigure_of_isDigit {c : Char} (h : c.isDigit = true) : isFigure c = true :=
  isFigure_of_isDecimalDigit (isDecimalDigit_of_isDigit h)

/-- A figure differs from whatever is none. -/
theorem ne_of_isFigure {c d : Char} (h : isFigure c = true) (hd : isFigure d = false) : c ≠ d := by
  rintro rfl
  simp [h] at hd

/-- No decimal digit of any script is a blank. -/
theorem isBlank_of_isDecimalDigit {c : Char} (h : isDecimalDigit c = true) :
    isBlank c = false := by
  unfold isDecimalDigit digitValue? at h
  split at h
  · split at h
    · next hdigit =>
      -- the basic digits are one more row
      refine CodeRanges.contains_of_apart (a := [(48, 57)]) (by decide) ?_
      rw [Char.isDigit_iff_toNat] at hdigit
      simpa [CodeRanges.contains] using hdigit
    · cases h
  · rw [Option.isSome_map] at h
    exact CodeRanges.contains_of_apart (by decide) (CodeRanges.contains_of_offset? h)

/-- No figure is a blank. -/
theorem isBlank_of_isFigure {c : Char} (h : isFigure c = true) : isBlank c = false := by
  rw [isFigure, Bool.or_eq_true] at h
  rcases h with h | h
  · exact isBlank_of_isDecimalDigit h
  · have hall : ("+-.eEinfatyIsN".toList.all fun c => !isBlank c) = true := by decide
    simpa using List.all_eq_true.mp hall c (List.contains_iff_mem.mp h)

/-! ## Texts of figures -/

/-- The text is written with figures. -/
def IsFigures (s : String) : Prop := ∀ c ∈ s.toList, isFigure c = true

instance : DecidablePred IsFigures :=
  fun s => List.decidableBAll (fun c => isFigure c = true) s.toList

namespace IsFigures

/-- Two texts of figures make one. -/
theorem append {s t : String} (hs : IsFigures s) (ht : IsFigures t) : IsFigures (s ++ t) := by
  intro c hc
  rw [String.toList_append, List.mem_append] at hc
  exact hc.elim (hs c) (ht c)

/-- Either way a text of figures. -/
theorem ite {p : Prop} [Decidable p] {s t : String} (hs : IsFigures s) (ht : IsFigures t) :
    IsFigures (if p then s else t) := by
  split
  · exact hs
  · exact ht

/-- Some of the characters of a text of figures. -/
theorem ofList {s : String} (hs : IsFigures s) {cs : List Char} (h : cs ⊆ s.toList) :
    IsFigures (String.ofList cs) := by
  intro c hc
  rw [String.toList_ofList] at hc
  exact hs c (h hc)

end IsFigures

/-- A row of zeros. -/
theorem isFigures_zeros (n : Nat) : IsFigures (String.ofList (List.replicate n '0')) := by
  intro c hc
  rw [String.toList_ofList] at hc
  obtain rfl := List.eq_of_mem_replicate hc
  decide

theorem isFigures_nat (n : Nat) : IsFigures (toString n) := by
  intro c hc
  have hdigits : (toString n).toList = Nat.toDigits 10 n := Nat.toList_repr
  rw [hdigits] at hc
  exact isFigure_of_isDigit (Nat.isDigit_of_mem_toDigits (by decide) (by decide) hc)

/-- A whole number is written with figures. -/
theorem isFigures_int (n : Int) : IsFigures (toString n) := by
  cases n with
  | ofNat m => exact isFigures_nat m
  | negSucc m =>
    have h : toString (Int.negSucc m) = "-" ++ toString (m + 1) := rfl
    rw [h]
    exact IsFigures.append (by decide) (isFigures_nat _)

end Text

/-! ## Numbers -/

/-- A text with a point, or without one where nothing stands behind it. -/
theorem Decimal.isFigures_unsignedText (coefficient : Nat) (exponent : Int) :
    IsFigures (unsignedText coefficient exponent) := by
  have hdigits : IsFigures (toString coefficient) := isFigures_nat coefficient
  -- the point is put somewhere within the digits
  have htake : ∀ n, IsFigures (String.ofList ((toString coefficient).toList.take n)) :=
    fun n => hdigits.ofList (List.take_subset _ _)
  have hdrop : ∀ n, IsFigures (String.ofList ((toString coefficient).toList.drop n)) :=
    fun n => hdigits.ofList (List.drop_subset _ _)
  have hpoint : IsFigures "." := by decide
  unfold unsignedText
  dsimp only
  -- the body with an exponent behind it or without
  refine .ite ?body (.append (.append (.append ?body (by decide)) (.ite (by decide) (by decide)))
    (isFigures_nat _))
  refine .ite (.append (.append (by decide) (isFigures_zeros _)) hdigits) (.ite ?_ ?_)
  · exact .append hdigits (isFigures_zeros _)
  · exact .append (.append (htake _) hpoint) (hdrop _)

/-- A decimal is written with figures, also one that is not finite. -/
theorem Decimal.isFigures_text (d : Decimal) : IsFigures d.text := by
  cases d with
  | finite negative coefficient exponent =>
    exact .append (.ite (by decide) (by decide)) (isFigures_unsignedText _ _)
  | infinite negative => exact .ite (by decide) (by decide)
  | undefined negative signaling payload origin =>
    exact .append (.append (.ite (by decide) (by decide)) (.ite (by decide) (by decide)))
      (.ite (by decide) (isFigures_nat _))

/-- A power of ten is written with figures. -/
theorem Number.isFigures_exponentText (exponent : Int) : IsFigures (exponentText exponent) := by
  have hdigits : IsFigures (toString exponent.natAbs) := isFigures_nat _
  exact .append (.ite (by decide) (by decide)) (.ite (.append (by decide) hdigits) hdigits)

/-- Digits with a point at whatever place are figures. -/
theorem Number.isFigures_decimalText {digits : String} (h : IsFigures digits) (lead : Int) :
    IsFigures (decimalText digits lead) := by
  have htake : ∀ n, IsFigures (String.ofList (digits.toList.take n)) :=
    fun n => h.ofList (List.take_subset _ _)
  have hdrop : ∀ n, IsFigures (String.ofList (digits.toList.drop n)) :=
    fun n => h.ofList (List.drop_subset _ _)
  have hpoint : IsFigures "." := by decide
  unfold decimalText
  dsimp only
  -- in turn with an exponent, below one, without a fraction, and with one
  refine .ite ?_ (.ite ?_ (.ite ?_ ?_))
  · exact .append (.append (.append (htake 1) (.ite (by decide) (hpoint.append (hdrop 1))))
      (by decide)) (isFigures_exponentText lead)
  · exact .append (.append (by decide) (isFigures_zeros _)) h
  · exact .append (.append h (isFigures_zeros _)) (by decide)
  · exact .append (.append (htake _) hpoint) (hdrop _)

/-- A binary number is written with figures, also one that is not finite. -/
theorem Binary64.isFigures_text (x : Binary64) : IsFigures x.text := by
  cases x with
  | finite negative significand exponent =>
    have hsign : IsFigures (if negative then "-" else "") := .ite (by decide) (by decide)
    exact .ite (hsign.append (by decide))
      (hsign.append (Number.isFigures_decimalText (isFigures_nat _) _))
  | infinite negative => exact .ite (by decide) (by decide)
  | undefined origin =>
    show IsFigures "nan"
    decide

/-- Numbers are written with figures. -/
theorem Value.isFigures_text {v : Value} (h : v.isNumber = true) : IsFigures v.text := by
  cases v with
  | int n => exact isFigures_int n
  | float x => exact x.isFigures_text
  | decimal d => exact d.isFigures_text
  | _ => cases h

/-! ### Numbers have digits -/

/-- A whole number has a digit. -/
theorem int_ne_empty (n : Int) : toString n ≠ "" := by
  cases n with
  | ofNat m => exact Nat.repr_ne_empty
  | negSucc m =>
    have h : toString (Int.negSucc m) = "-" ++ toString (m + 1) := rfl
    simp [h]

/-- A decimal is not written as an empty text. -/
theorem Decimal.text_ne_empty (d : Decimal) : d.text ≠ "" := by
  cases d with
  | finite negative coefficient exponent =>
    simp only [text, unsignedText, ne_eq, String.append_eq_empty_iff, not_and]
    intro _
    repeat' split
    all_goals simp [String.append_eq_empty_iff]
  | infinite negative => cases negative <;> decide
  | undefined negative signaling payload origin =>
    cases signaling <;> simp [text, String.append_eq_empty_iff]

/-- The text of a binary number is not empty. -/
theorem Binary64.text_ne_empty (x : Binary64) : x.text ≠ "" := by
  cases x with
  | finite negative significand exponent =>
    simp only [text, Number.decimalText, ne_eq]
    repeat' split
    all_goals simp [String.append_eq_empty_iff]
  | infinite negative => cases negative <;> decide
  | undefined origin =>
    show "nan" ≠ ""
    decide

/-- No number is written as an empty text. -/
theorem Value.text_ne_empty {v : Value} (h : v.isNumber = true) : v.text ≠ "" := by
  cases v with
  | int n => exact int_ne_empty n
  | float x => exact x.text_ne_empty
  | decimal d => exact d.text_ne_empty
  | _ => cases h

/-! ## Numerals -/

namespace Text

/-- The digits that a text starts with are figures. -/
theorem isFigure_of_mem_takeWhile {cs : List Char} {c : Char}
    (h : c ∈ cs.takeWhile isDecimalDigit) : isFigure c = true :=
  isFigure_of_isDecimalDigit (List.mem_takeWhile_imp h)

/-- A sign is a figure. -/
theorem isFigure_of_afterSign {cs : List Char} (h : ∀ c ∈ afterSign cs, isFigure c = true) :
    ∀ c ∈ cs, isFigure c = true := by
  unfold afterSign at h
  split at h
  · exact List.forall_mem_cons.mpr ⟨by decide, h⟩
  · exact List.forall_mem_cons.mpr ⟨by decide, h⟩
  · exact h

/-- The power of ten of a numeral is made of figures. -/
theorem isFigure_of_isExponent {cs : List Char} (h : isExponent cs = true) :
    ∀ c ∈ cs, isFigure c = true := by
  cases cs with
  | nil => simp
  | cons e rest =>
    rw [isExponent, isDigits] at h
    simp only [Bool.and_eq_true, Bool.or_eq_true, decide_eq_true_eq, List.all_eq_true] at h
    obtain ⟨he, -, hdigits⟩ := h
    refine List.forall_mem_cons.mpr ⟨?_, ?_⟩
    · rcases he with rfl | rfl <;> decide
    · exact isFigure_of_afterSign fun c hc => isFigure_of_isDecimalDigit (hdigits c hc)

/-- Numerals are written with figures. -/
theorem isFigures_of_isNumeral {s : String} (h : isNumeral s.toList = true) : IsFigures s := by
  refine isFigure_of_afterSign ?_
  rw [isNumeral] at h
  rw [← List.takeWhile_append_dropWhile (p := isDecimalDigit) (l := afterSign s.toList)]
  intro c hc
  -- a character is in front of the point, behind it, or in the exponent
  rcases List.mem_append.mp hc with hc | hc
  · exact isFigure_of_mem_takeWhile hc
  split at h
  · next rest hrest =>
    rw [hrest] at hc
    rw [Bool.and_eq_true] at h
    rcases List.mem_cons.mp hc with rfl | hc
    · decide
    rw [← List.takeWhile_append_dropWhile (p := isDecimalDigit) (l := rest)] at hc
    rcases List.mem_append.mp hc with hc | hc
    · exact isFigure_of_mem_takeWhile hc
    · exact isFigure_of_isExponent h.2 c hc
  · rw [Bool.and_eq_true] at h
    exact isFigure_of_isExponent h.2 c hc

/-- A numeral is not empty. -/
theorem ne_empty_of_isNumeral {s : String} (h : isNumeral s.toList = true) : s ≠ "" := by
  rintro rfl
  revert h
  decide

end Text

/-! ## Defaults -/

namespace Value

/-- Whether a default is NULL. -/
def isNullDefault (v : Value) : Bool := v.isNull || spellsInCapitals "NULL" v.text

/-- Whether a default is written with figures: a truth value, a number, or a numeral. -/
def isFigureDefault : Value → Bool
  | .bool _ => true
  | v => v.isNumber || isNumeral v.text.toList

/-- The default of null is the word. -/
theorem defaultLiteral_of_isNullDefault {v : Value} (h : v.isNullDefault = true) :
    v.defaultLiteral = "NULL" :=
  if_pos h

/-- A default that is not NULL is figures or a string literal. -/
theorem defaultLiteral_cases {v : Value} (h : v.isNullDefault = false) :
    (v.isFigureDefault = true ∧ IsFigures v.defaultLiteral ∧ v.defaultLiteral ≠ "") ∨
      (v.isFigureDefault = false ∧ v.defaultLiteral = quotedString v.text) := by
  have hnull : ¬ (v.isNull || spellsInCapitals "NULL" v.text) = true := by
    simpa [isNullDefault] using h
  unfold defaultLiteral
  rw [if_neg hnull]
  split
  · exact .inl ⟨rfl, by decide, by decide⟩
  · exact .inl ⟨rfl, by decide, by decide⟩
  · -- whatever is not a truth value is written as figures when it is a numeral
    next htrue hfalse =>
    have hfigures : v.isFigureDefault = (v.isNumber || isNumeral v.text.toList) := by
      cases v with
      | bool b => cases b <;> simp at htrue hfalse
      | _ => rfl
    rw [hfigures]
    cases hwritten : v.isNumber || isNumeral v.text.toList with
    | false => exact .inr ⟨rfl, rfl⟩
    | true =>
      -- a number is written in figures, and so is a text that looks like one
      rcases Bool.or_eq_true_iff.mp hwritten with hnumber | hnumeral
      · exact .inl ⟨rfl, isFigures_text hnumber, text_ne_empty hnumber⟩
      · exact .inl ⟨rfl, isFigures_of_isNumeral hnumeral, ne_empty_of_isNumeral hnumeral⟩

end Value

end Querysmith
