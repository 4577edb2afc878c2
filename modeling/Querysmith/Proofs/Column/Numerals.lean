import Querysmith.Proofs.Column.Figures

/-!
# Numerals and the grammar of numbers

A numeral has a sign or none, digits with a point behind them, among them or in front of them, and
a power of ten or none. The grammar leaves open which characters are digits. A text is taken for a
numeral when its digits are those of any script, and numbers are written with the basic ones.

## Main definitions

- `Numeral`: the grammar of numerals, over a class of digits

## Key results

- `isNumeral_iff`: a text is taken for a numeral when the grammar gives it with digits of any script
- `numeral_int`, `Binary64.numeral_text`, `Decimal.numeral_text`: numbers that are finite are
  written as numerals of basic digits
-/

namespace Querysmith

namespace Text

/-! ## The grammar -/

/-- A sign, or none. -/
inductive Sign : List Char → Prop where
  | none : Sign []
  | plus : Sign ['+']
  | minus : Sign ['-']

/-- Digits, at least one. -/
def DigitRun (digit : Char → Bool) (cs : List Char) : Prop := cs ≠ [] ∧ ∀ c ∈ cs, digit c = true

/-- Digits, perhaps with a point. -/
inductive Mantissa (digit : Char → Bool) : List Char → Prop where
  | whole {ds} : DigitRun digit ds → Mantissa digit ds
  | trailing {ds} : DigitRun digit ds → Mantissa digit (ds ++ ['.'])
  | point {ds ps} : DigitRun digit ds → DigitRun digit ps → Mantissa digit (ds ++ '.' :: ps)
  | leading {ps} : DigitRun digit ps → Mantissa digit ('.' :: ps)

/-- A power of ten, or none. -/
inductive Power (digit : Char → Bool) : List Char → Prop where
  | none : Power digit []
  | small {s ds} : Sign s → DigitRun digit ds → Power digit ('e' :: (s ++ ds))
  | capital {s ds} : Sign s → DigitRun digit ds → Power digit ('E' :: (s ++ ds))

/-- A numeral with a given class of digits. -/
inductive Numeral (digit : Char → Bool) : List Char → Prop where
  | mk {s m p} : Sign s → Mantissa digit m → Power digit p → Numeral digit (s ++ (m ++ p))

variable {digit wider : Char → Bool} {cs ds s m p : List Char}

/-- More characters count as digits. -/
theorem DigitRun.mono (h : ∀ c, digit c = true → wider c = true) (hd : DigitRun digit ds) :
    DigitRun wider ds :=
  ⟨hd.1, fun c hc => h c (hd.2 c hc)⟩

/-- Digits may follow a run of digits. -/
theorem DigitRun.append {es : List Char} (hd : DigitRun digit ds) (he : ∀ c ∈ es, digit c = true) :
    DigitRun digit (ds ++ es) := by
  refine ⟨by simp [hd.1], fun c hc => ?_⟩
  rcases List.mem_append.1 hc with hc | hc
  · exact hd.2 c hc
  · exact he c hc

/-- Digits may go before a run of digits. -/
theorem DigitRun.append_left {es : List Char} (hd : DigitRun digit ds)
    (he : ∀ c ∈ es, digit c = true) : DigitRun digit (es ++ ds) := by
  refine ⟨by simp [hd.1], fun c hc => ?_⟩
  rcases List.mem_append.1 hc with hc | hc
  · exact he c hc
  · exact hd.2 c hc

/-- A numeral in some digits is one in all the digits of a wider kind. -/
theorem Numeral.mono (h : ∀ c, digit c = true → wider c = true) (hn : Numeral digit cs) :
    Numeral wider cs := by
  obtain ⟨hs, hm, hp⟩ := hn
  refine .mk hs ?_ ?_
  -- the digits before and after the point
  · cases hm with
    | whole hd => exact .whole (hd.mono h)
    | trailing hd => exact .trailing (hd.mono h)
    | point hd hp => exact .point (hd.mono h) (hp.mono h)
    | leading hp => exact .leading (hp.mono h)
  -- the digits of the exponent
  · cases hp with
    | none => exact .none
    | small hs hd => exact .small hs (hd.mono h)
    | capital hs hd => exact .capital hs (hd.mono h)

/-! ## What is taken for a numeral -/

/-- A sign is taken off, unless the text goes on with another one. -/
theorem Sign.afterSign_append (hs : Sign s) (hplus : cs.head? ≠ some '+')
    (hminus : cs.head? ≠ some '-') : afterSign (s ++ cs) = cs := by
  cases hs with
  | none =>
    show afterSign cs = cs
    unfold afterSign
    split
    · exact absurd rfl hplus
    · exact absurd rfl hminus
    · rfl
  | plus => rfl
  | minus => rfl

/-- A text is its sign, if there is one, and the rest. -/
theorem exists_sign (cs : List Char) : ∃ s, Sign s ∧ cs = s ++ afterSign cs := by
  unfold afterSign
  split
  · exact ⟨['+'], .plus, rfl⟩
  · exact ⟨['-'], .minus, rfl⟩
  · exact ⟨[], .none, rfl⟩

/-- The code's check for digits tells runs of them. -/
theorem isDigits_iff : isDigits cs = true ↔ DigitRun isDecimalDigit cs := by
  simp [isDigits, DigitRun]

/-- Digits start with no other character. -/
theorem DigitRun.head?_ne (h : DigitRun digit ds) {c : Char} (hc : digit c = false)
    (cs : List Char) : (ds ++ cs).head? ≠ some c := by
  obtain ⟨d, ds, rfl⟩ := List.exists_cons_of_ne_nil h.1
  rintro ⟨⟩
  simp [h.2 c List.mem_cons_self] at hc

/-- The code's check for a power of ten tells powers. -/
theorem isExponent_iff : isExponent cs = true ↔ Power isDecimalDigit cs := by
  constructor
  · intro h
    cases cs with
    | nil => exact .none
    | cons e rest =>
      rw [isExponent] at h
      simp only [Bool.and_eq_true, Bool.or_eq_true, decide_eq_true_eq] at h
      obtain ⟨he, hdigits⟩ := h
      -- a sign may stand between the letter and the digits
      obtain ⟨s, hs, hrest⟩ := exists_sign rest
      rw [hrest]
      rcases he with rfl | rfl
      · exact .small hs (isDigits_iff.1 hdigits)
      · exact .capital hs (isDigits_iff.1 hdigits)
  · intro h
    -- a digit is no sign, so the sign ends where the digits start
    have hafter : ∀ {s ds}, Sign s → DigitRun isDecimalDigit ds → afterSign (s ++ ds) = ds := by
      intro s ds hs hd
      refine hs.afterSign_append ?_ ?_
      · simpa using hd.head?_ne (by decide) []
      · simpa using hd.head?_ne (by decide) []
    cases h with
    | none => rfl
    | small hs hd => simp [isExponent, hafter hs hd, isDigits_iff.2 hd]
    | capital hs hd => simp [isExponent, hafter hs hd, isDigits_iff.2 hd]

/-- Nothing, or a text that does not start with a digit. -/
def Stops (digit : Char → Bool) : List Char → Prop
  | [] => True
  | c :: _ => digit c = false

/-- No digit is taken off a text that does not start with one. -/
theorem Stops.takeWhile_eq (h : Stops digit cs) : cs.takeWhile digit = [] := by
  cases cs with
  | nil => rfl
  | cons c cs => simpa [Stops] using h

/-- Nothing is dropped from a text that does not start with a digit. -/
theorem Stops.dropWhile_eq (h : Stops digit cs) : cs.dropWhile digit = cs := by
  cases cs with
  | nil => rfl
  | cons c cs => simp [show digit c = false from h]

/-- A power does not start with a digit. -/
theorem Power.stops (h : Power isDecimalDigit p) : Stops isDecimalDigit p := by
  cases h with
  | none => exact trivial
  | small => exact (by decide : isDecimalDigit 'e' = false)
  | capital => exact (by decide : isDecimalDigit 'E' = false)

/-- Digits are taken off as far as they go. -/
theorem takeWhile_digits (hd : ∀ c ∈ ds, digit c = true) (h : Stops digit cs) :
    (ds ++ cs).takeWhile digit = ds := by
  rw [List.takeWhile_append_of_pos hd, h.takeWhile_eq, List.append_nil]

/-- Digits are dropped up to where they stop. -/
theorem dropWhile_digits (hd : ∀ c ∈ ds, digit c = true) (h : Stops digit cs) :
    (ds ++ cs).dropWhile digit = cs := by
  rw [List.dropWhile_append_of_pos hd, h.dropWhile_eq]

/-- A mantissa starts with a digit or a point. -/
theorem Mantissa.head?_ne (h : Mantissa digit m) {c : Char} (hc : digit c = false)
    (hpoint : c ≠ '.') (cs : List Char) : (m ++ cs).head? ≠ some c := by
  cases h with
  | whole hd => exact hd.head?_ne hc cs
  | trailing hd =>
    rw [List.append_assoc]
    exact hd.head?_ne hc _
  | point hd =>
    rw [List.append_assoc]
    exact hd.head?_ne hc _
  | leading => simpa using Ne.symm hpoint

/-- Digits around a point, on one side of it at least. -/
theorem mantissa_of_point (hd : ∀ c ∈ ds, digit c = true) (hp : ∀ c ∈ p, digit c = true)
    (h : ds ≠ [] ∨ p ≠ []) : Mantissa digit (ds ++ '.' :: p) := by
  by_cases hds : ds = []
  · subst hds
    exact .leading ⟨h.resolve_left (by simp), hp⟩
  · by_cases hps : p = []
    · subst hps
      exact .trailing ⟨hds, hd⟩
    · exact .point ⟨hds, hd⟩ ⟨hps, hp⟩

/-- A text that reads as a mantissa and a power behind its sign is taken for a numeral. -/
private theorem isNumeral_of_body (hm : Mantissa isDecimalDigit m) (hp : Power isDecimalDigit p)
    (hafter : afterSign cs = m ++ p) : isNumeral cs = true := by
  have hpoint : ∀ rest, Stops isDecimalDigit ('.' :: rest) := fun _ =>
    (by decide : isDecimalDigit '.' = false)
  have hpower := isExponent_iff.2 hp
  rw [isNumeral, hafter]
  -- the digits in front stop at the point, and those behind it, or all of them, at the power
  cases hm with
  | whole hd =>
    have hnone : ∀ rest, p ≠ '.' :: rest := by
      rintro rest rfl
      cases hp
    simp only [takeWhile_digits hd.2 hp.stops, dropWhile_digits hd.2 hp.stops]
    simp [hd.1, hpower]
  | trailing hd =>
    simp only [List.append_assoc, List.singleton_append, takeWhile_digits hd.2 (hpoint _),
      dropWhile_digits hd.2 (hpoint _), hp.stops.dropWhile_eq]
    simp [hd.1, hpower]
  | point hd hf =>
    simp only [List.append_assoc, List.cons_append, takeWhile_digits hd.2 (hpoint _),
      dropWhile_digits hd.2 (hpoint _), dropWhile_digits hf.2 hp.stops]
    simp [hd.1, hpower]
  | leading hf =>
    simp only [List.cons_append, (hpoint _).takeWhile_eq, (hpoint _).dropWhile_eq,
      takeWhile_digits hf.2 hp.stops, dropWhile_digits hf.2 hp.stops]
    simp [hf.1, hpower]

/-- What is taken for a numeral reads as a mantissa and a power behind its sign. -/
private theorem exists_body (h : isNumeral cs = true) :
    ∃ m p, Mantissa isDecimalDigit m ∧ Power isDecimalDigit p ∧ afterSign cs = m ++ p := by
  have hdigits : ∀ cs : List Char, ∀ c ∈ cs.takeWhile isDecimalDigit, isDecimalDigit c = true :=
    fun _ _ => List.mem_takeWhile_imp
  rw [isNumeral] at h
  rw [← List.takeWhile_append_dropWhile (p := isDecimalDigit) (l := afterSign cs)]
  -- a point stands behind the first digits, or it does not
  split at h
  · next rest hrest =>
    simp only [Bool.and_eq_true, Bool.or_eq_true, Bool.not_eq_true', List.isEmpty_eq_false_iff]
      at h
    obtain ⟨hsome, hpower⟩ := h
    refine ⟨_, _, mantissa_of_point (hdigits _) (hdigits rest) hsome, isExponent_iff.1 hpower, ?_⟩
    rw [hrest, List.append_assoc, List.cons_append, List.takeWhile_append_dropWhile]
  · simp only [Bool.and_eq_true, Bool.not_eq_true', List.isEmpty_eq_false_iff] at h
    exact ⟨_, _, .whole ⟨h.1, hdigits _⟩, isExponent_iff.1 h.2, rfl⟩

/-- A text is taken for a numeral when the grammar gives it with digits of any script. -/
theorem isNumeral_iff : isNumeral cs = true ↔ Numeral isDecimalDigit cs := by
  constructor
  · intro h
    obtain ⟨s, hs, hcs⟩ := exists_sign cs
    obtain ⟨m, p, hm, hp, hafter⟩ := exists_body h
    rw [hcs, hafter]
    exact .mk hs hm hp
  · rintro ⟨hs, hm, hp⟩
    -- a mantissa starts with a digit or a point, so no other sign is taken off
    refine isNumeral_of_body hm hp (hs.afterSign_append ?_ ?_)
    · exact hm.head?_ne (by decide) (by decide) _
    · exact hm.head?_ne (by decide) (by decide) _

/-- What is a numeral in basic digits passes the code's check. -/
theorem isNumeral_of_numeral {cs : List Char} (h : Numeral Char.isDigit cs) :
    isNumeral cs = true :=
  isNumeral_iff.2 (h.mono fun _ => isDecimalDigit_of_isDigit)

/-! ## Numbers -/

/-- A natural number is written with basic digits. -/
theorem digits_nat (n : Nat) : DigitRun Char.isDigit (toString n).toList := by
  have hdigits : (toString n).toList = Nat.toDigits 10 n := Nat.toList_repr
  rw [hdigits]
  exact ⟨Nat.toDigits_ne_nil, fun _ => Nat.isDigit_of_mem_toDigits (by decide) (by decide)⟩

theorem digitRun_zero : DigitRun Char.isDigit ['0'] :=
  ⟨List.cons_ne_nil _ _, List.forall_mem_singleton.2 rfl⟩

/-- Zeros are basic digits. -/
theorem isDigit_of_mem_zeros {n : Nat} {c : Char} (h : c ∈ List.replicate n '0') :
    c.isDigit = true := by
  rw [List.eq_of_mem_replicate h]
  rfl

/-- The text is a mantissa and a power, without a sign. -/
def IsUnsigned (digit : Char → Bool) (text : String) : Prop :=
  ∃ m p, Mantissa digit m ∧ Power digit p ∧ text.toList = m ++ p

/-- A mantissa alone is an unsigned numeral. -/
theorem Mantissa.isUnsigned {text : String} (h : Mantissa digit text.toList) :
    IsUnsigned digit text := ⟨_, [], h, .none, (List.append_nil _).symm⟩

/-- A sign in front, or none. -/
theorem IsUnsigned.numeral {text : String} (h : IsUnsigned digit text) (negative : Bool) :
    Numeral digit ((if negative then "-" else "") ++ text).toList := by
  obtain ⟨m, p, hm, hp, htext⟩ := h
  rw [String.toList_append, htext]
  cases negative with
  | true => exact .mk .minus hm hp
  | false => exact .mk .none hm hp

/-- A whole number is written as a numeral. -/
theorem numeral_int (n : Int) : Numeral Char.isDigit (toString n).toList := by
  cases n with
  | ofNat n => exact (Mantissa.whole (digits_nat n)).isUnsigned.numeral false
  | negSucc n => exact (Mantissa.whole (digits_nat (n + 1))).isUnsigned.numeral true

/-! ### Digits with a point among them -/

/-- All digits stand behind the point, after zeros. -/
theorem DigitRun.mantissa_behind {digits : String} (h : DigitRun Char.isDigit digits.toList)
    (n : Nat) :
    Mantissa Char.isDigit ("0." ++ String.ofList (List.replicate n '0') ++ digits).toList := by
  have := Mantissa.point digitRun_zero
    (h.append_left fun c => isDigit_of_mem_zeros (n := n) (c := c))
  simpa using this

/-- All digits stand before the point, and zeros after them. -/
theorem DigitRun.padded {digits : String} (h : DigitRun Char.isDigit digits.toList) (n : Nat) :
    DigitRun Char.isDigit (digits ++ String.ofList (List.replicate n '0')).toList := by
  have := h.append fun c => isDigit_of_mem_zeros (n := n) (c := c)
  simpa using this

/-- The first digits stand before the point. -/
theorem DigitRun.mantissa_cut {digits : String} (h : DigitRun Char.isDigit digits.toList) {n : Nat}
    (hn : 0 < n) :
    Mantissa Char.isDigit (String.ofList (digits.toList.take n) ++ "." ++
      String.ofList (digits.toList.drop n)).toList := by
  have hsome : digits.toList.take n ≠ [] := by
    rw [ne_eq, List.take_eq_nil_iff, not_or]
    exact ⟨Nat.pos_iff_ne_zero.1 hn, h.1⟩
  have := mantissa_of_point (p := digits.toList.drop n)
    (fun c hc => h.2 c (List.mem_of_mem_take hc)) (fun c hc => h.2 c (List.mem_of_mem_drop hc))
    (.inl hsome)
  simpa using this

end Text

open Text

/-- A coefficient is written with a point, or without one where nothing stands behind it. -/
theorem Decimal.isUnsigned_unsignedText (coefficient : Nat) (exponent : Int) :
    IsUnsigned Char.isDigit (unsignedText coefficient exponent) := by
  have hdigits := digits_nat coefficient
  unfold unsignedText
  extract_lets digits size left point body power
  -- the point is left of the digits, right of them, or among them
  have hbody : Mantissa Char.isDigit body.toList := by
    unfold body
    split
    · exact hdigits.mantissa_behind _
    · split
      · exact .whole (hdigits.padded _)
      · exact hdigits.mantissa_cut (by omega)
  split
  · exact hbody.isUnsigned
  · have hsign : Sign (if power < 0 then "-" else "+").toList := by
      split
      · exact .minus
      · exact .plus
    refine ⟨_, _, hbody, .capital hsign (digits_nat power.natAbs), ?_⟩
    simp

/-- Decimals that are finite are written as numerals. -/
theorem Decimal.numeral_text (negative : Bool) (coefficient : Nat) (exponent : Int) :
    Numeral Char.isDigit (finite negative coefficient exponent).text.toList :=
  (isUnsigned_unsignedText coefficient exponent).numeral negative

/-- An exponent has a sign and at least two digits. -/
theorem Number.power_exponentText (exponent : Int) :
    Power Char.isDigit ('e' :: (exponentText exponent).toList) := by
  have hdigits := digits_nat exponent.natAbs
  have hsign : Sign (if exponent < 0 then "-" else "+").toList := by
    -- the exponent is padded to two digits
    split
    · exact .minus
    · exact .plus
  unfold exponentText
  generalize toString exponent.natAbs = digits at hdigits
  rw [String.toList_append]
  refine .small hsign ?_
  split
  · have hpadded := digitRun_zero.append hdigits.2
    simpa using hpadded
  · exact hdigits

/-- The digits of a double are written with a point, or with a power of ten. -/
theorem Number.isUnsigned_decimalText {digits : String} (h : DigitRun Char.isDigit digits.toList)
    (lead : Int) : IsUnsigned Char.isDigit (decimalText digits lead) := by
  unfold decimalText
  split
  · extract_lets first rest
    -- with a power of ten, one digit stands in front of the point
    have hmantissa : Mantissa Char.isDigit
        (first ++ if rest = "" then "" else "." ++ rest).toList := by
      by_cases hrest : rest = ""
      · have hfirst : DigitRun Char.isDigit first.toList := by
          refine ⟨by simp [first, h.1], fun c hc => h.2 c ?_⟩
          exact List.mem_of_mem_take (by simpa [first] using hc)
        simpa [hrest] using Mantissa.whole hfirst
      · rw [if_neg hrest, ← String.append_assoc]
        exact h.mantissa_cut Nat.one_pos
    refine ⟨_, _, hmantissa, power_exponentText lead, ?_⟩
    rw [String.toList_append, String.toList_append, List.append_assoc]
    rfl
  -- without a power of ten, the point stands before, behind or within the digits
  · split
    · exact (h.mantissa_behind _).isUnsigned
    · extract_lets whole
      split
      · have := Mantissa.point (h.padded (whole - digits.length)) digitRun_zero
        refine Mantissa.isUnsigned ?_
        simpa [zeros] using this
      · exact (h.mantissa_cut (Nat.succ_pos _)).isUnsigned

/-- Doubles that are finite are written as numerals. -/
theorem Binary64.numeral_text (negative : Bool) (significand : Nat) (exponent : Int) :
    Numeral Char.isDigit (finite negative significand exponent).text.toList := by
  simp only [text]
  split
  · have hzero : Mantissa Char.isDigit "0.0".toList := .point digitRun_zero digitRun_zero
    exact hzero.isUnsigned.numeral negative
  · exact (Number.isUnsigned_decimalText (digits_nat _) _).numeral negative

end Querysmith
