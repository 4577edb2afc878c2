import Querysmith.Proofs.Column.Literals
import Querysmith.Proofs.Column.Numerals
import Querysmith.Proofs.Table.Lexing

/-!
# What a default is written as

A default is one literal behind the definition that the modifiers are aimed at: the word NULL, a
numeral, or a string literal that is read back as the text it was. Two kinds of values stray from
this, both because they are written bare. A text counts as a numeral with the digits of any script,
and a number that is not finite is written as a word.

## Main definitions

- `Value.StandsFor`: the literals that stand for a value
- `Value.IsStray`: the values that are written as no literal of theirs
- `Table.GoesOn`: one definition goes on, and nothing else is changed

## Key results

- `spellsInCapitals_null_iff`: the capitals of a text, character by character
- `Value.standsFor_defaultLiteral_iff`: which values are written as literals that stand for them
- `Table.default_appends_token`: what a default does to a blueprint
-/

namespace Querysmith

open Text

/-! ## The word -/

namespace Text

/-- The text is the word NULL in some letter case. -/
def SpellsNull (s : String) : Prop := s.toList.map Char.toUpper = "NULL".toList

instance : DecidablePred SpellsNull := fun s =>
  inferInstanceAs (Decidable (s.toList.map Char.toUpper = "NULL".toList))

/-- No letter outside the basic alphabet has capitals in it that start with this one. -/
def IsOwnCapital (c : Char) : Prop := c.toNat < 128 ∧ c ≠ 'S' ∧ c ≠ 'I' ∧ c ≠ 'F'

/-- Every character has a capital form. -/
theorem basicCapitals_ne_nil (c : Char) : basicCapitals c ≠ [] := by
  unfold basicCapitals
  split
  · simp
  · split <;> simp

/-- The capitals start with such a letter only for a basic one. -/
theorem basicCapitals_of_head {c d : Char} (hd : IsOwnCapital d)
    (h : (basicCapitals c).head? = some d) : basicCapitals c = [d] ∧ c.toUpper = d := by
  obtain ⟨hbasic, hS, hI, hF⟩ := hd
  unfold basicCapitals at h ⊢
  split at h
  · next hc =>
    rw [if_pos hc]
    simpa using h
  · next hc =>
    -- no other letter has capitals in the basic alphabet that do not start with S, I or F
    split at h
    all_goals simp only [List.head?_cons, Option.some.injEq] at h
    all_goals subst h
    all_goals simp_all

theorem toUpper_of_not_basic {c : Char} (h : ¬ c.toNat < 128) : c.toUpper = c := by
  unfold Char.toUpper
  rw [dif_neg]
  rintro ⟨-, hz⟩
  have : c.toNat ≤ 122 := hz
  omega

/-- A character whose capital is a plain letter has no other capital form. -/
theorem basicCapitals_of_toUpper {c d : Char} (hd : IsOwnCapital d) (h : c.toUpper = d) :
    basicCapitals c = [d] := by
  have hc : c.toNat < 128 := by
    by_contra hc
    rw [toUpper_of_not_basic hc] at h
    exact hc (h ▸ hd.1)
  rw [basicCapitals, if_pos hc, h]

/-- With such letters only, a word is spelled character by character. -/
theorem flatMap_basicCapitals_eq_iff {word : List Char} (hword : ∀ d ∈ word, IsOwnCapital d)
    (cs : List Char) : cs.flatMap basicCapitals = word ↔ cs.map Char.toUpper = word := by
  induction cs generalizing word with
  | nil => simp
  | cons c cs ih =>
    cases word with
    | nil => simp [basicCapitals_ne_nil]
    | cons d word =>
      have hd := hword d List.mem_cons_self
      have ih := ih fun e he => hword e (List.mem_cons_of_mem d he)
      rw [List.flatMap_cons, List.map_cons, List.cons.injEq]
      constructor
      · intro h
        -- every character has capitals, so the first of them is the first of the word
        have hhead : (basicCapitals c).head? = some d := by
          obtain ⟨e, es, hes⟩ := List.exists_cons_of_ne_nil (basicCapitals_ne_nil c)
          simpa [hes] using congrArg List.head? h
        obtain ⟨hcapitals, hupper⟩ := basicCapitals_of_head hd hhead
        rw [hcapitals] at h
        exact ⟨hupper, ih.1 (by simpa using h)⟩
      · rintro ⟨hupper, h⟩
        rw [basicCapitals_of_toUpper hd hupper, ih.2 h]
        rfl

/-- A text spells NULL in capitals just when it does so letter by letter. -/
theorem spellsInCapitals_null_iff {s : String} :
    spellsInCapitals "NULL" s = true ↔ SpellsNull s := by
  rw [spellsInCapitals, decide_eq_true_eq]
  exact flatMap_basicCapitals_eq_iff (by simp [IsOwnCapital]) _

/-- Only the two forms of the letter have `L` as their capital. -/
theorem eq_of_toUpper_eq {c : Char} (h : c.toUpper = 'L') : c = 'l' ∨ c = 'L' := by
  unfold Char.toUpper at h
  split at h
  · have hval := congrArg (·.val.toNat) h
    simp only [UInt32.toNat_add, UInt32.toNat_sub, Char.reduceVal, UInt32.reduceToNat] at hval
    have : c.val.toNat < 2 ^ 32 := c.val.toNat_lt
    have : c.val.toNat = 108 := by omega
    exact .inl (Char.ext (UInt32.toNat_inj.1 this))
  · exact .inr h

/-- The third letter of the word is no figure. -/
theorem not_spellsNull_of_isFigures {s : String} (h : IsFigures s) : ¬ SpellsNull s := by
  intro hs
  have hmem : 'L' ∈ s.toList.map Char.toUpper := hs ▸ (by decide)
  obtain ⟨c, hc, hupper⟩ := List.mem_map.1 hmem
  rcases eq_of_toUpper_eq hupper with rfl | rfl
  · exact ne_of_isFigure (h _ hc) (by decide) rfl
  · exact ne_of_isFigure (h _ hc) (by decide) rfl

end Text

/-! ## Literals -/

namespace Value

/-- A value that is null, a truth value, a number or a text. -/
def IsScalar : Value → Prop
  | .null | .bool _ | .int _ | .float _ | .decimal _ | .str _ => True
  | _ => False

/-- A number that is not finite, or a text that is a numeral only with digits of other scripts. -/
def IsStray : Value → Prop
  | .float (.finite ..) | .decimal (.finite ..) => False
  | .float _ | .decimal _ => True
  | .str s => Numeral isDecimalDigit s.toList ∧ ¬ Numeral Char.isDigit s.toList
  | _ => False

/-- The literals that stand for a value: NULL, a numeral of basic digits, or a string literal that
is read back as the text. -/
inductive StandsFor : Value → String → Prop where
  | null : StandsFor .null "NULL"
  | word {s} : SpellsNull s → StandsFor (.str s) "NULL"
  | bool (b : Bool) : StandsFor (.bool b) (if b then "1" else "0")
  | number {v : Value} : v.isNumber = true → Numeral Char.isDigit v.text.toList →
      StandsFor v v.text
  | numeral {s} : Numeral Char.isDigit s.toList → StandsFor (.str s) s
  | literal {s token body} : ¬ SpellsNull s → ¬ Numeral Char.isDigit s.toList →
      token.toList = stringQuote :: body →
      Table.readQuoted? stringQuote body = some (s.toList, []) → StandsFor (.str s) token

variable {v : Value} {s token : String}

/-! ### How a value is written -/

theorem defaultLiteral_bool (b : Bool) :
    (Value.bool b).defaultLiteral = if b then "1" else "0" := by
  cases b <;> decide

/-- No number spells NULL. -/
theorem not_spellsNull_text (h : v.isNumber = true) : ¬ SpellsNull v.text :=
  not_spellsNull_of_isFigures (isFigures_text h)

/-- A number is written as it is shown. -/
theorem defaultLiteral_of_isNumber (h : v.isNumber = true) : v.defaultLiteral = v.text := by
  have hnull : ¬ (v.isNull || spellsInCapitals "NULL" v.text) = true := by
    have : v.isNull = false := by cases v <;> first | rfl | cases h
    simpa [this, spellsInCapitals_null_iff] using not_spellsNull_text h
  unfold defaultLiteral
  rw [if_neg hnull]
  cases v <;> first | rfl | cases h

/-- A text that spells NULL stands for NULL as a default. -/
theorem defaultLiteral_of_spellsNull (h : SpellsNull s) : (Value.str s).defaultLiteral = "NULL" :=
  if_pos (by simp [spellsInCapitals_null_iff, h])

/-- Any other text is bare as a default where it looks like a numeral, and quoted where not. -/
theorem defaultLiteral_str (h : ¬ SpellsNull s) :
    (Value.str s).defaultLiteral = if isNumeral s.toList = true then s else quotedString s := by
  have hnull : ¬ ((Value.str s).isNull || spellsInCapitals "NULL" (Value.str s).text) = true := by
    simpa [isNull, spellsInCapitals_null_iff] using h
  unfold defaultLiteral
  rw [if_neg hnull]
  rfl

/-! ### Who is written as a literal -/

/-- A number is written as a numeral unless it is not finite. -/
theorem numeral_text_iff (h : v.isNumber = true) :
    Numeral Char.isDigit v.text.toList ↔ ¬ v.IsStray := by
  -- what stands as a numeral was recognized as one
  have hnot : ∀ {cs : List Char}, isNumeral cs = false → ¬ Numeral Char.isDigit cs := by
    intro cs hcs hn
    simp [isNumeral_of_numeral hn] at hcs
  -- infinities and undefined numbers are written as words
  cases v with
  | int n => exact iff_of_true (numeral_int n) id
  | float x =>
    cases x with
    | finite negative significand exponent =>
      exact iff_of_true (Binary64.numeral_text negative significand exponent) id
    | infinite negative =>
      have : isNumeral (Value.float (.infinite negative)).text.toList = false := by
        cases negative <;> decide
      exact iff_of_false (hnot this) fun h => h trivial
    | undefined origin =>
      have : isNumeral "nan".toList = false := by decide
      exact iff_of_false (hnot this) fun h => h trivial
  | decimal d =>
    cases d with
    | finite negative coefficient exponent =>
      exact iff_of_true (Decimal.numeral_text negative coefficient exponent) id
    | infinite negative =>
      have : isNumeral (Value.decimal (.infinite negative)).text.toList = false := by
        cases negative <;> decide
      exact iff_of_false (hnot this) fun h => h trivial
    | undefined negative signaling payload origin =>
      have : isNumeral (Value.decimal (.undefined negative signaling payload origin)).text.toList =
          false := by
        simp only [text, Decimal.text, String.toList_append]
        cases negative <;> cases signaling <;> rfl
      exact iff_of_false (hnot this) fun h => h trivial
  | _ => cases h

/-- What stands for a number is a numeral. -/
theorem StandsFor.numeral_of_isNumber (h : StandsFor v token) (hv : v.isNumber = true) :
    Numeral Char.isDigit token.toList := by
  cases h with
  | number _ hn => exact hn
  | _ => cases hv

/-- A text that stands for itself is a numeral. -/
theorem StandsFor.numeral_of_str (h : StandsFor (.str s) token) (htoken : token = s)
    (hs : isNumeral s.toList = true) : Numeral Char.isDigit s.toList := by
  subst htoken
  cases h with
  | word => cases (by decide : isNumeral "NULL".toList = false).symm.trans hs
  | number hv => cases hv
  | numeral hn => exact hn
  | literal _ _ htext =>
    rw [htext] at hs
    cases hs

/-- A string literal is read back. -/
theorem standsFor_quotedString (hnull : ¬ SpellsNull s)
    (hnumeral : ¬ Numeral Char.isDigit s.toList) : StandsFor (.str s) (quotedString s) :=
  .literal hnull hnumeral (toList_quotedString s) (Table.readQuoted?_doubled _ _ (by simp))

/-- A default is written as a literal that stands for it, unless it strays. -/
theorem standsFor_defaultLiteral_iff (hv : v.IsScalar) :
    StandsFor v v.defaultLiteral ↔ ¬ v.IsStray := by
  -- numbers are written bare, and stand for themselves if they are numerals
  have hnumber : ∀ {v : Value}, v.isNumber = true →
      (StandsFor v v.defaultLiteral ↔ ¬ v.IsStray) := by
    intro v h
    rw [defaultLiteral_of_isNumber h, ← numeral_text_iff h]
    exact ⟨fun hs => hs.numeral_of_isNumber h, .number h⟩
  cases v with
  | null => exact iff_of_true .null id
  | bool b => exact iff_of_true (defaultLiteral_bool b ▸ .bool b) id
  | int => exact hnumber rfl
  | float => exact hnumber rfl
  | decimal => exact hnumber rfl
  | str s =>
    -- a text that spells NULL is written as NULL, any other one bare or quoted
    by_cases hnull : SpellsNull s
    · rw [defaultLiteral_of_spellsNull hnull]
      have hs : ¬ isNumeral s.toList = true := fun hs =>
        not_spellsNull_of_isFigures (isFigures_of_isNumeral hs) hnull
      exact iff_of_true (.word hnull) fun hstray => hs (isNumeral_iff.2 hstray.1)
    rw [defaultLiteral_str hnull]
    by_cases hs : isNumeral s.toList = true
    · rw [if_pos hs]
      -- a bare text is a numeral in digits of some script, and strays unless they are basic
      have hany := isNumeral_iff.1 hs
      refine ⟨fun h hstray => hstray.2 (h.numeral_of_str rfl hs), fun h => .numeral ?_⟩
      by_contra hn
      exact h ⟨hany, hn⟩
    · rw [if_neg hs]
      refine iff_of_true (standsFor_quotedString hnull fun hn => hs (isNumeral_of_numeral hn)) ?_
      exact fun hstray => hs (isNumeral_iff.2 hstray.1)
  | _ => cases hv

/-- What strays is written as it is. -/
theorem defaultLiteral_of_isStray (h : v.IsStray) : v.defaultLiteral = v.text := by
  cases v with
  | float => exact defaultLiteral_of_isNumber rfl
  | decimal => exact defaultLiteral_of_isNumber rfl
  | str s =>
    have hs := isNumeral_iff.2 h.1
    rw [defaultLiteral_str (not_spellsNull_of_isFigures (isFigures_of_isNumeral hs)), if_pos hs,
      text_str]
  | _ => cases h

/-- NULL is written for null and for the word only. -/
theorem defaultLiteral_eq_null_iff (hv : v.IsScalar) :
    v.defaultLiteral = "NULL" ↔ v = .null ∨ ∃ s, v = .str s ∧ SpellsNull s := by
  -- no number is written like the word
  have hnumber : ∀ {v : Value}, v.isNumber = true → v.defaultLiteral ≠ "NULL" := by
    intro v h htext
    rw [defaultLiteral_of_isNumber h] at htext
    exact not_spellsNull_text h (htext ▸ by decide)
  cases v with
  | null => exact iff_of_true rfl (.inl rfl)
  | bool b => exact iff_of_false (by cases b <;> decide) (by simp)
  | int => exact iff_of_false (hnumber rfl) (by simp)
  | float => exact iff_of_false (hnumber rfl) (by simp)
  | decimal => exact iff_of_false (hnumber rfl) (by simp)
  | str s =>
    by_cases hnull : SpellsNull s
    · exact iff_of_true (defaultLiteral_of_spellsNull hnull) (.inr ⟨s, rfl, hnull⟩)
    refine iff_of_false ?_ (by simpa using hnull)
    rw [defaultLiteral_str hnull]
    split
    · rintro rfl
      exact hnull (by decide)
    · intro h
      -- a literal starts with a quote
      have := congrArg String.toList h
      rw [toList_quotedString] at this
      cases this
  | _ => cases hv

end Value

/-! ## Blueprints -/

namespace Table

/-- The definition of a key goes on with a text, and nothing else in the blueprint is changed. -/
structure GoesOn (key text : String) (b b' : Blueprint) : Prop where
  definition : b'.definitions.get? key = (b.definitions.get? key).map (· ++ text)
  others : ∀ other, other ≠ key → b'.definitions.get? other = b.definitions.get? other
  keys : b'.definitions.map Prod.fst = b.definitions.map Prod.fst
  rest : b' = { b with definitions := b'.definitions }

/-- Text added to a definition goes on where the definition ended. -/
theorem goesOn_edit {key definition : String} {b : Blueprint}
    (hkey : b.definitions.get? key = some definition) (text : String) :
    GoesOn key text b (b.edit key fun _ => definition ++ text) where
  definition := by simp [Blueprint.edit, Definitions.get?_edit, hkey]
  others other hother := by simp [Blueprint.edit, Definitions.get?_edit, hother]
  keys := Definitions.keys_edit b.definitions key fun _ => definition ++ text
  rest := rfl

/-- A default on a blueprint with a target puts one token behind the definition of the target. The
token is NULL for null and for the word only. It is a literal that stands for the value, unless the
value strays and is written as it is. -/
theorem default_appends_token {b : Blueprint} {key : String} (hkey : b.editable? = some key)
    {v : Value} (hv : v.IsScalar) :
    ∃ b' token, (BlueprintCall.editTarget (.default v)).run b = .ok .itself b' ∧
      (b.definitions.get? key).isSome ∧ GoesOn key (" DEFAULT " ++ token) b b' ∧
      (token = "NULL" ↔ v = .null ∨ ∃ s, v = .str s ∧ SpellsNull s) ∧
      (v.StandsFor token ↔ ¬ v.IsStray) ∧ (v.IsStray → token = v.text) := by
  -- the target of a modifier has a definition
  obtain ⟨definition, hdefinition⟩ : ∃ definition, b.definitions.get? key = some definition := by
    have := (Option.filter_eq_some_iff.1 hkey).2
    exact Option.isSome_iff_exists.1 this
  refine ⟨_, v.defaultLiteral, run_amend (.default v) b, by simp [hdefinition], ?_,
    Value.defaultLiteral_eq_null_iff hv, Value.standsFor_defaultLiteral_iff hv,
    Value.defaultLiteral_of_isStray⟩
  have hamended : amended b (.default v) =
      b.edit key fun _ => definition ++ (" DEFAULT " ++ v.defaultLiteral) := by
    simp only [amended, hkey, hdefinition]
    rfl
  rw [hamended]
  exact goesOn_edit hdefinition _

example : (Value.str "\u0663").defaultLiteral = "\u0663" := by decide

/-- A column with a default that needs its quote doubled. -/
theorem default_appends_token_quote :
    let b : Blueprint := { table := .str "t", definitions := [("a", "x")], target := some "a" }
    b.editable? = some "a" ∧ (Value.str "it's").IsScalar ∧
      ∃ b' token, (BlueprintCall.editTarget (.default (.str "it's"))).run b = .ok .itself b' ∧
        (b.definitions.get? "a").isSome ∧ GoesOn "a" (" DEFAULT " ++ token) b b' ∧
        (token = "NULL" ↔
          Value.str "it's" = .null ∨ ∃ s, Value.str "it's" = .str s ∧ SpellsNull s) ∧
        ((Value.str "it's").StandsFor token ↔ ¬ (Value.str "it's").IsStray) ∧
        ((Value.str "it's").IsStray → token = (Value.str "it's").text) :=
  ⟨rfl, trivial, default_appends_token rfl trivial⟩

end Table

end Querysmith
