import Querysmith.Query.Condition

/-!
# The grammar of clauses

    expression = phrase (AND|OR phrase)*
    phrase     = leaf | '(' expression ')'

A leaf is a text of words with one space between neighbours, none of which is a connective or
holds a parenthesis. `Expression.written` spells a tree of this grammar, and `read` finds the
tree of a text: the text is cut into tokens, and a machine with one frame for each open
parenthesis takes the tokens one by one.

## Key results

- `run_expression`: the tokens of an expression leave the machine with that expression
- `read_eq_some_iff`: `read` finds exactly the trees that spell the text
-/

namespace Querysmith.Clause

open Text

/-! ## Words and leaf texts -/

/-- What attaches a phrase to the phrases before it. -/
inductive Connective where
  | and
  | or
  deriving DecidableEq, Repr

/-- A connective as a clause writes it. -/
def Connective.text : Connective → String
  | .and => "AND"
  | .or => "OR"

/-- The characters that end a word. -/
def isDelimiter (c : Char) : Bool := c = ' ' || c = '(' || c = ')'

/-- A word of a leaf. -/
structure IsPlainWord (word : String) : Prop where
  ne_empty : word ≠ ""
  no_delimiter : ∀ c ∈ word.toList, isDelimiter c = false
  ne_connective : ∀ c : Connective, word ≠ c.text

/-- A text made of words with one space between neighbours. -/
def IsLeafText (text : String) : Prop :=
  ∃ words, words ≠ [] ∧ (∀ w ∈ words, IsPlainWord w) ∧ text = joined " " words

/-- A text in front of texts that are appended one after the other. -/
theorem append_foldl_append (separator a b : String) (rest : List String) :
    a ++ rest.foldl (fun s t => s ++ separator ++ t) b
      = rest.foldl (fun s t => s ++ separator ++ t) (a ++ b) := by
  induction rest generalizing b with
  | nil => rfl
  | cons t rest ih => rw [List.foldl_cons, ih, List.foldl_cons, ← String.append_assoc,
      ← String.append_assoc]

/-- Joining appends from the left. -/
theorem joined_cons_eq_foldl (separator text : String) (rest : List String) :
    joined separator (text :: rest) = rest.foldl (fun s t => s ++ separator ++ t) text := by
  induction rest generalizing text with
  | nil => rfl
  | cons t rest ih => rw [joined_cons_cons, ih t, append_foldl_append, List.foldl_cons]

/-- A leaf text with one more word is a leaf text. -/
theorem IsLeafText.snoc {text word : String} (htext : IsLeafText text) (hword : IsPlainWord word) :
    IsLeafText (text ++ " " ++ word) := by
  obtain ⟨words, hne, hwords, rfl⟩ := htext
  obtain ⟨first, rest, rfl⟩ := List.exists_cons_of_ne_nil hne
  refine ⟨first :: (rest ++ [word]), by simp, ?_, ?_⟩
  · intro w hw
    have : w ∈ first :: rest ∨ w = word := by simpa [or_assoc] using hw
    rcases this with hw | rfl
    · exact hwords w hw
    · exact hword
  · simp [joined_cons_eq_foldl]

/-- A single word is a text for a leaf. -/
theorem IsPlainWord.isLeafText {word : String} (h : IsPlainWord word) : IsLeafText word :=
  ⟨[word], by simp, by simpa using h, rfl⟩

/-! ## Trees and what they write -/

mutual
/-- One operand of a clause. -/
inductive Phrase where
  | leaf (text : String)
  | group (inner : Expression)
/-- Operands with a connective between neighbours, as they come from the left. -/
inductive Expression where
  | only (phrase : Phrase)
  | link (before : Expression) (connective : Connective) (phrase : Phrase)
end

mutual
/-- The text of an operand. -/
def Phrase.written : Phrase → String
  | .leaf text => text
  | .group inner => "(" ++ inner.written ++ ")"
/-- The text of an expression. -/
def Expression.written : Expression → String
  | .only phrase => phrase.written
  | .link before connective phrase =>
    before.written ++ " " ++ connective.text ++ " " ++ phrase.written
end

mutual
/-- Whether every leaf of an operand has a leaf text. -/
def Phrase.IsPlain : Phrase → Prop
  | .leaf text => IsLeafText text
  | .group inner => inner.IsPlain
/-- Whether every leaf of an expression has a leaf text. -/
def Expression.IsPlain : Expression → Prop
  | .only phrase => phrase.IsPlain
  | .link before _ phrase => before.IsPlain ∧ phrase.IsPlain
end

/-- An expression reads a text: it is a tree of the grammar, and it writes the text. -/
def Expression.Reads (e : Expression) (text : String) : Prop := e.IsPlain ∧ e.written = text

/-! ## Tokens -/

/-- The tokens of a clause. -/
inductive Token where
  | opening
  | closing
  | connective (c : Connective)
  | word (text : String)
  deriving DecidableEq

/-- The characters of one word as tokens; no characters are no word. -/
def wordTokens (word : List Char) : List Token :=
  if word = [] then []
  else if String.ofList word = Connective.and.text then [.connective .and]
  else if String.ofList word = Connective.or.text then [.connective .or]
  else [.word (String.ofList word)]

/-- The token that a delimiter is; a space is none. -/
def delimiterTokens (c : Char) : List Token :=
  if c = '(' then [.opening] else if c = ')' then [.closing] else []

/-- The tokens of a text, behind the characters of a word that has begun. -/
def tokensFrom (word : List Char) : List Char → List Token
  | [] => wordTokens word
  | c :: rest =>
    if isDelimiter c then wordTokens word ++ delimiterTokens c ++ tokensFrom [] rest
    else tokensFrom (word ++ [c]) rest

/-- The tokens of a text. -/
def tokens (text : String) : List Token := tokensFrom [] text.toList

/-- A delimiter ends the word before it, so that the text falls apart there. -/
theorem tokensFrom_append_delimiter {d : Char} (hd : isDelimiter d = true)
    (before after word : List Char) :
    tokensFrom word (before ++ d :: after)
      = tokensFrom word before ++ delimiterTokens d ++ tokensFrom [] after := by
  induction before generalizing word with
  | nil => simp [tokensFrom, hd]
  | cons c before ih =>
    by_cases hc : isDelimiter c = true
    · simp [tokensFrom, hc, ih]
    · simp [tokensFrom, hc, ih]

/-- A space only separates. -/
theorem tokens_append_space (before after : String) :
    tokens (before ++ " " ++ after) = tokens before ++ tokens after := by
  have h := tokensFrom_append_delimiter (d := ' ') rfl before.toList after.toList []
  simpa [tokens, delimiterTokens] using h

/-- Parentheses around a text are a token each. -/
theorem tokens_parenthesized (inner : String) :
    tokens ("(" ++ inner ++ ")") = .opening :: (tokens inner ++ [.closing]) := by
  have hopen := tokensFrom_append_delimiter (d := '(') rfl [] (inner.toList ++ [')']) []
  have hclose := tokensFrom_append_delimiter (d := ')') rfl inner.toList [] []
  simpa [tokens, delimiterTokens, tokensFrom, wordTokens, hclose] using hopen

/-- A connective is one token. -/
@[simp] theorem tokens_connective (c : Connective) : tokens c.text = [.connective c] := by
  cases c <;> decide +kernel

/-- A plain word is one token. -/
theorem IsPlainWord.tokens {word : String} (h : IsPlainWord word) : tokens word = [.word word] := by
  -- characters that end no word are gathered up to the last one
  have through : ∀ (rest acc : List Char), (∀ c ∈ rest, isDelimiter c = false) →
      tokensFrom acc rest = wordTokens (acc ++ rest) := by
    intro rest
    induction rest with
    | nil => intro acc _; simp [tokensFrom]
    | cons c rest ih =>
      intro acc hrest
      rw [tokensFrom, if_neg (by simp [hrest c (by simp)]), ih _ fun d hd => hrest d (by simp [hd])]
      simp
  have hne : word.toList ≠ [] := by simpa using h.ne_empty
  rw [Clause.tokens, through _ _ h.no_delimiter]
  simp [wordTokens, h.ne_empty, h.ne_connective]

/-- The words of a leaf text are its tokens. -/
theorem tokens_joined {words : List String} (hne : words ≠ []) (h : ∀ w ∈ words, IsPlainWord w) :
    tokens (joined " " words) = words.map .word := by
  induction words with
  | nil => exact absurd rfl hne
  | cons first rest ih =>
    cases rest with
    | nil => simpa using (h first (by simp)).tokens
    | cons second rest =>
      rw [joined_cons_cons, tokens_append_space, (h first (by simp)).tokens,
        ih (by simp) fun w hw => h w (by simp [hw])]
      rfl

/-- The word that was collected is plain, when it is no connective. -/
theorem isPlainWord_of_mem_wordTokens {acc : List Char} {word : String}
    (hacc : ∀ c ∈ acc, isDelimiter c = false) (h : .word word ∈ wordTokens acc) :
    IsPlainWord word := by
  unfold wordTokens at h
  by_cases hne : acc = []
  · simp [hne] at h
  -- what was collected is a word unless it is one of the two connectives
  by_cases hand : String.ofList acc = Connective.and.text
  · simp [hne, hand] at h
  by_cases hor : String.ofList acc = Connective.or.text
  · simp [hne, hor, Connective.text] at h
  obtain rfl : word = String.ofList acc := by simpa [hne, hand, hor] using h
  refine ⟨by simpa using hne, by simpa using hacc, ?_⟩
  rintro (_ | _)
  · exact hand
  · exact hor

/-- No delimiter is a word. -/
theorem word_not_mem_delimiterTokens (word : String) (c : Char) :
    .word word ∉ delimiterTokens c := by
  unfold delimiterTokens
  by_cases hopen : c = '('
  · simp [hopen]
  · by_cases hclose : c = ')' <;> simp [hopen, hclose]

/-- Every word among the tokens of a text is plain. -/
theorem isPlainWord_of_mem_tokensFrom {rest acc : List Char} {word : String}
    (hacc : ∀ c ∈ acc, isDelimiter c = false) (h : .word word ∈ tokensFrom acc rest) :
    IsPlainWord word := by
  induction rest generalizing acc with
  | nil => exact isPlainWord_of_mem_wordTokens hacc h
  | cons c rest ih =>
    rw [tokensFrom] at h
    by_cases hc : isDelimiter c = true
    · rw [if_pos hc, List.mem_append, List.mem_append] at h
      -- the word was collected before the delimiter, or is read behind it
      rcases h with (h | h) | h
      · exact isPlainWord_of_mem_wordTokens hacc h
      · exact absurd h (word_not_mem_delimiterTokens word c)
      · exact ih (by simp) h
    · rw [if_neg hc] at h
      -- the character joins what was collected, which stays without delimiters
      refine ih (fun d hd => ?_) h
      rcases List.mem_append.mp hd with hd | hd
      · exact hacc d hd
      · simpa [List.mem_singleton.mp hd] using hc

/-- The words among the tokens of any text are plain. -/
theorem isPlainWord_of_mem_tokens {text word : String} (h : .word word ∈ tokens text) :
    IsPlainWord word :=
  isPlainWord_of_mem_tokensFrom (by simp) h

/-! ## The machine -/

/-- What has been read since a parenthesis opened: the phrases that a connective has sealed,
with that connective, and the phrase that stands last. -/
structure Frame where
  before : Option (Expression × Connective)
  phrase : Option Phrase

namespace Frame

/-- A frame of which nothing has been read. -/
def fresh : Frame := ⟨none, none⟩

/-- What a frame has read, when no phrase is due. -/
def expression? : Frame → Option Expression
  | ⟨none, some p⟩ => some (.only p)
  | ⟨some (e, c), some p⟩ => some (.link e c p)
  | ⟨_, none⟩ => none

end Frame

/-- The machine takes one token. -/
def step : Token → List Frame → Option (List Frame)
  | .word w, ⟨before, none⟩ :: frames => some (⟨before, some (.leaf w)⟩ :: frames)
  | .word w, ⟨before, some (.leaf text)⟩ :: frames =>
    some (⟨before, some (.leaf (text ++ " " ++ w))⟩ :: frames)
  | .connective c, frame :: frames =>
    frame.expression?.map fun e => ⟨some (e, c), none⟩ :: frames
  | .opening, ⟨before, none⟩ :: frames => some (.fresh :: ⟨before, none⟩ :: frames)
  | .closing, frame :: ⟨before, none⟩ :: frames =>
    frame.expression?.map fun e => ⟨before, some (.group e)⟩ :: frames
  | _, _ => none

/-- The machine takes tokens in order. -/
def run : List Token → List Frame → Option (List Frame)
  | [], frames => some frames
  | t :: rest, frames => (step t frames).bind (run rest)

/-- Tokens are read one after the other. -/
theorem run_append (ts us : List Token) (frames : List Frame) :
    run (ts ++ us) frames = (run ts frames).bind (run us) := by
  induction ts generalizing frames with
  | nil => rfl
  | cons t ts ih =>
    simp only [List.cons_append, run, Option.bind_assoc]
    exact congrArg _ (funext ih)

/-- The expression of a text: what the machine reads from its tokens, provided it writes the
text. -/
def read (text : String) : Option Expression :=
  match run (tokens text) [.fresh] with
  | some [frame] => frame.expression?.filter fun e => e.written = text
  | _ => none

/-! ## Every expression is found -/

/-- The frame that has read an expression. -/
def Expression.frame : Expression → Frame
  | .only p => ⟨none, some p⟩
  | .link e c p => ⟨some (e, c), some p⟩

/-- An expression is read off the frame that holds it. -/
@[simp] theorem Expression.frame_expression? (e : Expression) : e.frame.expression? = some e := by
  cases e <;> rfl

/-- Words behind a leaf are added to its text. -/
theorem run_words (words : List String) (before : Option (Expression × Connective))
    (text : String) (frames : List Frame) :
    run (words.map .word) (⟨before, some (.leaf text)⟩ :: frames)
      = some (⟨before, some (.leaf (joined " " (text :: words)))⟩ :: frames) := by
  induction words generalizing text with
  | nil => rfl
  | cons w words ih =>
    simp only [List.map_cons, run, step, Option.bind_some, ih]
    simp [joined_cons_eq_foldl]

mutual
/-- The tokens of an operand leave it in the frame that was waiting for one. -/
theorem run_phrase (p : Phrase) (h : p.IsPlain) (before : Option (Expression × Connective))
    (frames : List Frame) :
    run (tokens p.written) (⟨before, none⟩ :: frames) = some (⟨before, some p⟩ :: frames) := by
  cases p with
  | leaf text =>
    obtain ⟨words, hne, hwords, rfl⟩ : IsLeafText text := h
    rw [Phrase.written, tokens_joined hne hwords]
    -- the first word begins the leaf, and the machine adds the others to it
    obtain ⟨first, rest, rfl⟩ := List.exists_cons_of_ne_nil hne
    simpa [run, step] using run_words rest before first frames
  | group inner =>
    rw [Phrase.written, tokens_parenthesized, run, step, Option.bind_some, run_append,
      run_expression inner h]
    simp [run, step]
/-- The tokens of an expression leave it in a frame of which nothing had been read. -/
theorem run_expression (e : Expression) (h : e.IsPlain) (frames : List Frame) :
    run (tokens e.written) (.fresh :: frames) = some (e.frame :: frames) := by
  cases e with
  | only p => exact run_phrase p h none frames
  | link before c p =>
    obtain ⟨hbefore, hp⟩ := h
    rw [Expression.written, tokens_append_space, tokens_append_space, tokens_connective,
      run_append, run_append, run_expression before hbefore]
    -- the connective seals what was read before it, and the frame waits for one more operand
    simp only [Option.bind_some, run, step, Expression.frame_expression?, Option.map_some]
    exact run_phrase p hp (some (before, c)) frames
end

/-- What is written is read back. -/
theorem read_written {e : Expression} (h : e.IsPlain) : read e.written = some e := by
  simp [read, run_expression e h []]

/-- An expression has some text. -/
theorem Expression.written_ne_empty {e : Expression} (h : e.IsPlain) : e.written ≠ "" := by
  intro hempty
  have hrun : run (tokens "") [.fresh] = some [e.frame] := hempty ▸ run_expression e h []
  -- no tokens leave the machine as it was, with nothing read
  have hframe : Frame.fresh = e.frame := by simpa [tokens, tokensFrom, wordTokens, run] using hrun
  have := e.frame_expression?
  rw [← hframe] at this
  cases this

/-- The word that a text begins with, up to the first space or parenthesis. -/
def openingWord (text : String) : String :=
  String.ofList (text.toList.takeWhile fun c => !isDelimiter c)

/-- A text that opens with a connective has it as its first token. -/
theorem tokens_of_openingWord {text : String} {c : Connective} (h : openingWord text = c.text) :
    ∃ rest, tokens text = .connective c :: rest := by
  have hword : text.toList.takeWhile (fun c => !isDelimiter c) = c.text.toList := by
    rw [← h, openingWord, String.toList_ofList]
  -- the text is its first word and a rest that is empty or starts with a delimiter
  have hsplit := List.takeWhile_append_dropWhile (p := fun c => !isDelimiter c) (l := text.toList)
  have hc : tokensFrom [] c.text.toList = [.connective c] := tokens_connective c
  cases hdrop : text.toList.dropWhile (fun c => !isDelimiter c) with
  | nil =>
    rw [hdrop, hword, List.append_nil] at hsplit
    exact ⟨[], by rw [tokens, ← hsplit, hc]⟩
  | cons d after =>
    -- the rest starts where the word ended, at the first delimiter
    have hd : isDelimiter d = true := by
      have := List.head_dropWhile_not (fun c => !isDelimiter c) (by rw [hdrop]; simp)
      simpa [hdrop] using this
    rw [hdrop, hword] at hsplit
    exact ⟨delimiterTokens d ++ tokensFrom [] after, by
      rw [tokens, ← hsplit, tokensFrom_append_delimiter hd, hc]; rfl⟩

/-- No expression begins with a connective: the machine takes none before a phrase. -/
theorem Expression.openingWord_written_ne {e : Expression} (h : e.IsPlain) (c : Connective) :
    openingWord e.written ≠ c.text := by
  intro hopening
  obtain ⟨rest, htokens⟩ := tokens_of_openingWord hopening
  have hrun := run_expression e h []
  rw [htokens] at hrun
  cases hrun

/-! ## Nothing else is found -/

/-- Whether everything in a frame has leaf texts only. -/
structure Frame.IsPlain (f : Frame) : Prop where
  before : ∀ e c, f.before = some (e, c) → e.IsPlain
  phrase : ∀ p, f.phrase = some p → p.IsPlain

/-- The expression of a plain frame is plain. -/
theorem Frame.IsPlain.expression {f : Frame} (h : f.IsPlain) {e : Expression}
    (he : f.expression? = some e) : e.IsPlain := by
  obtain ⟨before, phrase⟩ := f
  cases phrase with
  | none => cases before <;> simp [Frame.expression?] at he
  | some p =>
    have hp : p.IsPlain := h.phrase p rfl
    cases before with
    | none => cases he; exact hp
    | some b => cases he; exact ⟨h.before _ _ rfl, hp⟩

/-- A token leaves plain frames plain. -/
theorem step_isPlain {t : Token} {frames after : List Frame}
    (ht : ∀ w, t = .word w → IsPlainWord w) (h : ∀ f ∈ frames, f.IsPlain)
    (hstep : step t frames = some after) : ∀ f ∈ after, f.IsPlain := by
  unfold step at hstep
  -- every frame is plain, and a token changes the first one or two of them
  split at hstep
  case h_1 w before rest =>
    cases hstep
    obtain ⟨hf, hrest⟩ := List.forall_mem_cons.mp h
    refine List.forall_mem_cons.mpr ⟨⟨hf.before, ?_⟩, hrest⟩
    rintro p ⟨⟩
    exact (ht w rfl).isLeafText
  -- a further word is added to the leaf that is being read
  case h_2 w before text rest =>
    cases hstep
    obtain ⟨hf, hrest⟩ := List.forall_mem_cons.mp h
    refine List.forall_mem_cons.mpr ⟨⟨hf.before, ?_⟩, hrest⟩
    rintro p ⟨⟩
    exact (hf.phrase _ rfl : IsLeafText text).snoc (ht w rfl)
  -- a connective finishes the phrase in front of it
  case h_3 c frame rest =>
    obtain ⟨e, he, rfl⟩ := Option.map_eq_some_iff.mp hstep
    obtain ⟨hf, hrest⟩ := List.forall_mem_cons.mp h
    refine List.forall_mem_cons.mpr ⟨⟨?_, by simp⟩, hrest⟩
    rintro _ _ ⟨⟩
    exact hf.expression he
  case h_4 before rest =>
    cases hstep
    exact List.forall_mem_cons.mpr ⟨⟨by simp [Frame.fresh], by simp [Frame.fresh]⟩, h⟩
  -- a closing parenthesis makes the inner frame a phrase of the outer one
  case h_5 frame before rest =>
    obtain ⟨e, he, rfl⟩ := Option.map_eq_some_iff.mp hstep
    obtain ⟨hf, hrest⟩ := List.forall_mem_cons.mp h
    obtain ⟨hg, hrest⟩ := List.forall_mem_cons.mp hrest
    refine List.forall_mem_cons.mpr ⟨⟨hg.before, ?_⟩, hrest⟩
    rintro p ⟨⟩
    exact (hf.expression he : e.IsPlain)
  case h_6 => cases hstep

/-- Tokens leave plain frames plain. -/
theorem run_isPlain {ts : List Token} {frames after : List Frame}
    (hts : ∀ w, .word w ∈ ts → IsPlainWord w) (h : ∀ f ∈ frames, f.IsPlain)
    (hrun : run ts frames = some after) : ∀ f ∈ after, f.IsPlain := by
  induction ts generalizing frames with
  | nil => cases hrun; exact h
  | cons t ts ih =>
    obtain ⟨next, hnext, hrest⟩ := Option.bind_eq_some_iff.mp hrun
    have hplain := step_isPlain (fun w hw => hts w (by simp [hw])) h hnext
    exact ih (fun w hw => hts w (by simp [hw])) hplain hrest

/-- A text that the reader accepts is one that the grammar allows. -/
theorem reads_of_read {text : String} {e : Expression} (h : read text = some e) : e.Reads text := by
  unfold read at h
  split at h
  · next frame hrun =>
    obtain ⟨hframe, hwritten⟩ := Option.filter_eq_some_iff.mp h
    have hplain := run_isPlain (fun w => isPlainWord_of_mem_tokens)
      (by simpa using ⟨by simp [Frame.fresh], by simp [Frame.fresh]⟩) hrun
    exact ⟨(hplain frame (by simp)).expression hframe, by simpa using hwritten⟩
  · cases h

/-- Reading finds exactly the trees of the grammar that spell the text. -/
theorem read_eq_some_iff {text : String} {e : Expression} : read text = some e ↔ e.Reads text := by
  refine ⟨reads_of_read, ?_⟩
  rintro ⟨hplain, rfl⟩
  exact read_written hplain

end Querysmith.Clause
