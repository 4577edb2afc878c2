import Querysmith.Proofs.Column.Figures
import Querysmith.Proofs.Table.Plan

/-!
# Reading statements back

A lexer that knows quoted names and string literals, and nothing else of SQL, finds in the
statements of a blueprint exactly the texts that the caller supplied: the name of the table, and
the names and literals of each entry, in order and as they were given. No text gets out of its
quotes, since inside each delimiter is doubled and no quoted text abuts one with the same
delimiter.

## Main definitions

- `lex`: the quoted names and the literals of a text
- `Entry.tokens`: the texts that a caller supplied for an entry
- `Reads`: a part of a statement is read by itself

## Key results

- `reads_name`, `reads_literal`: a quoted text is read back
- `Entry.reads`: so are the texts of an entry
- `statements_readAs`: and those of a whole statement
-/

namespace Querysmith.Table

open Text

/-! ## The lexer -/

/-- A text between quotes, as it was before it was quoted. -/
inductive Token where
  | name (text : String)
  | literal (text : String)
  deriving DecidableEq, Repr

/-- The token that a delimiter opens. -/
def opened? (c : Char) : Option (String → Token) :=
  if c = nameQuote then some .name
  else if c = stringQuote then some .literal
  else none

/-- The text up to a closing delimiter, a doubled one read as one, and what follows. -/
def readQuoted? (delimiter : Char) : List Char → Option (List Char × List Char)
  | [] => none
  | c :: rest =>
    if c = delimiter then
      match rest with
      | [] => some ([], [])
      | d :: rest' =>
        if d = delimiter then
          (readQuoted? delimiter rest').map fun (body, after) => (delimiter :: body, after)
        else some ([], d :: rest')
    else (readQuoted? delimiter rest).map fun (body, after) => (c :: body, after)

/-- Reading a quoted part uses up characters. -/
theorem length_lt_of_readQuoted? {delimiter : Char} {cs body after : List Char}
    (h : readQuoted? delimiter cs = some (body, after)) : after.length < cs.length := by
  fun_induction readQuoted? delimiter cs generalizing body with
  | case1 => cases h
  | case2 => cases h; simp
  -- a doubled delimiter goes on, a single one ends the part
  | case3 rest' ih =>
    obtain ⟨⟨inner, _⟩, hinner, heq⟩ := Option.map_eq_some_iff.mp h
    cases heq
    have := ih hinner
    simp only [List.length_cons]
    omega
  | case4 => cases h; simp
  | case5 c rest hc ih =>
    obtain ⟨⟨inner, _⟩, hinner, heq⟩ := Option.map_eq_some_iff.mp h
    cases heq
    have := ih hinner
    simp only [List.length_cons]
    omega

/-- The quoted names and the literals of a text, in order; none when the text ends inside one. -/
def lex : List Char → Option (List Token)
  | [] => some []
  | c :: rest =>
    match opened? c with
    | none => lex rest
    | some token =>
      match h : readQuoted? c rest with
      | none => none
      | some (body, after) =>
        have := length_lt_of_readQuoted? h
        (lex after).map (token (String.ofList body) :: ·)
termination_by cs => cs.length

/-- A doubled text is read back up to its closing delimiter, unless what follows starts with one
more. -/
theorem readQuoted?_doubled (delimiter : Char) (cs : List Char) {rest : List Char}
    (hrest : rest.head? ≠ some delimiter) :
    readQuoted? delimiter (doubled delimiter cs ++ delimiter :: rest) = some (cs, rest) := by
  induction cs with
  | nil =>
    cases rest with
    | nil => simp [doubled, readQuoted?]
    | cons d rest =>
      have : ¬ d = delimiter := by simpa using hrest
      simp [doubled, readQuoted?, this]
  | cons c cs ih =>
    -- each delimiter of the content is doubled, and read as one
    by_cases hc : c = delimiter
    · subst hc
      simp [doubled, readQuoted?, ih]
    · rw [doubled, if_neg hc, List.cons_append, readQuoted?.eq_def]
      simp [hc, ih]

/-! ## Parts of a statement -/

/-- Nothing, or a text that starts with no delimiter. -/
def IsClear : List Char → Prop
  | [] => True
  | c :: _ => opened? c = none

/-- A text without delimiters. -/
def IsBare (cs : List Char) : Prop := ∀ c ∈ cs, opened? c = none

instance : DecidablePred IsBare := List.decidableBAll fun c => opened? c = none

/-- A part of a statement is read by itself, where what follows starts with no delimiter. -/
def Reads (cs : List Char) (tokens : List Token) : Prop :=
  ∀ rest, IsClear rest → lex (cs ++ rest) = (lex rest).map (tokens ++ ·)

theorem IsClear.append {cs rest : List Char} (h : IsClear cs) (hrest : IsClear rest) :
    IsClear (cs ++ rest) := by
  cases cs with
  | nil => exact hrest
  | cons => exact h

/-- A clear text does not start with a delimiter. -/
theorem IsClear.head?_ne {cs : List Char} (h : IsClear cs) {delimiter : Char}
    (hdelimiter : opened? delimiter ≠ none) : cs.head? ≠ some delimiter := by
  cases cs with
  | nil => simp
  | cons c cs =>
    rintro ⟨⟩
    exact hdelimiter h

theorem lex_bare {cs : List Char} (h : IsBare cs) (rest : List Char) :
    lex (cs ++ rest) = lex rest := by
  induction cs with
  | nil => rfl
  | cons c cs ih =>
    rw [List.cons_append, lex, h c List.mem_cons_self]
    exact ih fun d hd => h d (List.mem_cons_of_mem c hd)

/-- A quoted text is read back. -/
theorem reads_quoted {delimiter : Char} {token : String → Token}
    (hdelimiter : opened? delimiter = some token) (s : String) :
    Reads (quoted delimiter s).toList [token s] := by
  intro rest hrest
  have hread := readQuoted?_doubled delimiter s.toList
    (hrest.head?_ne (by simp [hdelimiter] : opened? delimiter ≠ none))
  have hquoted : (quoted delimiter s).toList ++ rest =
      delimiter :: (doubled delimiter s.toList ++ delimiter :: rest) := by simp [quoted]
  -- the delimiter opens the token, and the first one that is not doubled closes it
  rw [hquoted, lex, hdelimiter]
  dsimp only
  split
  · next h => rw [hread] at h; cases h
  · next body after h =>
    obtain ⟨rfl, rfl⟩ := Prod.mk.inj (Option.some.inj (hread.symm.trans h))
    simp

theorem reads_name (s : String) : Reads (quotedName s).toList [.name s] := reads_quoted rfl s

theorem reads_literal (s : String) : Reads (quotedString s).toList [.literal s] :=
  reads_quoted rfl s

namespace Reads

variable {cs ds : List Char} {ts us : List Token}

theorem nil : Reads [] [] := fun _ _ => by simp

/-- Parts one behind the other. -/
theorem append (hc : Reads cs ts) (hd : Reads ds us) (hclear : IsClear ds) :
    Reads (cs ++ ds) (ts ++ us) := by
  intro rest hrest
  rw [List.append_assoc, hc _ (hclear.append hrest), hd _ hrest, Option.map_map]
  refine congrArg (fun f => (lex rest).map f) (funext fun vs => ?_)
  simp

/-- A part behind a text without delimiters. -/
theorem bare (h : IsBare cs) (hd : Reads ds us) : Reads (cs ++ ds) us := by
  intro rest hrest
  rw [List.append_assoc, lex_bare h, hd _ hrest]

theorem of_bare (h : IsBare cs) : Reads cs [] := fun rest _ => by
  rw [lex_bare h]
  simp

/-- A part with nothing behind it. -/
theorem lex_eq (h : Reads cs ts) : lex cs = some ts := by
  have := h [] trivial
  simpa [lex] using this

/-- The parts of a list, each starting with no delimiter. -/
theorem flatMap {α : Type} (text : α → List Char) (tokens : α → List Token) {l : List α}
    (h : ∀ a ∈ l, IsClear (text a) ∧ Reads (text a) (tokens a)) :
    Reads (l.flatMap text) (l.flatMap tokens) ∧ IsClear (l.flatMap text) := by
  induction l with
  | nil => exact ⟨nil, trivial⟩
  | cons a l ih =>
    obtain ⟨hclear, hreads⟩ := h a List.mem_cons_self
    obtain ⟨hrest, hrestclear⟩ := ih fun b hb => h b (List.mem_cons_of_mem a hb)
    exact ⟨hreads.append hrest hrestclear, hclear.append hrestclear⟩

/-- The parts of a list behind one another, with a fixed text between them. -/
theorem joined {α : Type} {separator : String} (hbare : IsBare separator.toList)
    (hclear : ∀ rest, IsClear (separator.toList ++ rest)) {text : α → String}
    {tokens : α → List Token} (h : ∀ a, Reads (text a).toList (tokens a)) (l : List α) :
    Reads (joined separator (l.map text)).toList (l.flatMap tokens) := by
  cases l with
  | nil => exact nil
  | cons a l =>
    obtain ⟨hrest, hrestclear⟩ := flatMap (fun b => separator.toList ++ (text b).toList) tokens
      (l := l) fun b _ => ⟨hclear _, (h b).bare hbare⟩
    rw [List.map_cons, toList_joined_cons, List.flatMap_map, List.flatMap_cons]
    exact (h a).append hrest hrestclear

end Reads

/-! ## Entries -/

/-- No character of a number opens a quoted part. -/
theorem opened?_of_isFigure {c : Char} (h : isFigure c = true) : opened? c = none := by
  have hname : c ≠ nameQuote := ne_of_isFigure h (by decide)
  have hstring : c ≠ stringQuote := ne_of_isFigure h (by decide)
  rw [opened?, if_neg hname, if_neg hstring]

theorem isBare_of_isFigures {s : String} (h : IsFigures s) : IsBare s.toList :=
  fun c hc => opened?_of_isFigure (h c hc)

theorem IsBare.append {cs ds : List Char} (hc : IsBare cs) (hd : IsBare ds) : IsBare (cs ++ ds) :=
  fun c h => (List.mem_append.mp h).elim (hc c) (hd c)

/-- The texts that a caller supplied for the values of a type. -/
def Kind.tokens : Kind → List Token
  | enum values => values.map fun v => .literal v.text
  | _ => []

/-- The texts that a caller supplied for a subject. -/
def Subject.tokens : Subject → List Token
  | counter name _ => [.name name]
  | column name kind => .name name :: kind.tokens
  | unique target => [.name target]
  | index name target => [.name name, .name target]
  | primary target => [.name target]

/-- The texts that a caller supplied for a clause. -/
def Clause.tokens : Clause → List Token
  | default value =>
    if value.isNullDefault || value.isFigureDefault then [] else [.literal value.text]
  | comment text => [.literal text]
  | after column => [.name column]
  | defaultNow | updateNow | null | notNull => []

/-- The texts that a caller supplied for an entry. -/
def Entry.tokens (e : Entry) : List Token := e.subject.tokens ++ e.clauses.flatMap Clause.tokens

/-- Every kind but the one with values is a fixed word, with numbers or without. -/
theorem Kind.reads (kind : Kind) : Reads (' ' :: kind.sql.toList) kind.tokens := by
  cases kind with
  | string length =>
    have hbare : IsBare (" VARCHAR(".toList ++ ((toString length).toList ++ [')'])) :=
      .append (by decide) ((isBare_of_isFigures (isFigures_int length)).append (by decide))
    simpa [sql, tokens] using Reads.of_bare hbare
  | decimal precision scale =>
    have hbare : IsBare (" DECIMAL(".toList ++ ((toString precision).toList ++ ([','] ++
        ((toString scale).toList ++ [')'])))) :=
      .append (by decide) ((isBare_of_isFigures (isFigures_int precision)).append
        (.append (by decide) ((isBare_of_isFigures (isFigures_int scale)).append (by decide))))
    simpa [sql, tokens] using Reads.of_bare hbare
  | enum values =>
    -- the values are literals with commas between them
    have hvalues := Reads.joined (by decide : IsBare ",".toList) (fun _ => rfl)
      (fun v : Value => reads_literal v.text) values
    have hlist := (hvalues.append (.of_bare (by decide : IsBare [')'])) rfl).bare
      (by decide : IsBare " ENUM(".toList)
    simpa [sql, tokens, List.map_eq_flatMap] using hlist
  | text | integer | bigInteger | boolean | date | timestamp | datetime | json =>
    exact .of_bare (by decide)

/-- The type of a counter is bare. -/
theorem isBare_counterSql (length : Option Int) : IsBare (Subject.counterSql length).toList := by
  have htail : IsBare " UNSIGNED AUTO_INCREMENT PRIMARY KEY".toList := by decide
  cases length with
  | none => exact .append (by decide : IsBare "INT".toList) htail
  | some n =>
    have hlength : IsBare ("INT(".toList ++ ((toString n).toList ++ [')'])) :=
      .append (by decide) ((isBare_of_isFigures (isFigures_int n)).append (by decide))
    by_cases hn : n = 0
    · simpa [Subject.counterSql, hn] using IsBare.append (by decide : IsBare "INT".toList) htail
    · simpa [Subject.counterSql, hn] using hlength.append htail

/-- The parts of a subject are quoted names, the type of a column, and fixed words. -/
theorem Subject.reads (subject : Subject) : Reads subject.sql.toList subject.tokens := by
  -- parentheses and words around the names are bare
  have hclose : Reads [')'] [] := .of_bare (by decide)
  cases subject with
  | counter name length =>
    have htype : IsBare (' ' :: (counterSql length).toList) :=
      .append (by decide : IsBare [' ']) (isBare_counterSql length)
    have := (reads_name name).append (.of_bare htype) rfl
    simpa [sql, tokens] using this
  | column name kind =>
    have := (reads_name name).append kind.reads rfl
    simpa [sql, tokens] using this
  | unique target =>
    have := ((reads_name target).append hclose rfl).bare (by decide : IsBare "UNIQUE (".toList)
    simpa [sql, tokens] using this
  | index name target =>
    have htarget := ((reads_name target).append hclose rfl).bare (by decide : IsBare " (".toList)
    have := ((reads_name name).append htarget rfl).bare (by decide : IsBare "INDEX ".toList)
    simpa [sql, tokens] using this
  | primary target =>
    have := ((reads_name target).append hclose rfl).bare
      (by decide : IsBare "PRIMARY KEY (".toList)
    simpa [sql, tokens] using this

/-- A clause is clear, and is read as its tokens. -/
theorem Clause.reads (clause : Clause) :
    IsClear clause.sql.toList ∧ Reads clause.sql.toList clause.tokens := by
  have hbare : ∀ {cs}, IsBare cs → Reads cs [] := Reads.of_bare
  refine ⟨by cases clause <;> simp [sql, IsClear] <;> decide, ?_⟩
  cases clause with
  | default value =>
    have hsql : (default value).sql.toList = " DEFAULT ".toList ++ value.defaultLiteral.toList :=
      String.toList_append ..
    rw [hsql, tokens]
    refine Reads.bare (by decide) ?_
    -- a default is NULL, figures, or a literal
    cases hnull : value.isNullDefault with
    | true =>
      rw [Value.defaultLiteral_of_isNullDefault hnull]
      exact .of_bare (by decide)
    | false =>
      rcases value.defaultLiteral_cases hnull with ⟨hfigure, hfigures, -⟩ | ⟨hfigure, hquoted⟩
      · rw [hfigure]
        exact .of_bare (isBare_of_isFigures hfigures)
      · rw [hfigure, hquoted]
        exact reads_literal value.text
  -- a comment is a literal, and the place of a column is a name
  | comment text =>
    have hsql : (comment text).sql.toList = " COMMENT ".toList ++ (quotedString text).toList :=
      String.toList_append ..
    rw [hsql]
    exact (reads_literal text).bare (by decide)
  | after column =>
    have hsql : (after column).sql.toList = " AFTER ".toList ++ (quotedName column).toList :=
      String.toList_append ..
    rw [hsql]
    exact (reads_name column).bare (by decide)
  | defaultNow | updateNow | null | notNull => exact .of_bare (by decide)

/-- The texts of an entry are read back: its subject's, then those of its clauses. -/
theorem Entry.reads (e : Entry) : Reads e.sql.toList e.tokens := by
  obtain ⟨hclauses, hclear⟩ := Reads.flatMap (fun clause : Clause => clause.sql.toList)
    Clause.tokens (l := e.clauses) fun clause _ => clause.reads
  rw [e.toList_sql]
  exact e.subject.reads.append hclauses hclear

/-! ## Statements -/

/-- Entries behind a fixed word each, with commas between them. -/
theorem reads_commaJoined {word : List Char} (hword : IsBare word) (text : Entry → String)
    (htext : ∀ e, (text e).toList = word ++ e.sql.toList) (entries : List Entry) :
    Reads (commaJoined (entries.map text)).toList (entries.flatMap Entry.tokens) := by
  refine Reads.joined (by decide : IsBare ", ".toList) (fun _ => rfl) (fun e => ?_) entries
  rw [htext]
  exact e.reads.bare hword

/-- The options of a table are bare. -/
theorem isBare_options (start : Option Int) :
    IsBare (String.join ((start.map fun index => ("AUTO_INCREMENT", Value.int index)).toList.map
      fun o => " " ++ o.1 ++ "=" ++ o.2.text)).toList := by
  cases start with
  | none => exact fun _ h => absurd h List.not_mem_nil
  | some index =>
    have hbare : IsBare (" AUTO_INCREMENT=".toList ++ (toString index).toList) :=
      .append (by decide) (isBare_of_isFigures (isFigures_int index))
    have htext : (Value.int index).text = toString index := rfl
    simpa [String.join, htext] using hbare

/-- A statement: a fixed opening, the quoted table, and behind a space what it does to it. -/
theorem reads_statement {opening body : String} {ts : List Token}
    (hopening : IsBare opening.toList) (hbody : Reads body.toList ts) (table : String) :
    Reads (opening ++ quotedName table ++ (" " ++ body)).toList (.name table :: ts) := by
  rw [String.toList_append, String.toList_append, String.toList_append, List.append_assoc]
  exact ((reads_name table).append (hbody.bare (by decide : IsBare " ".toList)) rfl).bare hopening

/-- What a statement of the entries is read as: the table, then the texts of the entries in order;
the statement of no entries is empty. -/
def IsReadAs (statement : String) (table : String) (entries : List Entry) : Prop :=
  if entries = [] then statement = ""
  else lex statement.toList = some (.name table :: entries.flatMap Entry.tokens)

/-- A statement whose text is read as a table and its entries is read as such. -/
theorem isReadAs_of_reads {statement table : String} {entries : List Entry}
    (h : Reads statement.toList (.name table :: entries.flatMap Entry.tokens)) :
    IsReadAs (if entries.map Entry.definition = [] then "" else statement) table entries := by
  by_cases hentries : entries = []
  · simp [IsReadAs, hentries]
  · simpa [IsReadAs, hentries] using h.lex_eq

/-- No text that a caller supplies gets out of its quotes: whatever the table, the names, the
values and the comments are, helpers other than the modifier that rules null out leave a blueprint
whose statements are read back as the texts of the entries that the helpers made, in order. -/
theorem statements_readAs (table : String) {helpers : List Helper}
    (h : .modify .notNull ∉ helpers) :
    ∃ b create alter,
      BlueprintCall.runAll (helpers.map Helper.call) { table := .str table } = .ok () b ∧
      b.definitions = (plan helpers).entries.map Entry.definition ∧
      b.toSql (.str "create") = .ok create ∧ IsReadAs create table (plan helpers).entries ∧
      b.toSql (.str "alter") = .ok alter ∧ IsReadAs alter table (plan helpers).entries := by
  have hdescribes := describes_build table h
  refine ⟨_, _, _, runAll_calls table helpers, hdescribes.definitions,
    (lists_build table helpers).create, ?_, (lists_build table helpers).alter, ?_⟩
  · rw [hdescribes.definitions, hdescribes.options, List.map_map]
    apply isReadAs_of_reads
    -- no option and no mark behind the list has a delimiter in it
    have hlist := reads_commaJoined (by decide : IsBare []) (Prod.snd ∘ Entry.definition)
      (fun _ => rfl) (plan helpers).entries
    have hoptions := isBare_options (plan helpers).start
    generalize String.join _ = options at hoptions ⊢
    generalize commaJoined _ = list at hlist ⊢
    -- the list of definitions stands in parentheses, with the options behind it
    have hbody : Reads ("(" ++ list ++ (")" ++ options ++ ";")).toList
        ((plan helpers).entries.flatMap Entry.tokens) := by
      have hclosing : IsBare ([')'] ++ (options.toList ++ [';'])) :=
        .append (by decide) (hoptions.append (by decide))
      have := (hlist.append (.of_bare hclosing) rfl).bare (by decide : IsBare ['('])
      simpa using this
    have hopens : " (" = " " ++ "(" := rfl
    have hcreate := reads_statement (by decide : IsBare "CREATE TABLE IF NOT EXISTS ".toList)
      hbody table
    rw [hopens]
    simpa only [String.append_assoc] using hcreate
  · rw [hdescribes.definitions, List.map_map]
    apply isReadAs_of_reads
    -- an alteration has a word in front of each definition
    have hlist := reads_commaJoined (by decide : IsBare "ADD ".toList)
      ((fun d => "ADD " ++ d.2) ∘ Entry.definition) (fun _ => String.toList_append ..)
      (plan helpers).entries
    have hbody := hlist.append (.of_bare (by decide : IsBare ";".toList)) rfl
    rw [← String.toList_append, List.append_nil] at hbody
    have halter := reads_statement (by decide : IsBare "ALTER TABLE ".toList) hbody table
    simpa only [String.append_assoc] using halter

/-- Delimiters of both sorts in the names and in the values. -/
theorem statements_readAs_delimiters :
    let helpers : List Helper := [.column "a\x60" (.enum [.str "', '", .str "\x60"]),
      .modify (.default (.str "it's")), .index "a\x60" none, .modify (.comment "'")]
    .modify .notNull ∉ helpers ∧
    (plan helpers).entries.flatMap Entry.tokens =
      [.name "a\x60", .literal "', '", .literal "\x60", .literal "it's", .literal "'",
        .name "index_a\x60", .name "a\x60"] ∧
    ∃ b create alter,
      BlueprintCall.runAll (helpers.map Helper.call) { table := .str "t" } = .ok () b ∧
      b.definitions = (plan helpers).entries.map Entry.definition ∧
      b.toSql (.str "create") = .ok create ∧ IsReadAs create "t" (plan helpers).entries ∧
      b.toSql (.str "alter") = .ok alter ∧ IsReadAs alter "t" (plan helpers).entries := by
  intro helpers
  -- delimiters in names and texts, and no NOT NULL among the modifiers
  have h : .modify .notNull ∉ helpers := by simp [helpers]
  refine ⟨h, ?_, statements_readAs "t" h⟩
  decide +kernel

/-- Without definitions not even the table is named. -/
theorem not_named_without_definitions :
    ¬ ∀ (table : String) (helpers : List Helper), .modify .notNull ∉ helpers →
      ∃ b create,
        BlueprintCall.runAll (helpers.map Helper.call) { table := .str table } = .ok () b ∧
        b.toSql (.str "create") = .ok create ∧
        lex create.toList = some (.name table :: (plan helpers).entries.flatMap Entry.tokens) := by
  intro h
  obtain ⟨b, create, hrun, hcreate, hlex⟩ := h "t" [] (by simp)
  cases hrun
  cases hcreate
  simp [lex] at hlex

end Querysmith.Table
