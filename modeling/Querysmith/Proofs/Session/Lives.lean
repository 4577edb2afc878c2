import Querysmith.Proofs.Session.Alternation

/-!
# The lives of connections

A connection that a context has opened has a cursor from the start, and the context runs its
statements on one cursor until it closes that first cursor and the connection. If the connection
was opened by reading it, the first cursor is the one that is used. Any other access opens the
connection on the way to a cursor and then makes one more, so that the first cursor is never used,
and the one that is used is never closed.

## Main definitions

- `Deed`, `Session.deeds`: what was done to connections and cursors from one session to a later one
- `life`: all that is done to a connection
- `Does`: what a use of a context does, by what the context has
- `Orderly`: a row of uses, each with what it did
- `Lives`: a connection that has had its life so far
- `Tidy`: a connection with one cursor, which comes with it and goes with it

## Key results

- `Orderly.lives`: each connection has the life that the use that opened it starts
- `Orderly.tidy_iff`: it is a tidy one if and only if that use was reading the connection
-/

namespace Querysmith

open Session

/-! ## Deeds -/

/-- Something is done to a connection or a cursor. -/
inductive Deed where
  | opens (link : LinkId)
  | makes (cursor : CursorId)
  /-- A statement is sent on the cursor. -/
  | sends (cursor : CursorId)
  /-- The cursor is closed. -/
  | releases (cursor : CursorId)
  | closes (link : LinkId)
  deriving DecidableEq, Repr

/-- The deed that an event is. -/
def Event.deed? : Event → Option Deed
  | .connect link _ => some (.opens link)
  | .cursor k => some (.makes k)
  | .execute k .. | .executeMany k .. => some (.sends k)
  | .closeCursor k => some (.releases k)
  | .closeLink link => some (.closes link)
  | _ => none

namespace Deed

/-- The connection of a deed. -/
def link : Deed → LinkId
  | opens l | closes l => l
  | makes k | sends k | releases k => k.link

/-- The cursor that is made. -/
def made? : Deed → Option CursorId
  | makes k => some k
  | _ => none

/-- The deeds on one connection. -/
def on (l : LinkId) (ds : List Deed) : List Deed := ds.filter fun d => d.link = l

/-- The deeds on a connection are those of both stretches. -/
theorem on_append (l : LinkId) (ds ds' : List Deed) : on l (ds ++ ds') = on l ds ++ on l ds' :=
  List.filter_append ..

/-- Deeds that are all on one connection are the deeds on it. -/
theorem on_eq_self {l : LinkId} {ds : List Deed} (h : ∀ d ∈ ds, d.link = l) : on l ds = ds :=
  List.filter_eq_self.2 fun d hd => by simpa using h d hd

/-- Deeds on other connections are none on this one. -/
theorem on_eq_nil {l : LinkId} {ds : List Deed} (h : ∀ d ∈ ds, d.link ≠ l) : on l ds = [] :=
  List.filter_eq_nil_iff.2 fun d hd => by simpa using h d hd

end Deed

namespace Session

/-- What was done from one session to a later one, in order. -/
def deeds (s t : Session) : List Deed := ((since s t).filterMap Event.deed?).reverse

/-- The deeds of a stretch are read off what it has added to the trace. -/
theorem deeds_of_trace {s t : Session} {new : List Event} (h : t.trace = new ++ s.trace) :
    deeds s t = (new.filterMap Event.deed?).reverse := by
  have hsince : since s t = new :=
    List.append_cancel_right ((since_append ⟨new, h.symm⟩).trans h)
  rw [deeds, hsince]

theorem deeds_self (s : Session) : deeds s s = [] := deeds_of_trace (List.nil_append _).symm

/-- The deeds of two stretches are those of both in order. -/
theorem deeds_trans {s t u : Session} (h : s.trace <:+ t.trace) (h' : t.trace <:+ u.trace) :
    deeds s u = deeds s t ++ deeds t u := by
  rw [deeds, deeds, deeds, since_trans h h', List.filterMap_append, List.reverse_append]

end Session

/-! ## What uses do -/

namespace Use

/-- Whether the use is a reading of the connection. -/
def readsConnection : Use → Bool
  | connection => true
  | _ => false

/-- Only reading the connection reads the connection. -/
theorem readsConnection_iff {use : Use} : use.readsConnection = true ↔ use = connection := by
  cases use <;> simp [readsConnection]

/-- The cursors that are made when the use opens a connection: one comes with the connection, and
any use but reading it makes one more. -/
def drawn (use : Use) (l : LinkId) : List CursorId :=
  if use.readsConnection then [⟨l, 0⟩] else [⟨l, 0⟩, ⟨l, 1⟩]

/-- The cursor on which statements run from then on. -/
def cursorOn (use : Use) (l : LinkId) : CursorId :=
  if use.readsConnection then ⟨l, 0⟩ else ⟨l, 1⟩

/-- The cursor of a use is on its connection. -/
theorem link_cursorOn (use : Use) (l : LinkId) : (use.cursorOn l).link = l := by
  rw [cursorOn]
  split <;> rfl

end Use

/-! ## Lives -/

/-- All that is done to a connection that is opened by a use: its cursors are made, so many
statements are sent on one of them, and in the end the first cursor is closed with it. -/
def life (use : Use) (l : LinkId) (statements : Nat) (closed : Bool) : List Deed :=
  .opens l :: (use.drawn l).map .makes ++
    List.replicate statements (.sends (use.cursorOn l)) ++
    if closed then [.releases ⟨l, 0⟩, .closes l] else []

section Life

variable {use : Use} {l : LinkId} {n : Nat} {closed : Bool}

/-- One more statement is one more deed of the life. -/
theorem life_append_sends (use : Use) (l : LinkId) (n : Nat) :
    life use l n false ++ [.sends (use.cursorOn l)] = life use l (n + 1) false := by
  simp [life, List.replicate_succ']

/-- The release of the cursor and the closing are the last deeds. -/
theorem life_append_closes (use : Use) (l : LinkId) (n : Nat) :
    life use l n false ++ [.releases ⟨l, 0⟩, .closes l] = life use l n true := by
  simp [life]

/-- The deeds of a life are its opening, its cursors, its statements and its end. -/
theorem mem_life {d : Deed} : d ∈ life use l n closed ↔
    d = .opens l ∨ (∃ k ∈ use.drawn l, d = .makes k) ∨ (0 < n ∧ d = .sends (use.cursorOn l)) ∨
      (closed = true ∧ (d = .releases ⟨l, 0⟩ ∨ d = .closes l)) := by
  have hn : n ≠ 0 ↔ 0 < n := Nat.pos_iff_ne_zero.symm
  cases closed <;> simp [life, List.mem_replicate, hn, eq_comm]

/-- The cursors of a use are on its connection. -/
theorem link_of_mem_drawn {k : CursorId} (h : k ∈ use.drawn l) : k.link = l := by
  rw [Use.drawn] at h
  split at h
  · rw [List.mem_singleton.1 h]
  · rcases List.mem_pair.1 h with rfl | rfl <;> rfl

/-- A life is about one connection. -/
theorem link_of_mem_life {d : Deed} (h : d ∈ life use l n closed) : d.link = l := by
  rcases mem_life.1 h with rfl | ⟨k, hk, rfl⟩ | ⟨-, rfl⟩ | ⟨-, rfl | rfl⟩
  · rfl
  · exact link_of_mem_drawn hk
  · exact use.link_cursorOn l
  · rfl
  · rfl

end Life

/-! ## Rows of uses -/

/-- What a use of a context does. Before and after it, the context may have a connection; then the
use by which it was opened matters. -/
inductive Does : Option (Use × LinkId) → Use → List Deed → Option (Use × LinkId) → Prop where
  /-- The use finds what it needs, or fails, or there is nothing to close. -/
  | nothing {held use} : (use = .close → held = none) → Does held use [] held
  | sends {opener l use} : use.isAccess = true →
      Does (some (opener, l)) use [.sends (opener.cursorOn l)] (some (opener, l))
  /-- A connection is opened, and a statement may be sent on it. -/
  | opens {use l n} : use.isAccess = true → n ≤ 1 →
      Does none use (life use l n false) (some (use, l))
  | closes {opener l} : Does (some (opener, l)) .close [.releases ⟨l, 0⟩, .closes l] none

/-- What was done in a row of uses, in order. -/
def deedsOf (log : List (Use × List Deed)) : List Deed := log.flatMap Prod.snd

/-- The deeds of one more use come last. -/
theorem deedsOf_concat (log : List (Use × List Deed)) (use : Use) (ds : List Deed) :
    deedsOf (log ++ [(use, ds)]) = deedsOf log ++ ds := by
  simp [deedsOf]

/-- A row of uses, each with what it did. A connection that is opened is a new one. The last
argument is the connection that is open, with the use that has opened it. -/
inductive Orderly : List (Use × List Deed) → Option (Use × LinkId) → Prop where
  | nothing : Orderly [] none
  | step {log held use ds held'} : Orderly log held → Does held use ds held' →
      (∀ l, .opens l ∈ ds → ∀ d ∈ deedsOf log, d.link ≠ l) → Orderly (log ++ [(use, ds)]) held'

variable {log : List (Use × List Deed)} {held : Option (Use × LinkId)} {use : Use}
  {ds : List Deed} {l : LinkId}

/-- A deed of a use is one of the log. -/
theorem mem_deedsOf {d : Deed} (h : (use, ds) ∈ log) (hd : d ∈ ds) : d ∈ deedsOf log :=
  List.mem_flatMap.2 ⟨(use, ds), h, hd⟩

/-- Whatever is done is done on a connection that was opened, and so is the one that is open. -/
theorem Orderly.mem_opens (h : Orderly log held) :
    (∀ d ∈ deedsOf log, .opens d.link ∈ deedsOf log) ∧
      ∀ use l, held = some (use, l) → .opens l ∈ deedsOf log := by
  induction h with
  | nothing => exact ⟨nofun, nofun⟩
  | @step log held use ds held' _ hdoes _ ih =>
    obtain ⟨hopened, hheld⟩ := ih
    -- it is enough to see where the new deeds are done
    suffices hnew : (∀ d ∈ ds, .opens d.link ∈ deedsOf log ++ ds) ∧
        ∀ use l, held' = some (use, l) → .opens l ∈ deedsOf log ++ ds by
      rw [deedsOf_concat]
      refine ⟨fun d hd => ?_, hnew.2⟩
      rcases List.mem_append.1 hd with hd | hd
      · exact List.mem_append_left _ (hopened d hd)
      · exact hnew.1 d hd
    cases hdoes with
    | nothing => exact ⟨nofun, fun use l hl => List.mem_append_left _ (hheld use l hl)⟩
    -- a statement goes to the connection that is held
    | @sends opener l =>
      refine ⟨fun d hd => ?_, fun use l hl => List.mem_append_left _ (hheld use l hl)⟩
      rw [List.mem_singleton.1 hd, Deed.link, Use.link_cursorOn]
      exact List.mem_append_left _ (hheld opener l rfl)
    | @opens _ l n =>
      have hopens : Deed.opens l ∈ deedsOf log ++ life use l n false :=
        List.mem_append_right _ (mem_life.2 (.inl rfl))
      refine ⟨fun d hd => link_of_mem_life hd ▸ hopens, ?_⟩
      rintro _ _ ⟨⟩
      exact hopens
    | @closes opener l =>
      refine ⟨fun d hd => ?_, nofun⟩
      -- what is closed was opened before
      have hopens := List.mem_append_left [.releases ⟨l, 0⟩, .closes l] (hheld opener l rfl)
      rcases List.mem_pair.1 hd with rfl | rfl <;> exact hopens

/-- The connection has so far the life that this use starts. It goes on while the context has the
connection. -/
structure Lives (use : Use) (l : LinkId) (held : Option (Use × LinkId)) (ds : List Deed) :
    Prop where
  deeds : ∃ n, Deed.on l ds = life use l n (decide (held.map Prod.snd ≠ some l))
  opener : ∀ opener, held = some (opener, l) → opener = use

/-- A use that opens the connection starts its life. -/
theorem Does.lives {held' : Option (Use × LinkId)} (h : Does held use ds held')
    (hl : .opens l ∈ ds) : Lives use l held' ds := by
  cases h with
  | nothing => cases hl
  | sends => simp at hl
  | closes => simp at hl
  -- only an opening has the connection among what it opens
  | @opens _ l' n _ _ =>
    obtain rfl : l = l' := link_of_mem_life hl
    refine ⟨⟨n, ?_⟩, fun opener hopen => ?_⟩
    · rw [Deed.on_eq_self fun d hd => link_of_mem_life hd]
      simp
    · cases hopen
      rfl

namespace Lives

variable {held' : Option (Use × LinkId)} {ds' : List Deed}

/-- What was done on other connections before makes no difference. -/
theorem behind (h : Lives use l held ds') (hother : ∀ d ∈ ds, d.link ≠ l) :
    Lives use l held (ds ++ ds') := by
  refine ⟨?_, h.opener⟩
  rw [Deed.on_append, Deed.on_eq_nil hother, List.nil_append]
  exact h.deeds

/-- Any use that does not open the connection goes on with its life, or leaves it alone. -/
theorem does {use' : Use} (h : Lives use l held ds) (hdoes : Does held use' ds' held')
    (hnew : .opens l ∉ ds') : Lives use l held' (ds ++ ds') := by
  obtain ⟨⟨n, hlife⟩, hopener⟩ := h
  -- what is done on another connection is not seen in this life
  cases hdoes with
  | nothing => exact ⟨⟨n, by rw [List.append_nil, hlife]⟩, hopener⟩
  | @sends opener l' =>
    refine ⟨?_, hopener⟩
    rw [Deed.on_append, hlife]
    by_cases hsame : l' = l
    · subst hsame
      obtain rfl := hopener opener rfl
      refine ⟨n + 1, ?_⟩
      rw [Deed.on_eq_self (by simp [Deed.link, Use.link_cursorOn])]
      simp [life_append_sends]
    · refine ⟨n, ?_⟩
      rw [Deed.on_eq_nil (by simp [Deed.link, Use.link_cursorOn, hsame]), List.append_nil]
  | @opens _ l' m =>
    -- only another connection can be opened, as this one was not
    have hne : l' ≠ l := by
      rintro rfl
      exact hnew (mem_life.2 (.inl rfl))
    rw [Option.map_none] at hlife
    refine ⟨⟨n, ?_⟩, fun opener hopen => ?_⟩
    · rw [Deed.on_append, hlife, Deed.on_eq_nil fun d hd => link_of_mem_life hd ▸ hne]
      simp [hne]
    · cases hopen
      exact absurd rfl hne
  | @closes opener l' =>
    -- the life of this connection ends, or goes on while another one is closed
    refine ⟨?_, nofun⟩
    rw [Deed.on_append, hlife]
    by_cases hsame : l' = l
    · subst hsame
      refine ⟨n, ?_⟩
      rw [Deed.on_eq_self (by simp [Deed.link])]
      simp [life_append_closes]
    · refine ⟨n, ?_⟩
      rw [Deed.on_eq_nil (by simp [Deed.link, hsame])]
      simp [hsame]

end Lives

/-- Each connection has the life that the use that has opened it starts. -/
theorem Orderly.lives (h : Orderly log held) (hmem : (use, ds) ∈ log) (hl : .opens l ∈ ds) :
    Lives use l held (deedsOf log) := by
  induction h with
  | nothing => cases hmem
  | @step log held use' ds' held' _ hdoes hfresh ih =>
    rw [deedsOf_concat]
    rcases List.mem_append.1 hmem with hold | hnew
    · -- what is opened later is another connection
      exact (ih hold).does hdoes fun hopens => hfresh l hopens _ (mem_deedsOf hold hl) rfl
    · obtain ⟨rfl, rfl⟩ := Prod.mk.inj (List.mem_singleton.1 hnew)
      exact (hdoes.lives hl).behind (hfresh l hl)

/-! ## Tidy connections -/

/-- One cursor is made on the connection at most, statements run on the cursor that comes with it,
and every cursor that was made on it is closed when it is. -/
structure Tidy (l : LinkId) (ds : List Deed) : Prop where
  single : ((Deed.on l ds).filterMap Deed.made?).length ≤ 1
  own : ∀ k, .sends k ∈ Deed.on l ds → k = ⟨l, 0⟩
  released : .closes l ∈ Deed.on l ds → ∀ k, .makes k ∈ Deed.on l ds → .releases k ∈ Deed.on l ds

/-- The cursors that a life makes are those of its use. -/
theorem made_life (use : Use) (l : LinkId) (n : Nat) (closed : Bool) :
    (life use l n closed).filterMap Deed.made? = use.drawn l := by
  have hmakes : ((use.drawn l).map Deed.makes).filterMap Deed.made? = use.drawn l := by
    simp [List.filterMap_map, Deed.made?, Function.comp_def]
  have hsends : (List.replicate n (Deed.sends (use.cursorOn l))).filterMap Deed.made? = [] := by
    simp [Deed.made?]
  have hcloses : (if closed then [Deed.releases ⟨l, 0⟩, .closes l] else []).filterMap Deed.made? =
      [] := by
    cases closed <;> simp [Deed.made?]
  rw [life, List.filterMap_append, List.filterMap_append, List.filterMap_cons_none rfl, hmakes,
    hsends, hcloses, List.append_nil, List.append_nil]

/-- A connection is tidy if and only if it was opened by reading it: then the cursor that comes with
it is the only one, and else that one is not used, and the one that is used is not closed. -/
theorem Orderly.tidy_iff (h : Orderly log held) (hmem : (use, ds) ∈ log) (hl : .opens l ∈ ds) :
    Tidy l (deedsOf log) ↔ use.readsConnection = true := by
  obtain ⟨n, hlife⟩ := (h.lives hmem hl).deeds
  -- all that is asked of a tidy connection is read off its life
  constructor
  · intro htidy
    have hsingle := htidy.single
    rw [hlife, made_life, Use.drawn] at hsingle
    -- any other opener draws two cursors, and one is too many
    by_contra hreads
    simp [hreads] at hsingle
  · intro hreads
    have hdrawn : use.drawn l = [⟨l, 0⟩] := by simp [Use.drawn, hreads]
    have hcursor : use.cursorOn l = ⟨l, 0⟩ := by simp [Use.cursorOn, hreads]
    refine ⟨?_, fun k hk => ?_, fun hcloses k hk => ?_⟩
    · rw [hlife, made_life, hdrawn]
      exact Nat.le_refl 1
    · rw [hlife, mem_life, hcursor] at hk
      have hsent : 0 < n ∧ k = ⟨l, 0⟩ := by simpa using hk
      exact hsent.2
    · rw [hlife, mem_life, hdrawn] at hcloses hk ⊢
      simp at hcloses hk ⊢
      exact ⟨hcloses, hk⟩

end Querysmith
