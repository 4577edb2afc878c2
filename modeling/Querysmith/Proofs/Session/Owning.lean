import Querysmith.Proofs.Session.Grounded
import Querysmith.Proofs.Session.Sending

/-!
# Cursors of their own

No two contexts ever have the same cursor: a cursor that a context gets is a new one. So what is
sent on a context that has a cursor to itself can be told from everything else that is sent.

## Main definitions

- `Session.Owns`: a context has a cursor to itself
- `Session.Apart`, `Session.Sound`: every context has its cursor to itself

## Key results

- `Owns.redraws`: a context keeps its cursor to itself while others get new ones
- `Sound.runAll`: commands keep sessions sound
-/

namespace Querysmith

open Session EStateM

namespace Session

/-- The cursor was made. -/
def Made (s : Session) (k : CursorId) : Prop :=
  k.link.index < s.links.length ∧ k.index < (s.link k.link).cursors.length

/-- The context has the cursor, and no other context has it. -/
structure Owns (s : Session) (c : ContextId) (k : CursorId) : Prop where
  cursor : (s.context c).cursor = some (.handle k)
  made : s.Made k
  alone : ∀ {id}, (s.context id).cursor = some (.handle k) → id = c

/-- Every context has its cursor to itself, if it has one, and the connections exist on which
contexts can make cursors. -/
structure Apart (s : Session) : Prop where
  owned : ∀ {c k}, (s.context c).cursor = some (.handle k) → s.Owns c k
  linked : ∀ {c l}, c.index < s.contexts.length → (s.context c).Uses (.handle l) →
    l.index < s.links.length

/-- The contexts that are named or on record exist, and every context has its cursor to itself. -/
structure Sound (s : Session) : Prop extends Grounded s, Apart s

/-! ## One context gets a cursor -/

/-- Connections and cursors stay, and so do all contexts but one, which may get a cursor that was
not made before. -/
structure Redraws (id : ContextId) (s t : Session) : Prop where
  links : s.links.length ≤ t.links.length
  cursors : ∀ l : LinkId, l.index < s.links.length →
    (s.link l).cursors.length ≤ (t.link l).cursors.length
  contexts : s.contexts.length ≤ t.contexts.length
  others : ∀ {other}, other ≠ id → other.index < t.contexts.length →
    other.index < s.contexts.length ∧ t.context other = s.context other
  fresh : ∀ {k}, (t.context id).cursor = some (.handle k) →
    (s.context id).cursor = some (.handle k) ∨ ¬ s.Made k

variable {s t : Session} {c id : ContextId} {k : CursorId}

/-- A context that does not exist has no cursor. -/
theorem lt_of_cursor {lent : Lent CursorId} (h : (s.context id).cursor = some lent) :
    id.index < s.contexts.length := by
  rcases Nat.lt_or_ge id.index s.contexts.length with hid | hid
  · exact hid
  · have hnone : s.contexts[id.index]? = none := List.getElem?_eq_none hid
    simp [context, hnone] at h

/-- A cursor that was made stays made. -/
theorem Made.redraws (h : s.Made k) (ht : Redraws id s t) : t.Made k :=
  ⟨Nat.lt_of_lt_of_le h.1 ht.links, Nat.lt_of_lt_of_le h.2 (ht.cursors k.link h.1)⟩

/-- A cursor that was there before is where it was. -/
private theorem Redraws.cursor_eq (ht : Redraws id s t) (hk : s.Made k) {other : ContextId}
    (h : (t.context other).cursor = some (.handle k)) :
    (s.context other).cursor = some (.handle k) := by
  by_cases hother : other = id
  · subst hother
    exact (ht.fresh h).resolve_right fun hnot => hnot hk
  · rwa [← (ht.others hother (lt_of_cursor h)).2]

/-- A context keeps a cursor to itself unless it gets another one. -/
theorem Owns.redraws (h : s.Owns c k) (ht : Redraws id s t)
    (hkept : id = c → (t.context c).cursor = (s.context c).cursor) : t.Owns c k where
  cursor := by
    by_cases hid : id = c
    · rw [hkept hid, h.cursor]
    · have hlt := Nat.lt_of_lt_of_le (lt_of_cursor h.cursor) ht.contexts
      rw [(ht.others (Ne.symm hid) hlt).2, h.cursor]
  made := h.made.redraws ht
  alone := fun hother => h.alone (ht.cursor_eq h.made hother)

/-- The cursor that a context gets is its own, when it was made. -/
theorem Apart.redraws (h : s.Apart) (ht : Redraws id s t)
    (hmade : ∀ {k}, (t.context id).cursor = some (.handle k) → ¬ s.Made k → t.Made k)
    (hlinked : ∀ {l}, id.index < t.contexts.length → (t.context id).Uses (.handle l) →
      (id.index < s.contexts.length ∧ (s.context id).Uses (.handle l)) ∨
        l.index < t.links.length) :
    t.Apart where
  owned := by
    intro c k hk
    -- a cursor that was made before stays with its owner
    by_cases hold : s.Made k
    · have howned := h.owned (ht.cursor_eq hold hk)
      exact howned.redraws ht fun _ => hk.trans howned.cursor.symm
    · -- the cursor is new, so this is the one context that has got one
      have hnew : ∀ {other}, (t.context other).cursor = some (.handle k) → other = id := by
        intro other hother
        by_contra hne
        rw [(ht.others hne (lt_of_cursor hother)).2] at hother
        exact hold (h.owned hother).made
      obtain rfl := hnew hk
      exact ⟨hk, hmade hk hold, fun hother => hnew hother⟩
  linked := by
    intro c l hc huses
    by_cases hid : c = id
    · subst hid
      rcases hlinked hc huses with ⟨hlt, hold⟩ | hnew
      · exact Nat.lt_of_lt_of_le (h.linked hlt hold) ht.links
      · exact hnew
    · obtain ⟨hlt, hsame⟩ := ht.others hid hc
      rw [hsame] at huses
      exact Nat.lt_of_lt_of_le (h.linked hlt huses) ht.links

/-! ## The changes of a session -/

/-- Contexts stay as they are, and connections and cursors are added at most. -/
private theorem redraws_of_contexts_eq (id : ContextId) (hcontexts : t.contexts = s.contexts)
    (hlinks : s.links.length ≤ t.links.length)
    (hcursors : ∀ l : LinkId, l.index < s.links.length →
      (s.link l).cursors.length ≤ (t.link l).cursors.length) : Redraws id s t where
  links := hlinks
  cursors := hcursors
  contexts := Nat.le_of_eq (by rw [hcontexts])
  others := fun _ hlt => by
    rw [hcontexts] at hlt
    exact ⟨hlt, context_congr hcontexts hlt⟩
  fresh := fun hk => .inl (by rwa [cursor_congr hcontexts] at hk)

/-- Where no cursor changes, the contexts draw what they drew. -/
theorem Quiet.redraws (h : Quiet s t) (id : ContextId) : Redraws id s t :=
  redraws_of_contexts_eq id h.contexts h.links h.cursors

/-- Nothing changes about connections and contexts. -/
theorem redraws_of_eq (id : ContextId) (hcontexts : t.contexts = s.contexts)
    (hlinks : t.links = s.links) : Redraws id s t :=
  redraws_of_contexts_eq id hcontexts (Nat.le_of_eq (by rw [hlinks])) fun l _ =>
    Nat.le_of_eq (by rw [link, link, hlinks])

/-- One context is put in its place. -/
private theorem redraws_of_set {d : Context} (hadvances : Advances s t)
    (hset : t.contexts = s.contexts.set id.index d)
    (hfresh : ∀ {k}, d.cursor = some (.handle k) → ¬ s.Made k) : Redraws id s t where
  links := hadvances.links
  cursors := hadvances.cursors
  contexts := Nat.le_of_eq (by rw [hset, List.length_set])
  -- a context at another place is the one that it was
  others := fun hne hlt => by
    have hold := hlt
    rw [hset, List.length_set] at hold
    exact ⟨hold, context_of_set_ne hset hold hne⟩
  fresh := fun {k} hk => by
    have hlt := lt_of_cursor hk
    rw [hset, List.length_set] at hlt
    rw [context_of_set hset hlt] at hk
    exact .inr (hfresh hk)

/-- The cursor that comes with a new connection was not made before. -/
private theorem Opens.not_made {o : OpenLink} (h : Opens id o s t) : ¬ s.Made o.cursor := by
  intro hmade
  have hlink := hmade.1
  rw [h.cursor_link] at hlink
  exact absurd hlink (Nat.not_lt.2 h.fresh)

/-- A cursor that is made now was not made before. -/
theorem Draws.not_made (h : Draws id k s t) : ¬ s.Made k := fun hmade =>
  absurd hmade.2 (Nat.not_lt.2 h.fresh)

/-- Opening a connection changes the cursor of one context only. -/
theorem Opens.redraws {o : OpenLink} (h : Opens id o s t) : Redraws id s t :=
  redraws_of_set h.toAdvances h.contexts fun {k} hk => by
    obtain rfl : o.cursor = k := by simpa [Context.withOpened] using hk
    exact h.not_made

/-- Making a cursor changes the cursor of one context only. -/
theorem Draws.redraws (h : Draws id k s t) : Redraws id s t :=
  redraws_of_set h.toAdvances h.contexts fun {k'} hk => by
    obtain rfl : k = k' := by simpa using hk
    exact h.not_made

/-- Closing gives no context another cursor. -/
theorem Closes.redraws {o : OpenLink} (h : Closes id o s t) : Redraws id s t :=
  redraws_of_set h.toAdvances h.contexts nofun

/-- A context is added, with a cursor of the caller if one was made. -/
theorem Lends.redraws {lent : Option LinkId} {cursor : Option CursorId} {d : Context} {u : Session}
    (h : Lends lent cursor s t) (hd : d.IsNew lent cursor)
    (hcontexts : u.contexts = t.contexts ++ [d]) (hlinks : u.links = t.links) :
    Redraws ⟨s.contexts.length⟩ s u where
  links := by
    rw [hlinks]
    exact h.links
  cursors := fun l hl => by
    have hlink : u.link l = t.link l := by simp [link, hlinks]
    rw [hlink]
    exact h.cursors l hl
  contexts := by simp [hcontexts, h.contexts]
  others := fun {other} hne hlt => by
    -- the new context is the last one
    have hold : other.index < s.contexts.length := by
      have hle : other.index ≤ s.contexts.length := by
        simpa [hcontexts, h.contexts, Nat.lt_succ_iff] using hlt
      refine Nat.lt_of_le_of_ne hle fun heq => hne ?_
      cases other
      cases heq
      rfl
    exact ⟨hold,
      by simp [context, hcontexts, h.contexts, hlinks, List.getElem?_append_left hold, hold]⟩
  -- the cursor of the new context is one that was made for it
  fresh := fun {k} hk => by
    have hnew : u.context ⟨s.contexts.length⟩ = d := by simp [context, hcontexts, h.contexts]
    rw [hnew] at hk
    exact .inr fun hmade => absurd hmade.2 (Nat.not_lt.2 (h.fresh (hd.cursor hk)))

theorem Redraws.refl (id : ContextId) (s : Session) : Redraws id s s := redraws_of_eq id rfl rfl

/-- Two changes to the cursor of one context are one. -/
theorem Redraws.trans {u : Session} (h : Redraws id s t) (h' : Redraws id t u) :
    Redraws id s u where
  links := Nat.le_trans h.links h'.links
  cursors := fun l hl =>
    Nat.le_trans (h.cursors l hl) (h'.cursors l (Nat.lt_of_lt_of_le hl h.links))
  contexts := Nat.le_trans h.contexts h'.contexts
  others := fun hne hlt => by
    obtain ⟨hlt, hsame⟩ := h'.others hne hlt
    exact ⟨(h.others hne hlt).1, hsame.trans (h.others hne hlt).2⟩
  fresh := fun hk => by
    -- a cursor that is new in the second stretch was not there in the first
    rcases h'.fresh hk with hk | hnew
    · exact h.fresh hk
    · exact .inr fun hmade => hnew (hmade.redraws h)

/-- Whatever a context is used for, no other one gets a cursor. -/
theorem rides_redraws (id : ContextId) (s : Session) : Rides (Redraws id s) (· = id) where
  quiet := fun ht h => h.trans (ht.redraws id)
  opens := fun hid ht h => h.trans (hid ▸ ht.redraws)
  draws := fun hid ht h => h.trans (hid ▸ ht.redraws)

/-- Another context does not come to the cursor. -/
theorem Owns.cursor_ne (h : s.Owns c k) (hid : id ≠ c) :
    (id.cursor s).Meets (fun lent _ => lent ≠ .handle k) fun _ => True := by
  cases hcursor : (s.context id).cursor with
  | some lent =>
    rw [cursor_of_some hcursor]
    exact fun hlent => hid (h.alone (hlent ▸ hcursor))
  | none =>
    -- a cursor is made for it, which is newer than one that there is already
    refine (cursor_outcome hcursor).mono ?_ fun _ _ => trivial
    rintro _ t ⟨u, k', hu, ht, rfl⟩ hsame
    cases hsame
    have hredraws : Redraws id s u := by
      rcases hu with hu | ⟨o, hu⟩
      · exact hu.redraws id
      · exact hu.redraws
    exact ht.not_made (h.made.redraws hredraws)

/-! ## Sessions in which every context has its own cursor -/

/-- Nothing happens to the contexts. -/
private theorem Apart.of_contexts_eq (h : s.Apart)
    (ht : Redraws ⟨s.contexts.length⟩ s t) (hcontexts : t.contexts = s.contexts) : t.Apart := by
  have hlength : ¬ s.contexts.length < t.contexts.length := by simp [hcontexts]
  exact h.redraws ht (fun hk _ => absurd (lt_of_cursor hk) hlength) fun hlt _ => absurd hlt hlength

/-- Contexts stay apart where no cursor changes. -/
theorem Apart.quiet (h : s.Apart) (ht : Quiet s t) : t.Apart :=
  h.of_contexts_eq (ht.redraws _) ht.contexts

/-- Whether contexts are apart is read off them and the connections. -/
theorem Apart.congr (h : s.Apart) (hcontexts : t.contexts = s.contexts)
    (hlinks : t.links = s.links) : t.Apart :=
  h.of_contexts_eq (redraws_of_eq _ hcontexts hlinks) hcontexts

/-- A connection that is opened is apart from all others. -/
theorem Apart.opens {o : OpenLink} (h : s.Apart) (ht : Opens id o s t) : t.Apart := by
  have hid := lt_of_ownsConnection ht.owns
  have hcontext := context_of_set ht.contexts hid
  refine h.redraws ht.redraws (fun {k} hk _ => ?_) fun {l} _ huses => ?_
  -- the new cursor lies on the new connection
  · obtain rfl : o.cursor = k := by simpa [hcontext, Context.withOpened] using hk
    refine ⟨?_, ?_⟩
    · rw [ht.cursor_link]
      exact ht.made
    · rw [ht.cursor_link]
      exact ht.cursor_made
  -- the connection of the context was not there before
  · rw [hcontext] at huses
    obtain ⟨_, ho, rfl⟩ := huses.opened ht.owns
    cases ho
    exact .inr ht.made

/-- A cursor that is made is apart from all others. -/
theorem Apart.draws (h : s.Apart) (ht : Draws id k s t) : t.Apart := by
  have hlength : t.contexts.length = s.contexts.length := by simp [ht.contexts]
  refine h.redraws ht.redraws (fun {k'} hk _ => ?_) fun {l} hlt huses' => ?_
  · have hid := hlength ▸ lt_of_cursor hk
    rw [context_of_set ht.contexts hid] at hk
    obtain rfl : k = k' := by simpa using hk
    have hlink := h.linked hid ht.uses
    exact ⟨Nat.lt_of_lt_of_le hlink ht.links, ht.made hlink⟩
  · have hid := hlength ▸ hlt
    rw [context_of_set ht.contexts hid] at huses'
    exact .inl ⟨hid, huses'⟩

/-- Closing gives up what was apart. -/
theorem Apart.closes {o : OpenLink} (h : s.Apart) (ht : Closes id o s t) : t.Apart := by
  have hlength : t.contexts.length = s.contexts.length := by simp [ht.contexts]
  refine h.redraws ht.redraws (fun hk _ => ?_) fun {l} hlt huses => ?_
  · have hid := hlength ▸ lt_of_cursor hk
    rw [context_of_set ht.contexts hid] at hk
    exact nomatch hk
  · have hid := hlength ▸ hlt
    rw [context_of_set ht.contexts hid] at huses
    -- only a connection of the caller is left to it
    cases hsource : (s.context id).source with
    | caller =>
      exact .inl ⟨hid, by simpa [Context.Uses, Context.withoutOpened, hsource] using huses⟩
    | server => simp [Context.Uses, Context.withoutOpened, hsource] at huses

/-- A context for a connection that exists. -/
theorem Apart.lends {lent : Option LinkId} {cursor : Option CursorId} {d : Context} {u : Session}
    (h : s.Apart) (ht : Lends lent cursor s t) (hd : d.IsNew lent cursor)
    (hlent : ∀ l, lent = some l → l.index < s.links.length)
    (hcontexts : u.contexts = t.contexts ++ [d]) (hlinks : u.links = t.links) : u.Apart := by
  have hnew : u.context ⟨s.contexts.length⟩ = d := by simp [context, hcontexts, ht.contexts]
  refine h.redraws (ht.redraws hd hcontexts hlinks) (fun {k} hk _ => ?_) fun {l} _ huses => ?_
  · rw [hnew] at hk
    have hcursor := hd.cursor hk
    have hlink := hlent _ (ht.link_eq hcursor)
    refine ⟨?_, ?_⟩
    · rw [hlinks]
      exact Nat.lt_of_lt_of_le hlink ht.links
    · rw [link, hlinks]
      exact ht.made hcursor hlink
  · rw [hnew] at huses
    -- a new context for a server has no connection yet
    cases hsource : d.source with
    | server => simp [Context.Uses, hsource, hd.opened] at huses
    | caller =>
      obtain rfl : Lent.handle l = _ := by simpa [Context.Uses, hsource] using huses
      rw [hlinks]
      exact .inr (Nat.lt_of_lt_of_le (hlent _ (hd.source hsource)) ht.links)

/-! ## Commands -/

/-- However contexts are used, each has its cursor to itself. -/
theorem rides_apart : Rides Apart fun _ => True where
  quiet := fun ht h => h.quiet ht
  opens := fun _ ht h => h.opens ht
  draws := fun _ ht h => h.draws ht

/-- Every context has its cursor to itself, and there are as many connections at least. -/
private def Furnished (n : Nat) (s : Session) : Prop := s.Apart ∧ n ≤ s.links.length

/-- Contexts stay furnished whatever is accessed. -/
private theorem rides_furnished (n : Nat) : Rides (Furnished n) fun _ => True where
  quiet := fun ht h => ⟨h.1.quiet ht, Nat.le_trans h.2 ht.links⟩
  opens := fun _ ht h => ⟨h.1.opens ht, Nat.le_trans h.2 ht.links⟩
  draws := fun _ ht h => ⟨h.1.draws ht, Nat.le_trans h.2 ht.links⟩

/-- Contexts stay furnished whatever contexts are made. -/
private theorem tends_furnished (n : Nat) : Tends (Furnished n) fun _ _ => True :=
  tends_of_free (fun ht h => (rides_furnished n).quiet ht.toQuiet h)
    (fun hid => (rides_furnished n).access hid fun ht h =>
      ⟨h.1.closes ht, Nat.le_trans h.2 ht.links⟩)
    (fun {s _} hc h => ⟨⟨h.1.lends (Lends.nothing none s) hc nofun rfl rfl, h.2⟩, trivial⟩)
    fun _ h => ⟨h.1.congr rfl rfl, h.2⟩

private theorem lenient_furnished (n : Nat) :
    Lenient (Furnished n) (fun _ _ => True) fun _ => True where
  toTends := tends_furnished n
  registered := fun _ _ _ => trivial
  opens := fun _ _ h => ⟨⟨h.holds.1.congr rfl rfl, h.holds.2⟩, h.free⟩
  drops := fun _ h => ⟨⟨h.holds.1.congr rfl rfl, h.holds.2⟩, h.free⟩

/-- Contexts are made for the first connections only, which are those of the caller. -/
def lending (n : Nat) : Terms := { Terms.any with link := fun l => l.index < n }

/-- Every command keeps contexts furnished. -/
private theorem carried_furnished (n : Nat) :
    Carried (Furnished n) (fun _ _ => True) (lending n) where
  toTends := tends_furnished n
  -- a connection can be lent as long as it is one of the first
  makes := fun _ hlink ht hc h =>
    ⟨⟨h.holds.1.lends ht hc (fun l hl => Nat.lt_of_lt_of_le (hlink l hl) h.holds.2) rfl rfl,
      Nat.le_trans h.holds.2 ht.links⟩, h.free⟩
  names := fun _ _ _ => trivial
  named := fun _ _ h => ⟨⟨h.holds.1.congr rfl rfl, h.holds.2⟩, h.free⟩
  serves := (tends_furnished n).serves (fun _ => trivial) fun _ _ =>
    ⟨(tends_furnished n).calm, fun _ _ =>
      keeps_fits ((rides_furnished n).keeps_run trivial _ _)⟩
  begins := fun _ => (lenient_furnished n).yields_beginTransaction trivial
  commits := fun _ => (lenient_furnished n).keeps_commitTransaction trivial
  rollbacks := fun _ => (lenient_furnished n).keeps_rollbackTransaction trivial

/-- Commands that make contexts for connections of the caller only keep sessions sound. -/
theorem Sound.runAll {s : Session} {n : Nat} {commands : List Command} (hs : s.Sound)
    (hn : n ≤ s.links.length)
    (hobeys : ∀ {reached t}, Reaches commands s reached t → reached.Obeys (lending n) t) :
    (Command.runAll commands s).Meets (fun _ => Sound) Sound := by
  have hfurnished : Fits (Furnished n) (fun _ _ => True) [] s :=
    ⟨⟨hs.toApart, hn⟩, fun _ _ => trivial⟩
  have hgrounded : Fits Grounded Has [] s := ⟨hs.toGrounded, nofun⟩
  exact (((carried_furnished n).meets_runAll commands hobeys hfurnished).and
    (carried_grounded.keeps_runAll commands s hgrounded)).mono
      (fun _ _ ht => ⟨ht.2.1.holds, ht.1.holds.1⟩) fun _ ht => ⟨ht.2.holds, ht.1.holds.1⟩

/-- A session in which there are no contexts yet. -/
theorem sound_of_contexts_eq_nil {s : Session} (hcontexts : s.contexts = [])
    (hnames : s.contextNames = []) (hregistry : s.transactions.active = []) : s.Sound where
  named := by simp [hnames]
  registered := by simp [Registry.contexts, hregistry]
  owned := fun hk => by
    have hlt := lt_of_cursor hk
    simp [hcontexts] at hlt
  linked := fun hlt _ => by simp [hcontexts] at hlt

end Session

end Querysmith
