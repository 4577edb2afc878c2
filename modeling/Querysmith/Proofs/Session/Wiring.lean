import Querysmith.Proofs.Session.Owning

/-!
# Connections behind contexts

A context refers to a connection by the place of the connection among those of the session. The
contexts on record exist, and so do the connections that contexts refer to; however contexts are
used, it stays so, since contexts and connections are only ever added, and a context comes to a
connection only when it opens it.

## Main definitions

- `Context.LiesIn`: a context refers to connections that exist
- `Session.Wired`: all contexts of a session do, and those on record exist

## Key results

- `Sound.wired`: sessions that commands reach are wired
- `serves_wired`: statements on servers leave sessions wired
-/

namespace Querysmith

open Session EStateM

/-- The connections to which a context refers are among the first ones. -/
structure Context.LiesIn (c : Context) (n : Nat) : Prop where
  uses : ∀ {l}, c.Uses (.handle l) → l.index < n
  cursor : ∀ {k}, c.cursor = some (.handle k) → k.link.index < n

/-- What lies in some connections lies in more of them. -/
theorem Context.LiesIn.mono {c : Context} {n m : Nat} (h : c.LiesIn n) (hle : n ≤ m) :
    c.LiesIn m where
  uses huses := Nat.lt_of_lt_of_le (h.uses huses) hle
  cursor hk := Nat.lt_of_lt_of_le (h.cursor hk) hle

/-- A context that was not given a connection refers to none. -/
theorem Context.IsNew.liesIn {c : Context} (h : c.IsNew none none) (n : Nat) : c.LiesIn n where
  uses {l} huses := by
    cases hsource : c.source with
    | server name overrides => simp [Context.Uses, hsource, h.opened] at huses
    | caller link =>
      obtain rfl : Lent.handle l = link := by simpa [Context.Uses, hsource] using huses
      cases h.source hsource
  cursor hk := nomatch h.cursor hk

namespace Session

/-- The contexts on record exist, and so do the connections that contexts refer to. -/
structure Wired (s : Session) : Prop where
  registered : ∀ {server c}, s.transactions.get? server = some c → s.Has c
  lies : ∀ {c}, s.Has c → (s.context c).LiesIn s.links.length

variable {s t : Session} {id : ContextId}

/-- A context uses connections that are there. -/
theorem Wired.linked (h : s.Wired) {c : ContextId} {l : LinkId} (hc : s.Has c)
    (huses : (s.context c).Uses (.handle l)) : l.index < s.links.length :=
  (h.lies hc).uses huses

/-- A context that does not exist has no cursor. -/
theorem Wired.cursors (h : s.Wired) {c : ContextId} {k : CursorId}
    (hk : (s.context c).cursor = some (.handle k)) : k.link.index < s.links.length :=
  (h.lies (lt_of_cursor hk)).cursor hk

/-- Sessions that commands reach are sound, and so they are wired. -/
theorem Sound.wired (h : s.Sound) : s.Wired where
  registered hget := h.registered _ (Registry.mem_contexts hget)
  lies hc := ⟨fun huses => h.linked hc huses, fun hk => (h.owned hk).made.1⟩

/-! ## What keeps sessions wired -/

/-- Contexts stay as they are, or refer to connections that are there afterwards. -/
private theorem Wired.of_contexts (h : s.Wired) (hadvances : Advances s t)
    (hlength : t.contexts.length = s.contexts.length)
    (hcontexts : ∀ {c}, s.Has c →
      t.context c = s.context c ∨ (t.context c).LiesIn t.links.length) : t.Wired where
  registered hget := by
    -- the registry is the same, and so is the number of contexts
    rw [hadvances.transactions] at hget
    have hold : _ < _ := h.registered hget
    rwa [Has, hlength]
  lies {c} hc := by
    have hold : s.Has c := by rwa [Has, hlength] at hc
    rcases hcontexts hold with hsame | hlies
    · rw [hsame]
      exact (h.lies hold).mono hadvances.links
    · exact hlies

/-- One context is put in its place. -/
private theorem Wired.of_set {d : Context} (h : s.Wired) (hadvances : Advances s t)
    (hset : t.contexts = s.contexts.set id.index d)
    (hlies : s.Has id → d.LiesIn t.links.length) : t.Wired := by
  refine h.of_contexts hadvances (by rw [hset, List.length_set]) fun {c} hc => ?_
  by_cases hid : c = id
  · subst hid
    rw [context_of_set hset hc]
    exact .inr (hlies hc)
  · exact .inl (context_of_set_ne hset hc hid)

/-- A quiet stretch keeps the wiring. -/
theorem Wired.quiet (h : s.Wired) (ht : Quiet s t) : t.Wired :=
  h.of_contexts ht.toAdvances (by rw [ht.contexts]) fun hc => .inl (context_congr ht.contexts hc)

/-- The context that a connection was opened for comes to that connection alone. -/
theorem Wired.opens {o : OpenLink} (h : s.Wired) (ht : Opens id o s t) : t.Wired :=
  h.of_set ht.toAdvances ht.contexts fun _ => {
    uses := fun huses => by
      obtain ⟨o', ho, rfl⟩ := huses.opened ht.owns
      cases ho
      exact ht.made
    cursor := fun {k} hk => by
      obtain rfl : o.cursor = k := Lent.handle.inj (Option.some.inj hk)
      rw [ht.cursor_link]
      exact ht.made }

/-- A cursor is made on a connection that the context refers to already. -/
theorem Wired.draws {k : CursorId} (h : s.Wired) (ht : Draws id k s t) : t.Wired :=
  h.of_set ht.toAdvances ht.contexts fun hid => {
    uses := fun huses => ((h.lies hid).mono ht.links).uses huses
    cursor := fun {k'} hk => by
      obtain rfl : k = k' := Lent.handle.inj (Option.some.inj hk)
      exact Nat.lt_of_lt_of_le (h.linked hid ht.uses) ht.links }

/-- Closing a connection keeps contexts and connections wired. -/
theorem Wired.closes {o : OpenLink} (h : s.Wired) (ht : Closes id o s t) : t.Wired :=
  h.of_set ht.toAdvances ht.contexts fun hid => {
    uses := fun {l} huses => by
      -- only a connection of the caller is left to it
      cases hsource : (s.context id).source with
      | server => simp [Context.Uses, Context.withoutOpened, hsource] at huses
      | caller =>
        have hold : (s.context id).Uses (.handle l) := by
          simpa [Context.Uses, Context.withoutOpened, hsource] using huses
        exact Nat.lt_of_lt_of_le (h.linked hid hold) ht.links
    cursor := nofun }

/-- A context is added behind the others. -/
theorem Wired.adds {c : Context} (h : s.Wired) (hc : c.IsNew none none) :
    Wired { s with contexts := s.contexts ++ [c] } where
  registered hget := by
    have hold : _ < _ := h.registered hget
    simp only [Has, List.length_append]
    exact Nat.lt_add_right 1 hold
  lies {c'} hc' := by
    have hle : c'.index ≤ s.contexts.length := by simpa [Has, Nat.lt_succ_iff] using hc'
    -- an old context, or the one that is added
    rcases Nat.lt_or_eq_of_le hle with hlt | heq
    · have hsame : Session.context { s with contexts := s.contexts ++ [c] } c' = s.context c' := by
        simp [context, List.getElem?_append_left hlt, hlt]
      rw [hsame]
      exact h.lies hlt
    · have hnew : Session.context { s with contexts := s.contexts ++ [c] } c' = c := by
        simp [context, heq]
      rw [hnew]
      exact hc.liesIn _

/-! ## Statements -/

/-- A context that exists goes on to. -/
private theorem Fits.wired {ids : List ContextId} (h : Fits Wired Has ids s) (hwired : t.Wired)
    (hlength : s.contexts.length ≤ t.contexts.length) : Fits Wired Has ids t :=
  ⟨hwired, fun id hid => Nat.lt_of_lt_of_le (h.free id hid) hlength⟩

/-- Replacing a context takes none away. -/
private theorem length_le_of_set {c : Context} (h : t.contexts = s.contexts.set id.index c) :
    s.contexts.length ≤ t.contexts.length :=
  Nat.le_of_eq (by rw [h, List.length_set])

/-- However contexts are used, the session stays wired. -/
theorem rides_wired (ids : List ContextId) : Rides (Fits Wired Has ids) fun _ => True where
  quiet ht h := h.wired (h.holds.quiet ht) (Nat.le_of_eq (by rw [ht.contexts]))
  opens _ ht h := h.wired (h.holds.opens ht) (length_le_of_set ht.contexts)
  draws _ ht h := h.wired (h.holds.draws ht) (length_le_of_set ht.contexts)

/-- Whatever is done with contexts keeps the wiring. -/
theorem tends_wired : Tends Wired Has where
  calm ht h := (rides_wired _).quiet ht.toQuiet h
  access _ := (rides_wired _).access trivial fun ht h =>
    h.wired (h.holds.closes ht) (length_le_of_set ht.contexts)
  adds hc h := by
    refine ⟨h.holds.adds hc, fun id hid => ?_⟩
    rcases List.mem_cons.1 hid with rfl | hid
    · simp [Has]
    · exact Nat.lt_of_lt_of_le (h.free id hid) (by simp)
  controls _ h := h.wired ⟨h.holds.registered, h.holds.lies⟩ (Nat.le_refl _)

/-- Statements on servers leave sessions wired, on a context that is given as on any other. -/
theorem serves_wired (given : Option ContextId) :
    Serves (Fits Wired Has given.toList) given fun _ _ => True := by
  cases given with
  | none => exact tends_wired.serves (fun _ => trivial) fun _ _ => (rides_wired _).hosts trivial _
  | some c => exact serves_of_hosts (fun _ => (rides_wired _).hosts trivial _) fun _ => trivial

end Session

end Querysmith
