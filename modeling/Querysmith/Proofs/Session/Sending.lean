import Querysmith.Proofs.Session.Access

/-!
# Statements that are sent

Getting at the cursor of a context sends no statement, and neither does closing a context. So what
a statement on a context sends is that statement, whatever has to be opened for it.

## Key results

- `keeps_sent_cursor`, `keeps_sent_close`: what sends nothing
- `runText_sends`: what a statement on a context sends
-/

namespace Querysmith

open Session EStateM

namespace Session

/-- What was sent since is what was added to the statements. -/
theorem sent_since {s t : Session} {new : List Event} (htrace : s.trace <:+ t.trace)
    (hnew : t.sent = new ++ s.sent) : (since s t).filter Event.isStatement = new := by
  rw [sent, ← since_append htrace, List.filter_append] at hnew
  exact List.append_cancel_right hnew

/-- Where nothing was sent at the end, a statement was sent before. -/
theorem mem_since_of_sent_eq {s t u : Session} (h : s.trace <:+ t.trace) (h' : t.trace <:+ u.trace)
    (hsent : u.sent = t.sent) {e : Event} (he : e ∈ since s u) (hstatement : e.isStatement = true) :
    e ∈ since s t := by
  have hnothing : (since t u).filter Event.isStatement = [] := sent_since h' hsent
  rw [since_trans h h'] at he
  exact (List.mem_append.1 he).resolve_left fun hmem =>
    List.filter_eq_nil_iff.1 hnothing e hmem hstatement

end Session

variable {l : List Event}

/-! ## What sends nothing -/

/-- An event that is no statement is not counted. -/
theorem keeps_sent_emit {e : Event} (h : e.isStatement = false) :
    Keeps (fun s => s.sent = l) (emit e) :=
  keeps_modify fun s hs => by rwa [sent, List.filter_cons_of_neg (by simp [h])]

/-- A calm action sends nothing. -/
theorem IsCalm.keeps_sent {α : Type} {x : Act α} (h : IsCalm x) : Keeps (fun s => s.sent = l) x :=
  h.keeps fun ht hs => ht.sent.trans hs

/-- Opening a connection sends no statement. -/
theorem keeps_sent_openLink (c : Connector) : Keeps (fun s => s.sent = l) c.openLink := by
  -- connecting is noted, and is no statement
  have hconnect : Keeps (fun s => s.sent = l) (LinkId.connect c.connectParameters) := by
    rw [LinkId.connect]
    refine gives_get.bind fun s hs => ?_
    refine Keeps.bind (x := set _) (fun _ _ => ⟨hs, trivial⟩) fun _ => ?_
    split
    · exact (keeps_sent_emit rfl).bind fun _ => gives_throw _
    · exact (keeps_sent_emit rfl).bind fun _ => keeps_pure _
  simp only [Connector.openLink]
  split
  · exact gives_throw _
  · exact hconnect.bind fun link => (isCalm_makeCursor link).keeps_sent.bind fun _ => keeps_pure _

/-- Reading the connection of a context sends no statement. -/
theorem keeps_sent_connection (id : ContextId) : Keeps (fun s => s.sent = l) id.connection := by
  rw [ContextId.connection]
  refine gives_get.bind fun s _ => ?_
  dsimp only
  split
  · exact keeps_pure _
  · exact keeps_pure _
  · exact (isCalm_ofServer _ _).keeps_sent.bind fun c => (keeps_sent_openLink c).bind fun o =>
      Keeps.bind (keeps_modify fun _ h => h) fun _ => keeps_pure _

/-- Reading the cursor of a context sends no statement. -/
theorem keeps_sent_cursor (id : ContextId) : Keeps (fun s => s.sent = l) id.cursor := by
  rw [ContextId.cursor]
  refine gives_get.bind fun s _ => ?_
  split
  · exact keeps_pure _
  · exact (keeps_sent_connection id).bind fun link => (keeps_ofExcept _).bind fun link =>
      (isCalm_makeCursor link).keeps_sent.bind fun cursor =>
      Keeps.bind (keeps_modify fun _ h => h) fun _ => keeps_pure _

/-- Closing a context sends no statement. -/
theorem keeps_sent_close (id : ContextId) : Keeps (fun s => s.sent = l) id.close := by
  rw [ContextId.close]
  refine gives_get.bind fun s _ => ?_
  dsimp only
  split
  · rw [OpenLink.close]
    refine Keeps.bind ?_ fun _ => keeps_modify fun _ h => h
    exact (keeps_sent_emit rfl).bind fun _ => keeps_sent_emit rfl
  · exact keeps_pure _

/-! ## What a statement sends -/

/-- A statement sends itself or, when it does not come to that, nothing. -/
theorem runText_sends (id : ContextId) (sql : String) (s : Session) :
    (id.runText sql s).Meets
      (fun cursor t => t.sent = .execute cursor (.str sql) none none :: s.sent)
      fun t => t.sent = s.sent ∨
        ∃ cursor reason, t.sent = .execute cursor (.str sql) none (some reason) :: s.sent := by
  refine meets_bind (((keeps_sent_cursor id).meets rfl).mono_error fun _ ht => .inl ht) ?_
  rintro (cursor | v) t ht
  · show ((do cursor.execute (.str sql) none; return cursor : Act CursorId) t).Meets _ _
    refine meets_bind ((execute_outcome cursor (.str sql) none t).mono (fun _ _ hu => hu.2)
      fun u hu => ?_) ?_
    -- a failing statement was sent as well
    · obtain ⟨_, reason, hu⟩ := hu
      exact .inr ⟨cursor, reason, by rw [sent, hu, List.filter_cons_of_pos rfl, ← ht, sent]⟩
    · intro _ u hu
      show u.sent = _
      rw [sent, hu, List.filter_cons_of_pos rfl, ← ht, sent]
  · exact .inl ht

end Querysmith
