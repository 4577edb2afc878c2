import Querysmith.Proofs.Session.Placing

/-!
# Routes to a server

Callers ask for a statement in several ways: at once, through the entry points of a server, as the
last of the calls on a builder, or as the last of the calls on a pending update. On each of these
routes the server and the context are handed on from one object to the next, and the calls before
the last one leave them alone, whatever they run themselves. So the statement at the end of every
route runs on the connection for the server and the context at its start.

## Main definitions

- `Route`: the ways in which a statement is asked for
- `Route.before`: the calls on a route before the one that runs the statement

## Key results

- `Step.runAll_target`: calls on a builder leave its server and its context alone
- `Builder.placed_runAll`: the last call on a builder sends its statement to the right place
- `Route.placed_of_wired`: and so does the last call on every route
-/

namespace Querysmith

open Session EStateM

/-- The ways in which callers ask for a statement. -/
inductive Route where
  | direct (statement : Statement)
  /-- A statement through the entry points of a server. -/
  | chainQuery (chain : ServerChain) (sql : Value) (values : Option Value) (shape : ReturnShape)
  /-- A terminal call on a builder for a table, after other calls on it. -/
  | builder (name : Value) (steps : List (Step Terminal)) (call : Terminal) (server : Value)
      (given : Option ContextId)
  /-- The same on a builder that the entry points of a server give. -/
  | chainBuilder (chain : ServerChain) (name : Value) (steps : List (Step Terminal))
      (call : Terminal)
  /-- The run of a pending update, after the calls that say which rows it is for. -/
  | update (table data : Value) (calls : List UpdateCall) (server : Value)
      (given : Option ContextId)

namespace Route

/-- The server at the start of the route. -/
def server : Route → Value
  | direct statement => statement.server
  | chainQuery chain .. | chainBuilder chain .. => chain.server
  | builder _ _ _ server _ | update _ _ _ server _ => server

/-- The context that is given at the start of the route. -/
def given : Route → Option ContextId
  | direct statement => statement.given
  | chainQuery chain .. | chainBuilder chain .. => chain.context
  | builder _ _ _ _ given | update _ _ _ _ given => given

/-- The calls before the one that runs the statement. -/
def before : Route → Act Unit
  | direct _ | chainQuery .. => pure ()
  | builder name steps _ server given => discard ((tableOf server name given).runAll steps)
  | chainBuilder chain name steps _ => discard ((chain.table name).runAll steps)
  | update table data calls server given => discard (updateRows table data calls server given)

/-- The whole route. -/
def run : Route → Act Reply
  | direct statement => statement.run
  | chainQuery chain sql values shape => chain.query sql values shape
  | builder name steps call server given =>
    (tableOf server name given).runAll (steps ++ [.finish call])
  | chainBuilder chain name steps call => (chain.table name).runAll (steps ++ [.finish call])
  | update table data calls server given =>
    updateRows table data (calls ++ [.execute]) server given

end Route

variable {s u : Session} {b b' : Builder} {steps : List (Step Terminal)} {r : Reply}

/-! ## Calls on a builder -/

/-- One more call is run where the calls before it have come to. -/
theorem Step.runAll_concat {τ ω : Type} {finish : τ → Builder → EStateM Error ω Reply}
    (step : Step τ) (steps : List (Step τ)) :
    Step.runAll finish (steps ++ [step]) =
      (Step.runAll finish steps >>= fun _ => step.run finish) := by
  induction steps with
  | nil =>
    rw [List.nil_append, Step.runAll, Step.runAll]
    rfl
  | cons first rest ih =>
    -- a single call is run as it is, without the calls after it
    cases rest with
    | nil =>
      show (first.run finish >>= fun _ => Step.runAll finish [step]) = _
      rw [Step.runAll, Step.runAll]
    | cons next rest =>
      show (first.run finish >>= fun _ => Step.runAll finish (next :: rest ++ [step])) =
        (first.run finish >>= fun _ => Step.runAll finish (next :: rest)) >>=
          fun _ => step.run finish
      rw [ih, bind_assoc]

/-- Calls on a builder leave its server and its context alone. -/
theorem Step.runAll_target (hrun : Step.runAll Terminal.run steps ⟨b, s⟩ = .ok r ⟨b', u⟩) :
    b'.server = b.server ∧ b'.context = b.context := by
  -- the turn that leads back to where it starts
  let turn : Turn := ⟨b.server, b.context, b.server, b.context⟩
  have hmirrored : turn.Mirrored (fun _ => True) Terminal.run := by
    rintro call d t (hserver : d.server = b.server) (hcontext : d.context = b.context) -
    have hsame : d.retarget b.server b.context = d := by
      rw [← hserver, ← hcontext]
      rfl
    exact ⟨by rw [hsame], trivial⟩
  have hbefore : turn.Before (fun _ => True) (⟨b, s⟩ : Scene Session) := ⟨trivial, rfl, rfl⟩
  rcases (Step.runAll_mirrors hmirrored steps).outcome hbefore with
    ⟨r', _, t, hok, -, -, ht⟩ | ⟨e, t, herror, -⟩
  · rw [hrun] at hok
    cases hok
    exact ⟨ht.server, ht.context⟩
  · rw [hrun] at herror
    cases herror

/-- A run of calls that succeeds gives the builder that the next call is on. -/
theorem Builder.runAll_eq_ok (hrun : b.runAll steps s = .ok r u) :
    ∃ b', b'.server = b.server ∧ b'.context = b.context ∧
      ∀ call, (b.runAll (steps ++ [.finish call]) s).state = (call.run b' u).state := by
  rw [Builder.runAll] at hrun
  cases hsteps : Step.runAll Terminal.run steps ⟨b, s⟩ with
  | error e t =>
    rw [hsteps] at hrun
    cases hrun
  | ok r' t =>
    rw [hsteps] at hrun
    cases hrun
    obtain ⟨hserver, hcontext⟩ := Step.runAll_target hsteps
    refine ⟨t.builder, hserver, hcontext, fun call => ?_⟩
    -- what is left is a single terminal call
    have hlast :
        b.runAll (steps ++ [.finish call]) s = t.builder.runAll [.finish call] t.world := by
      rw [Builder.runAll, Step.runAll_concat, bind_of_ok hsteps, Builder.runAll, Step.runAll]
    rw [hlast, runAll_finish]

/-- After any calls on a builder, a terminal call sends its statement to the right place. -/
theorem Builder.placed_runAll (call : Terminal) (hs : s.Wired)
    (hgiven : ∀ c, b.context = some c → s.Has c) (hrun : b.runAll steps s = .ok r u) :
    Placed b.server b.context u (b.runAll (steps ++ [.finish call]) s).state := by
  -- the calls before it leave the session wired
  have hfits : Fits Wired Has b.context.toList s :=
    ⟨hs, fun c hc => hgiven c (Option.mem_toList.1 hc)⟩
  have hafter := ((serves_wired b.context).keeps_runAll rfl steps).state hfits
  rw [hrun] at hafter
  obtain ⟨b', hserver, hcontext, hlast⟩ := runAll_eq_ok hrun
  rw [hlast call, ← hserver, ← hcontext]
  refine placed_terminal call b' hafter.holds fun c hc => ?_
  rw [hcontext] at hc
  exact hafter.free c (Option.mem_toList.2 hc)

/-! ## Routes -/

/-- Statements run on the right connection: on every route, in whatever session it starts and
whatever the calls before the last one do, and whether the last one succeeds or fails. -/
theorem Route.placed_of_wired (route : Route) (hs : s.Wired)
    (hgiven : ∀ c, route.given = some c → s.Has c) (hbefore : route.before s = .ok () u) :
    Placed route.server route.given u (route.run s).state := by
  cases route with
  -- nothing is called before a direct statement
  | direct statement =>
    cases hbefore
    exact statement.placed hs hgiven
  | chainQuery chain sql values shape =>
    cases hbefore
    exact placed_query sql values shape chain.server hs hgiven
  | builder name steps call server given =>
    -- the earlier calls leave a builder for the same server and context
    obtain ⟨r, hrun⟩ := ok_of_discard hbefore
    exact Builder.placed_runAll call hs hgiven hrun
  | chainBuilder chain name steps call =>
    obtain ⟨r, hrun⟩ := ok_of_discard hbefore
    exact Builder.placed_runAll call hs hgiven hrun
  | update table data calls server given =>
    obtain ⟨r, hrun⟩ := ok_of_discard hbefore
    cases hdata : Entries.ofValue data with
    | error e =>
      rw [updateRows, bind_of_error (ofExcept_of_error hdata s)] at hrun
      cases hrun
    | ok entries =>
      rw [updateRows, bind_of_ok (ofExcept_of_ok hdata s)] at hrun
      -- a pending update is its calls on the builder, the last one being the run
      have hlast : updateRows table data (calls ++ [.execute]) server given s =
          (tableOf server table given).runAll
            (calls.map (UpdateCall.step entries) ++ [.finish (.update (.map entries))]) s := by
        rw [updateRows, bind_of_ok (ofExcept_of_ok hdata s), List.map_append]
        rfl
      show Placed server given u (updateRows table data (calls ++ [.execute]) server given s).state
      rw [hlast]
      exact Builder.placed_runAll _ hs hgiven hrun

/-- The cursors on which a route sends statements between two contexts. -/
def cursorsOf (route : Route) : List CursorId :=
  (route.run sideBySide).state.trace.filterMap Event.sentOn?

private theorem wired_sideBySide : sideBySide.Wired where
  registered hget := by
    obtain rfl := List.mem_singleton.1 (Registry.mem_contexts hget)
    exact Nat.zero_lt_two
  lies {c} hc := by
    -- two contexts, each with a connection of the caller
    match c with
    | ⟨0⟩ =>
      refine ⟨fun {l} huses => ?_, nofun⟩
      obtain rfl : l = ⟨0⟩ := Lent.handle.inj huses
      exact Nat.zero_lt_two
    | ⟨1⟩ =>
      refine ⟨fun {l} huses => ?_, nofun⟩
      obtain rfl : l = ⟨1⟩ := Lent.handle.inj huses
      exact Nat.one_lt_two
    | ⟨n + 2⟩ => exact absurd hc (Nat.not_lt.2 (Nat.le_add_left 2 n))

/-- A comparison with a plain column is just noted. -/
private theorem runAll_whereCompare (b : Builder) (column operator value conjunction : Value)
    (s : Session) :
    b.runAll [.whereCompare (.value column) operator value conjunction] s = .ok .itself s := by
  rw [Builder.runAll, Step.runAll, Step.run]
  rfl

/-- The routes of a caller who has the second context, or none, on a server. -/
def routesOf (server : Value) (given : Option ContextId) : List Route :=
  let chain : ServerChain := { server, context := given }
  let one : Operand Terminal := .value (.int 1)
  [.chainQuery chain (.str "SELECT 1") none .rows,
    .builder (.str "t") [.whereCompare one .null .null Condition.and] .get server given,
    .chainBuilder chain (.str "t") [.whereCompare one .null .null Condition.and] .count,
    .update (.str "t") (.map [(.str "x", .int 1)])
      [.whereCompare one .null .null Condition.and] server given]

/-- With the second context given every route leads there, and with none given it leads to the
transaction of its server, or to a connection that is opened for it. -/
theorem Route.placed_of_wired_sideBySide :
    sideBySide.Wired ∧ sideBySide.Has ⟨1⟩ ∧
    (∀ server given, given = none ∨ given = some ⟨1⟩ → ∀ route ∈ routesOf server given,
      route.before sideBySide = .ok () sideBySide ∧
        Placed server given sideBySide (route.run sideBySide).state) ∧
    (∀ route ∈ routesOf (.str "a") (some ⟨1⟩), cursorsOf route = [⟨⟨1⟩, 0⟩]) ∧
    (∀ route ∈ routesOf (.str "a") none, cursorsOf route = [⟨⟨0⟩, 0⟩]) ∧
    ∀ route ∈ routesOf (.str "b") none, cursorsOf route = [⟨⟨2⟩, 1⟩] := by
  have hhas : sideBySide.Has ⟨1⟩ := Nat.one_lt_two
  refine ⟨wired_sideBySide, hhas, ?_, by decide +kernel, by decide +kernel, by decide +kernel⟩
  intro server given hgiven route hroute
  have hroute : route.server = server ∧ route.given = given ∧
      route.before sideBySide = .ok () sideBySide := by
    -- a condition is noted in the builder, and the session stays
    have hnoted := fun b => runAll_whereCompare b (.int 1) .null .null Condition.and sideBySide
    have hdropped : ∀ {x : Act Reply}, x sideBySide = .ok .itself sideBySide →
        discard x sideBySide = .ok () sideBySide := fun hx => bind_of_ok hx _
    simp only [routesOf, List.mem_cons, List.not_mem_nil, or_false] at hroute
    -- the four routes, of which the last three begin with a condition
    rcases hroute with rfl | rfl | rfl | rfl
    · exact ⟨rfl, rfl, rfl⟩
    · exact ⟨rfl, rfl, hdropped (hnoted (tableOf server (.str "t") given))⟩
    · exact ⟨rfl, rfl, hdropped (hnoted (tableOf server (.str "t") given))⟩
    · exact ⟨rfl, rfl, hdropped (hnoted (tableOf server (.str "t") given))⟩
  obtain ⟨hserver, hcontext, hbefore⟩ := hroute
  have hplaced := Route.placed_of_wired route wired_sideBySide (fun c hc => ?_) hbefore
  · rw [hserver, hcontext] at hplaced
    exact ⟨hbefore, hplaced⟩
  · rw [hcontext] at hc
    -- a given context is the second one, which exists
    rcases hgiven with rfl | rfl
    · cases hc
    · cases hc
      exact hhas

end Querysmith
