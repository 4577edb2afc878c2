import Mathlib.Data.List.DropRight
import Mathlib.Data.List.Induction
import Querysmith.Proofs.Keeping
import Querysmith.Proofs.Session.Keys

/-!
# What is registered after calls

Calls on the book of profiles register names and take them out, and the book does not remember
them. What it holds can be told from the calls alone: a name has the profile that it was given first
since it was taken out last, and the names stand in the order in which these registrations were
made.

## Main definitions

- `ProfileCall.play`: the book after calls, each made whether or not those before it failed
- `ProfileCall.registered?`: the profile that a name was given first since it was taken out last
- `ProfileCall.standing`: the registrations that stand, in order

## Key results

- `ProfileCall.state_run`: what one call does to the book
- `ProfileCall.get?_play`, `ProfileCall.play_eq`: what the book holds after calls
-/

namespace Querysmith

open EStateM

/-- A call on the book of profiles. -/
inductive ProfileCall where
  | register (server config : Value)
  | unregister (server : Value)
  | configure (server config : Value)

/-- Values that are the same key have the same profile. -/
theorem ProfileBook.get?_congr {a b : Value} (h : a.sameKey b = true) (book : ProfileBook) :
    book.get? a = book.get? b := by
  simp only [get?, Value.sameKey_congr h]

namespace ProfileCall

/-- Makes a call. -/
def run : ProfileCall → EStateM Error ProfileBook Unit
  | .register server config => do let _ ← ProfileBook.register server config
  | .unregister server => ProfileBook.unregister server
  | .configure server config => ProfileBook.configure server config

/-- The book after calls, each made whether or not those before it failed. -/
def play (calls : List ProfileCall) (book : ProfileBook) : ProfileBook :=
  calls.foldl (fun book call => (call.run book).state) book

/-- The name and the profile of a registration, when they can be registered. -/
def offer? : ProfileCall → Option (Value × Entries)
  | .register server config | .configure server config =>
    match server.asKey, Entries.ofValue config with
    | .ok server, .ok profile => some (server, profile)
    | _, _ => none
  | .unregister _ => none

/-- Whether the call takes a name out. -/
def removes (name : Value) : ProfileCall → Bool
  | .unregister server => name.sameKey server
  | _ => false

/-- The profile that the call would register a name with. -/
def profileFor? (name : Value) (call : ProfileCall) : Option Entries :=
  call.offer?.bind fun offer => if offer.1.sameKey name then some offer.2 else none

/-- The profile that a name was given first since it was taken out last. -/
def registered? (name : Value) (calls : List ProfileCall) : Option Entries :=
  (calls.rtakeWhile fun call => !call.removes name).findSome? (profileFor? name)

/-- The registrations among calls that stand: the name was free at the time and is not taken out by
a later call. The calls in `before` have come before. -/
def standingFrom (before : List ProfileCall) : List ProfileCall → List (Value × Entries)
  | [] => []
  | call :: after =>
    (call.offer?.toList.filter fun offer =>
      (registered? offer.1 before).isNone && !after.any (removes offer.1)) ++
      standingFrom (before ++ [call]) after

/-- The registrations that stand after calls, in order. -/
def standing (calls : List ProfileCall) : List (Value × Entries) := standingFrom [] calls

/-! ## One call more -/

/-- The last call decides first what is registered under a name. -/
theorem registered?_concat (name : Value) (calls : List ProfileCall) (call : ProfileCall) :
    registered? name (calls ++ [call]) =
      if call.removes name then none else (registered? name calls).or (call.profileFor? name) := by
  rw [registered?, List.rtakeWhile_concat]
  cases call.removes name <;> simp [registered?, List.findSome?_append]

/-- One more call takes out what it removes and adds what it offers. -/
theorem standingFrom_concat (before calls : List ProfileCall) (call : ProfileCall) :
    standingFrom before (calls ++ [call]) =
      ((standingFrom before calls).filter fun p => !call.removes p.1) ++
        (call.offer?.toList.filter fun offer =>
          (registered? offer.1 (before ++ calls)).isNone) := by
  induction calls generalizing before with
  | nil => simp [standingFrom]
  | cons first rest ih =>
    rw [List.cons_append, standingFrom, standingFrom, ih, List.filter_append, List.append_assoc,
      List.append_assoc, List.singleton_append]
    congr 1
    -- the call is a later one for the first registration too
    rw [List.filter_filter]
    refine List.filter_congr fun offer _ => ?_
    rw [List.any_append, List.any_cons, List.any_nil, Bool.or_false, Bool.not_or,
      ← Bool.and_assoc, Bool.and_comm]

/-! ## What a call does -/

/-- A name is registered when it is free and can be, with a profile that can be read. -/
theorem state_register (server config : Value) (book : ProfileBook) :
    (ProfileBook.register server config book).state.profiles = book.profiles ++
      (offer? (.register server config)).toList.filter fun offer => !book.contains offer.1 := by
  rw [ProfileBook.register, offer?]
  -- the name is read as a key first, and what is there already is not replaced
  cases hkey : server.asKey with
  | error e => exact (List.append_nil _).symm
  | ok key =>
    rw [bind_of_ok (show (ofExcept (Except.ok key) : EStateM Error ProfileBook Value) book =
      .ok key book from rfl)]
    rw [bind_of_ok (show (get : EStateM Error ProfileBook ProfileBook) book =
      .ok book book from rfl)]
    cases hconfig : Entries.ofValue config with
    | error e => by_cases hcontains : book.contains key <;> simp [hcontains] <;> rfl
    | ok profile => by_cases hcontains : book.contains key <;> simp [hcontains] <;> rfl

/-- What cannot be a name is not taken out, and nothing is the same key as it. -/
theorem state_unregister (server : Value) (book : ProfileBook) :
    (ProfileBook.unregister server book).state.profiles =
      book.profiles.filter fun p => !p.1.sameKey server := by
  rw [ProfileBook.unregister]
  rw [bind_of_ok (show (get : EStateM Error ProfileBook ProfileBook) book = .ok book book from rfl)]
  -- an empty book does not look at the name
  cases hempty : book.profiles.isEmpty with
  | true =>
    rw [List.isEmpty_iff.1 hempty]
    exact List.isEmpty_iff.1 hempty
  | false =>
    cases hkey : server.asKey with
    | error e =>
      -- a value that cannot be a key is the name of nothing
      have hall : ∀ p ∈ book.profiles, (!p.1.sameKey server) = true := by
        intro p _
        simp [Value.sameKey_of_key?_eq_none (Value.key?_of_asKey_error hkey)]
      exact (List.filter_eq_self.2 hall).symm
    | ok key =>
      obtain ⟨-, rfl⟩ := Value.asKey_eq_ok_iff.1 hkey
      rfl

/-- A name that is taken is reported, and what has been done stays. -/
theorem state_configure (server config : Value) (book : ProfileBook) :
    (ProfileBook.configure server config book).state.profiles = book.profiles ++
      (offer? (.configure server config)).toList.filter fun offer => !book.contains offer.1 := by
  rw [ProfileBook.configure]
  cases hconfig : Entries.ofValue config with
  | error e =>
    have hoffer : offer? (.configure server config) = none := by
      rw [offer?, hconfig]
      cases server.asKey <;> rfl
    rw [hoffer]
    exact (List.append_nil _).symm
  | ok entries =>
    -- the entries of a map are registered as they are
    have hoffer : offer? (.configure server config) = offer? (.register server (.map entries)) := by
      rw [offer?, offer?, hconfig]
      rfl
    rw [hoffer, ← state_register]
    rw [bind_of_ok (show (ofExcept (Except.ok entries) : EStateM Error ProfileBook Entries) book =
      .ok entries book from rfl)]
    -- what registering has returned makes no difference to the book
    cases hregister : ProfileBook.register server (.map entries) book with
    | ok done t =>
      rw [bind_of_ok hregister]
      cases done <;> rfl
    | error e t =>
      rw [bind_of_error hregister]
      rfl

/-- A call takes names out, or registers a name that is not registered. -/
theorem state_run (call : ProfileCall) (book : ProfileBook) :
    (call.run book).state.profiles =
      (book.profiles.filter fun p => !call.removes p.1) ++
        call.offer?.toList.filter fun offer => !book.contains offer.1 := by
  -- a registration removes nothing, and a removal offers nothing
  cases call with
  | register server config =>
    rw [run, state_bind_pure, state_register]
    simp [removes]
  | unregister server =>
    rw [run, state_unregister]
    simp [removes, offer?]
  | configure server config =>
    rw [run, state_configure]
    simp [removes]

/-- Names that are the same key are removed alike. -/
theorem removes_congr {a b : Value} (h : a.sameKey b = true) (call : ProfileCall) :
    call.removes a = call.removes b := by
  cases call with
  | unregister server => exact Value.sameKey_trans h
  | _ => rfl

/-- What is found under a name that is not taken out is still found. -/
theorem find?_kept (call : ProfileCall) (profiles : List (Value × Entries)) (name : Value) :
    (profiles.filter fun p => !call.removes p.1).find? (fun p => p.1.sameKey name) =
      if call.removes name then none else profiles.find? fun p => p.1.sameKey name := by
  induction profiles with
  | nil => simp
  | cons p rest ih =>
    rw [List.filter_cons, List.find?_cons]
    cases hp : p.1.sameKey name with
    | true =>
      -- the call takes out this entry just when it takes out the name
      rw [removes_congr hp]
      cases hremoves : call.removes name with
      | true => simpa [hremoves] using ih
      | false => simp [hp]
    | false => cases call.removes p.1 <;> simpa [hp] using ih

/-- A name that is taken out has no profile, and another one keeps its own before it is given
one. -/
theorem get?_state_run (call : ProfileCall) (book : ProfileBook) (name : Value) :
    (call.run book).state.get? name =
      if call.removes name then none else (book.get? name).or (call.profileFor? name) := by
  rw [ProfileBook.get?, state_run, List.find?_append, find?_kept, profileFor?, Option.map_or]
  cases hoffer : call.offer? with
  | none => cases call.removes name <;> simp [ProfileBook.get?]
  | some offer =>
    -- a call that registers a name takes none out
    have hremoves : call.removes name = false := by
      cases call with
      | unregister server => cases hoffer
      | _ => rfl
    rw [hremoves, if_neg Bool.false_ne_true, if_neg Bool.false_ne_true, ← ProfileBook.get?,
      Option.toList_some, List.filter_singleton]
    cases hname : offer.1.sameKey name with
    | true =>
      rw [ProfileBook.contains, ProfileBook.get?_congr hname]
      cases book.get? name <;> simp [hname]
    | false => cases book.contains offer.1 <;> simp [hname]

/-! ## What calls do -/

/-- One more call is made on the book that the others left. -/
theorem play_concat (calls : List ProfileCall) (call : ProfileCall) (book : ProfileBook) :
    play (calls ++ [call]) book = (call.run (play calls book)).state := by
  rw [play, List.foldl_append]
  rfl

/-- No name is registered twice. -/
theorem distinct_play (calls : List ProfileCall) :
    (play calls {}).profiles.Pairwise fun a b => a.1.sameKey b.1 = false := by
  -- the last call is split off, as the book grows at its end
  induction calls using List.reverseRecOn with
  | nil => exact List.Pairwise.nil
  | append_singleton calls call ih =>
    rw [play_concat, state_run, List.pairwise_append]
    refine ⟨ih.sublist List.filter_sublist, ?_, fun p hp offer hoffer => ?_⟩
    · cases call.offer? with
      | none => exact List.Pairwise.nil
      | some offer => exact (List.pairwise_singleton _ _).sublist List.filter_sublist
    · -- the name that is registered is none of those in the book
      have hfree := (List.mem_filter.1 hoffer).2
      have hnone : (play calls {}).get? offer.1 = none := by
        simpa [ProfileBook.contains] using hfree
      have hall := Option.map_eq_none_iff.1 hnone
      simpa using List.find?_eq_none.1 hall p (List.mem_of_mem_filter hp)

/-- After calls a name has the profile that it was given first since it was taken out last. -/
theorem get?_play (calls : List ProfileCall) (name : Value) :
    (play calls {}).get? name = registered? name calls := by
  induction calls using List.reverseRecOn with
  | nil => rfl
  | append_singleton calls call ih =>
    rw [registered?_concat, play_concat, ← ih, get?_state_run]

/-- After calls the book holds the registrations that stand. -/
theorem profiles_play (calls : List ProfileCall) : (play calls {}).profiles = standing calls := by
  induction calls using List.reverseRecOn with
  | nil => rfl
  | append_singleton calls call ih =>
    rw [play_concat, state_run, standing, standingFrom_concat, ih, List.nil_append]
    congr 1
    -- a name is free in the book when no registration of it stands
    refine List.filter_congr fun offer _ => ?_
    rw [ProfileBook.contains, get?_play]
    simp

end ProfileCall

end Querysmith
