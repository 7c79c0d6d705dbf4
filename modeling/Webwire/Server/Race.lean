import Webwire.Server.Invariant

/-!
# Restores that overlap

A reader handles a restore on its own connection, and `OnSessionLookup` is a call out of the
server that holds no lock.  So between a reader's admission check and its registration, other
readers run: they can pass the same check for the same key, and register first.

`Race` is the server together with the readers that are inside a restore, past the check
and waiting for their lookup.  A step is a reader passing the check (`passCheck`), a reader
finishing its restore once its lookup returns (`finish`), or any whole operation of the
server (`Server.Step`).  A reader that finishes with a failed registration reaches the
`panic` of `handleSessionRestore`, and the server is down.

`restore_race_panics` exhibits such a run: a cap of one connection per session, two
connections restoring the same key, both past the check before either registers.  Without an
overlap the panic cannot happen (`Server.handleSessionRestore_isSome`).
-/

namespace Webwire

/-- The server, the readers inside a restore (with the message and the key each checked),
and whether a reader has panicked. -/
structure Race where
  srv : Server
  inFlight : ConnId → Option (Message × Bytes)
  panicked : Bool

namespace Race

/-- What one reader does next. -/
inductive Action where
  /-- The reader of `con` runs the check of a restore. -/
  | passCheck (con : ConnId) (message : Message)
  /-- The lookup of the reader of `con` returns, and the reader runs the rest of the restore. -/
  | finish (con : ConnId) (result : LookupOutcome)

variable (JS : JsonCodec Session)

/-- A reader's step; `none` when the reader cannot take it. -/
def next (st : Race) : Action → Option Race
  | .passCheck con message =>
    match st.inFlight con, st.srv.connections con, st.srv.restoreAdmit message with
    | none, some _, .ok key =>
      some { st with inFlight := Function.update st.inFlight con (some (message, key)) }
    | _, _, _ => none
  | .finish con result =>
    match st.inFlight con with
    | none => none
    | some (message, key) =>
      match st.srv.restoreFinish JS con message key result with
      | some (srv', _) => some ⟨srv', Function.update st.inFlight con none, st.panicked⟩
      | none => some { st with inFlight := Function.update st.inFlight con none, panicked := true }

/-- Readers' steps in order. -/
def run : Race → List Action → Option Race
  | st, [] => some st
  | st, a :: as => (next JS st a).bind (run · as)

/-- The states of the concurrent server, from one with no connection. -/
inductive Reachable : Race → Prop where
  | init (sessionsEnabled : Bool) (maxConns : Nat)
      (sessionInfoParser : Option (SessionInfo → Option SessionInfo)) :
      Reachable ⟨Server.init sessionsEnabled maxConns sessionInfoParser, fun _ => none, false⟩
  | next {st st' : Race} {a : Action} : Reachable st → next JS st a = some st' → Reachable st'
  | op {st : Race} {srv' : Server} : Reachable st → Server.Step JS st.srv srv' →
      Reachable { st with srv := srv' }

theorem reachable_run : ∀ {st st' : Race} {as : List Action},
    Reachable JS st → run JS st as = some st' → Reachable JS st'
  | _, _, [], h, hr => by cases hr; exact h
  | st, _, a :: as, h, hr => by
    obtain ⟨st₁, h₁, hr⟩ := Option.bind_eq_some.mp hr
    exact reachable_run (.next h h₁) hr

/-- The restore message of the race: key `"K"`. -/
def raceMessage : Message := ⟨⟨[0, 0, 0, 0, 0, 0, 0, 0], rfl⟩, ⟨.utf8, [75]⟩⟩

/-- **Overlapping restores crash the server.**  Sessions capped at one connection, two
connections, and the session `"K"` in the store: both readers pass the check (the key has no
set yet), the first registers, and the registration of the second fails, which panics. -/
theorem restore_race_panics :
    ∃ st, Reachable (.only ⟨[75], 0, 0, none⟩) st ∧ st.panicked = true := by
  have h₀ : Reachable (.only ⟨[75], 0, 0, none⟩)
      ⟨((Server.init true 1 none).connect 1).connect 2, fun _ => none, false⟩ :=
    .op (.op (.init true 1 none) (.connect 1 rfl)) (.connect 2 rfl)
  have hrun : (run (.only ⟨[75], 0, 0, none⟩)
      ⟨((Server.init true 1 none).connect 1).connect 2, fun _ => none, false⟩
      [.passCheck 1 raceMessage, .passCheck 2 raceMessage, .finish 1 (.found 0 0 none),
        .finish 2 (.found 0 0 none)]).map (·.panicked) = some true := by
    decide
  obtain ⟨st, hst, hp⟩ := Option.map_eq_some'.mp hrun
  exact ⟨st, reachable_run _ h₀ hst, hp⟩

end Race

end Webwire
