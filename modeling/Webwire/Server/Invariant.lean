import Webwire.Server.Restore
import Webwire.Server.CloseSession

/-!
# The session registry over every run of the server

A step of the server is one of its session operations, run as a whole: a new connection, a
restore on a live connection (any key, any outcome of the lookup, on a connection that may
already hold a session), a session created on a live connection under any generated key, a
client closing its session, the server closing a key's session on every connection, or a
connection going away.  `Reachable` is every state those steps reach, in any order, from a
server with no connection.

`RegistryInvariant` is what the registry promises (§3, §8): a connection bound to a session is
in the set of that session's key and in no other; every connection in a set is bound to a
session with that key; no set is empty; and no set is over the cap.  `registry_invariant`
proves it of every reachable state.

The proof goes through `Inv`, which says the first three in one line (a connection is in the
set of a key exactly when it is bound to a session with that key), and which every step keeps
because every step is built from three moves: unbind (`setSession con none`), bind and
register (`setSession con (some s)` then `register`), and adding or dropping a connection.
-/

namespace Webwire
namespace Server

/-- The registry as the server keeps it: a connection is registered under a key exactly when
it is bound to a session with that key; no set is empty; no set is over the cap. -/
structure Inv (srv : Server) : Prop where
  registered_iff : ∀ key con, srv.sessionRegistry.Registered key con ↔ srv.boundKey con = some key
  noEmptySet : srv.sessionRegistry.NoEmptySet
  withinCap : srv.sessionRegistry.WithinCap

variable {srv : Server}

/-! ## The three moves -/

/-- Binding a session to a live connection and registering it keeps the invariant. -/
theorem Inv.bind (hi : srv.Inv) {con : ConnId} {x : Connection} (hcon : srv.connections con = some x)
    {s : Session} {reg : SessionRegistry}
    (h : (srv.setSession con (some s)).sessionRegistry.register con s.key = .ok reg) :
    Inv { srv.setSession con (some s) with sessionRegistry := reg } where
  registered_iff key c := by
    have hb : ({ srv.setSession con (some s) with sessionRegistry := reg } : Server).boundKey c =
        (srv.setSession con (some s)).boundKey c := rfl
    rw [SessionRegistry.registered_register h, hb, boundKey_setSession hcon]
    change (srv.deregisterSession con).Registered key c ∨ _ ↔ _
    rw [registered_deregisterSession, hi.registered_iff]
    by_cases hc : c = con
    · subst hc
      simp [eq_comm]
    · simp [hc]
  noEmptySet := SessionRegistry.noEmptySet_register h (noEmptySet_deregisterSession con hi.noEmptySet)
  withinCap := SessionRegistry.withinCap_register h (withinCap_deregisterSession con hi.withinCap)

/-- Unbinding the session of a connection keeps the invariant. -/
theorem Inv.unbind (hi : srv.Inv) (con : ConnId) : (srv.setSession con none).Inv := by
  cases hcon : srv.connections con with
  | none =>
    have hk : srv.boundKey con = none := by simp [boundKey, hcon]
    have hu : Function.update srv.connections con none = srv.connections := by
      rw [← hcon]
      exact Function.update_eq_self con srv.connections
    have : srv.setSession con none = srv := by
      simp only [setSession, deregisterSession, hk, hcon, Option.map_none', hu]
    rwa [this]
  | some x =>
    refine ⟨fun key c => ?_, noEmptySet_deregisterSession con hi.noEmptySet,
      withinCap_deregisterSession con hi.withinCap⟩
    change (srv.deregisterSession con).Registered key c ↔ _
    rw [registered_deregisterSession, hi.registered_iff, boundKey_setSession hcon]
    by_cases hc : c = con
    · subst hc
      simp
    · simp [hc]

/-- Dropping a connection keeps the invariant. -/
theorem Inv.close (hi : srv.Inv) (con : ConnId) : (srv.close con).Inv := by
  refine ⟨fun key c => ?_, noEmptySet_deregisterSession con hi.noEmptySet,
    withinCap_deregisterSession con hi.withinCap⟩
  change (srv.deregisterSession con).Registered key c ↔ _
  rw [registered_deregisterSession, hi.registered_iff, boundKey_close]
  by_cases hc : c = con
  · subst hc
    simp
  · simp [hc]

/-- A new connection keeps the invariant. -/
theorem Inv.connect (hi : srv.Inv) {con : ConnId} (h : srv.connections con = none) :
    (srv.connect con).Inv where
  registered_iff key c := by
    rw [boundKey_connect h]
    exact hi.registered_iff key c
  noEmptySet := hi.noEmptySet
  withinCap := hi.withinCap

/-! ## The operations -/

theorem Inv.connectionCloseSession (hi : srv.Inv) (con : ConnId) (writeErr : Option Error) :
    (srv.connectionCloseSession con writeErr).1.Inv := by
  unfold Server.connectionCloseSession
  split
  · exact hi
  · split
    · exact hi
    · exact hi.unbind con

theorem Inv.closeEach (writeErr : ConnId → Option Error) :
    ∀ {srv : Server} (cs : List ConnId), srv.Inv → (Server.closeEach writeErr srv cs).1.Inv
  | _, [], hi => hi
  | _, c :: cs, hi => Inv.closeEach writeErr cs (hi.connectionCloseSession c (writeErr c))

theorem Inv.handleSessionRestore (hi : srv.Inv) (JS : JsonCodec Session) {con : ConnId}
    {x : Connection} (hcon : srv.connections con = some x) {message : Message}
    {result : LookupOutcome} {srv' : Server} {effs : List Effect}
    (h : srv.handleSessionRestore JS con message result = some (srv', effs)) : srv'.Inv := by
  rcases handleSessionRestore_cases JS h with rfl | ⟨s, reg, hreg, rfl⟩
  · exact hi
  · exact hi.bind hcon hreg

theorem Inv.createSession (hi : srv.Inv) {con : ConnId} {x : Connection}
    (hcon : srv.connections con = some x) {key : Bytes} {now : Nat} {info : Option SessionInfo}
    {srv' : Server} {effs : List Effect} (h : srv.createSession con key now info = .ok (srv', effs)) :
    srv'.Inv := by
  obtain ⟨reg, hreg, rfl, -⟩ := createSession_cases h
  exact hi.bind hcon hreg

theorem Inv.init (sessionsEnabled : Bool) (maxConns : Nat)
    (sessionInfoParser : Option (SessionInfo → Option SessionInfo)) :
    (Server.init sessionsEnabled maxConns sessionInfoParser).Inv where
  registered_iff key c := by
    simp [Server.init, SessionRegistry.Registered, boundKey]
  noEmptySet key s h := by simp [Server.init] at h
  withinCap _ key s h := by simp [Server.init] at h

/-! ## Runs -/

variable (JS : JsonCodec Session)

/-- One step of the server: a session operation, run as a whole. -/
inductive Step : Server → Server → Prop where
  | connect {srv : Server} (con : ConnId) (h : srv.connections con = none) :
      Step srv (srv.connect con)
  | restore {srv srv' : Server} {effs : List Effect} (con : ConnId) (x : Connection)
      (message : Message) (result : LookupOutcome) (hcon : srv.connections con = some x)
      (h : srv.handleSessionRestore JS con message result = some (srv', effs)) : Step srv srv'
  | createSession {srv srv' : Server} {effs : List Effect} (con : ConnId) (x : Connection)
      (key : Bytes) (now : Nat) (info : Option SessionInfo) (hcon : srv.connections con = some x)
      (h : srv.createSession con key now info = .ok (srv', effs)) : Step srv srv'
  | closeSession {srv : Server} (con : ConnId) (x : Connection) (writeErr : Option Error)
      (hcon : srv.connections con = some x) : Step srv (srv.connectionCloseSession con writeErr).1
  | closeKeySession {srv : Server} {res : CloseSessionResult} (sessionKey : Bytes)
      (writeErr : ConnId → Option Error) (h : srv.closeSession sessionKey writeErr = some res) :
      Step srv res.srv
  | close {srv : Server} (con : ConnId) (x : Connection) (hcon : srv.connections con = some x) :
      Step srv (srv.close con)

/-- The states a server reaches from one with no connection, by any steps in any order. -/
inductive Reachable : Server → Prop where
  | init (sessionsEnabled : Bool) (maxConns : Nat)
      (sessionInfoParser : Option (SessionInfo → Option SessionInfo)) :
      Reachable (Server.init sessionsEnabled maxConns sessionInfoParser)
  | step {srv srv' : Server} : Reachable srv → Step JS srv srv' → Reachable srv'

/-- Every step keeps the invariant. -/
theorem Inv.step {srv srv' : Server} (hi : srv.Inv) (h : Step JS srv srv') : srv'.Inv := by
  cases h with
  | connect con h => exact hi.connect h
  | restore con x message result hcon h => exact hi.handleSessionRestore JS hcon h
  | createSession con x key now info hcon h => exact hi.createSession hcon h
  | closeSession con x writeErr hcon => exact hi.connectionCloseSession con writeErr
  | closeKeySession sessionKey writeErr h =>
    rw [closeSession_eq] at h
    cases h
    exact hi.closeEach writeErr _
  | close con x hcon => exact hi.close con

theorem Inv.of_reachable {srv : Server} (h : Reachable JS srv) : srv.Inv := by
  induction h with
  | init sessionsEnabled maxConns sessionInfoParser => exact Inv.init _ _ _
  | step _ hs ih => exact ih.step JS hs

/-- What the session registry promises, part by part. -/
structure RegistryInvariant (srv : Server) : Prop where
  /-- A connection bound to a session is in the set of its key, -/
  mem_own : ∀ c s, srv.connections c = some ⟨some s⟩ → srv.sessionRegistry.Registered s.key c
  /-- and in no other. -/
  not_mem_other : ∀ c s key, srv.connections c = some ⟨some s⟩ →
    srv.sessionRegistry.Registered key c → key = s.key
  /-- A connection in a set is bound to a session with that set's key. -/
  bound_of_mem : ∀ key c, srv.sessionRegistry.Registered key c →
    ∃ s, srv.connections c = some ⟨some s⟩ ∧ s.key = key
  /-- No set is empty. -/
  noEmptySet : srv.sessionRegistry.NoEmptySet
  /-- With a cap, no set is over it. -/
  withinCap : srv.sessionRegistry.WithinCap

theorem Inv.registryInvariant {srv : Server} (hi : srv.Inv) : srv.RegistryInvariant where
  mem_own c s h := (hi.registered_iff _ _).mpr (by simp [boundKey, h])
  not_mem_other c s key h hk := by
    have := (hi.registered_iff _ _).mp hk
    simp only [boundKey, h, Option.some_bind, Option.map_some', Option.some.injEq] at this
    exact this.symm
  bound_of_mem key c hk := by
    have := (hi.registered_iff _ _).mp hk
    unfold boundKey at this
    cases hc : srv.connections c with
    | none => simp [hc] at this
    | some x =>
      obtain ⟨sess⟩ := x
      cases sess with
      | none => simp [hc] at this
      | some s => exact ⟨s, rfl, by simpa [hc] using this⟩
  noEmptySet := hi.noEmptySet
  withinCap := hi.withinCap

/-- **The session registry is consistent in every reachable state**, whatever steps were
taken, in whatever order, on however many connections. -/
theorem registry_invariant {srv : Server} (h : Reachable JS srv) : srv.RegistryInvariant :=
  (Inv.of_reachable JS h).registryInvariant

/-- A run of every kind of step, with a cap of two: three connections; the session `"K"`
created on connection 0 and restored on 1; `"L"` restored on 2, and then on 0, which holds
`"K"`; and connection 1 closing its session.  Connections 0 and 2 end bound to `"L"`, and 1 to
no session. -/
theorem reachable_sample :
    ∃ srv, Reachable .sessionKeys srv ∧ srv.sessionsEnabled = true ∧
      srv.boundKey 0 = some [76] ∧ srv.boundKey 1 = none ∧ srv.boundKey 2 = some [76] := by
  have h : Reachable .sessionKeys _ := Reachable.step (Reachable.step
    (Reachable.step (.init true 2 none) (.connect 0 rfl)) (.connect 1 rfl)) (.connect 2 rfl)
  have h := h.step (.createSession 0 ⟨none⟩ [75] 0 none rfl rfl)
  have h := h.step (.restore 1 ⟨none⟩ ⟨⟨[0, 0, 0, 0, 0, 0, 0, 1], rfl⟩, ⟨.utf8, [75]⟩⟩
    (.found 0 0 none) rfl rfl)
  have h := h.step (.restore 2 ⟨none⟩ ⟨⟨[0, 0, 0, 0, 0, 0, 0, 2], rfl⟩, ⟨.utf8, [76]⟩⟩
    (.found 0 0 none) rfl rfl)
  have h := h.step (.restore 0 ⟨some ⟨[75], 0, 0, none⟩⟩
    ⟨⟨[0, 0, 0, 0, 0, 0, 0, 3], rfl⟩, ⟨.utf8, [76]⟩⟩ (.found 0 0 none) rfl rfl)
  have h := h.step (.closeSession 1 ⟨some ⟨[75], 0, 0, none⟩⟩ none rfl)
  exact ⟨_, h, rfl, by decide, by decide, by decide⟩

/-- The registry after the sample run, in which a restore moved connection 0 from `"K"` to
`"L"` and connection 1 closed its session. -/
theorem registry_invariant_sample :
    ∃ srv, Reachable .sessionKeys srv ∧ srv.boundKey 0 = some [76] ∧ srv.boundKey 1 = none ∧
      srv.boundKey 2 = some [76] ∧ srv.RegistryInvariant :=
  let ⟨srv, h, _, h0, h1, h2⟩ := reachable_sample
  ⟨srv, h, h0, h1, h2, registry_invariant .sessionKeys h⟩

end Server
end Webwire
