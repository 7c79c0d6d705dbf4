import Webwire.Wire
import Webwire.SessionRegistry

/-!
# The server's state and its connections

`Server` is the part of the Go `server` that the session code reads and writes: whether
sessions are enabled, the session-info parser, the session registry, and the live
connections with the session each is bound to.  A connection is gone from `connections`
once it is closed.

The session code of a connection (`connection.go`) is not under `src/`, and is modelled from
§4.4 and §4.5:

* `setSession` replaces the session of a connection, deregistering the previous one.  §4.4
  also says it "registers the new one", and §4.5 has the restore handler call `register`
  right after it, noting that this `register` can fail only through a race; so the
  registration is that call, made by the caller, and `setSession` does not register twice;
* `connectionCloseSession` (`connection.CloseSession`) unbinds the session, calls `OnSessionClosed` and
  tells the client; its error is that of writing the notification;
* `createSession` (`connection.CreateSession`) binds a new session under a generated key and
  registers it, then tells the client and calls `OnSessionCreated`; when the set of that key
  is full nothing changes and the error is returned;
* `connect` adds a connection with no session, `close` deregisters its session and drops it.

What the server does besides changing its state is a list of `Server.Effect`s, in order.
-/

namespace Webwire

/-- The part of a server connection the session code reads and writes. -/
structure Connection where
  session : Option Session
  deriving DecidableEq

/-- The part of `server` the session code reads and writes. -/
structure Server where
  sessionsEnabled : Bool
  sessionInfoParser : Option (SessionInfo → Option SessionInfo)
  sessionRegistry : SessionRegistry
  connections : ConnId → Option Connection

/-- The part of an incoming `msg.Message` the session handlers read. -/
structure Message where
  identifier : MessageIdentifier
  payload : Payload

namespace Server

/-- What the server does besides changing its state. -/
inductive Effect where
  /-- A frame written to a connection. -/
  | send (con : ConnId) (msg : ServerMessage)
  /-- `sessionManager.OnSessionCreated`. -/
  | onSessionCreated (con : ConnId)
  /-- `sessionManager.OnSessionClosed`. -/
  | onSessionClosed (con : ConnId)
  /-- `errorLog.Printf`. -/
  | errorLog

variable (srv : Server)

/-- A server with no connection and no session. -/
def init (sessionsEnabled : Bool) (maxConns : Nat)
    (sessionInfoParser : Option (SessionInfo → Option SessionInfo)) : Server where
  sessionsEnabled := sessionsEnabled
  sessionInfoParser := sessionInfoParser
  sessionRegistry := ⟨maxConns, ∅⟩
  connections _ := none

/-- The key of the session a connection is bound to. -/
def boundKey (con : ConnId) : Option Bytes :=
  ((srv.connections con).bind (·.session)).map (·.key)

/-- The registry without the session of `con`. -/
def deregisterSession (con : ConnId) : SessionRegistry :=
  match srv.boundKey con with
  | some key => srv.sessionRegistry.deregister con key
  | none => srv.sessionRegistry

/-- Modelled from the spec: `connection.setSession` is not under `src/`.  It replaces the
session of `con`, deregistering the previous one (§4.4); the new one is registered by the
`register` call that follows it (§4.5). -/
def setSession (con : ConnId) (sess : Option Session) : Server :=
  { srv with
    sessionRegistry := srv.deregisterSession con
    connections := Function.update srv.connections con
      ((srv.connections con).map fun c => { c with session := sess }) }

/-- Modelled from the spec: `connection.CloseSession` is not under `src/` (§4.4).  With a
session bound, it deregisters it, calls `OnSessionClosed`, drops it and tells the client;
`writeErr` is what writing that notification returned. -/
def connectionCloseSession (con : ConnId) (writeErr : Option Error) : Server × List Effect × Option Error :=
  if !srv.sessionsEnabled then (srv, [], some .sessionsDisabledErr)
  else match srv.boundKey con with
    | none => (srv, [], none)
    | some _ => (srv.setSession con none, [.onSessionClosed con, .send con .sessionClosed], writeErr)

/-- Modelled from the spec: `connection.CreateSession` is not under `src/` (§4.5).  The
session gets the generated `key`, and `now` as its creation and last lookup. -/
def createSession (con : ConnId) (key : Bytes) (now : Nat) (info : Option SessionInfo) :
    Except Error (Server × List Effect) :=
  if !srv.sessionsEnabled then .error .sessionsDisabledErr
  else
    let session : Session := ⟨key, now, now, info⟩
    let srv' := srv.setSession con (some session)
    match srv'.sessionRegistry.register con key with
    | .error e => .error e
    | .ok reg =>
      .ok ({ srv' with sessionRegistry := reg },
        [.send con (.sessionCreated session), .onSessionCreated con])

/-- Modelled from the spec: a new connection has no session. -/
def connect (con : ConnId) : Server :=
  { srv with connections := Function.update srv.connections con (some ⟨none⟩) }

/-- Modelled from the spec: closing a connection deregisters its session (§4.4) and drops it
from the server. -/
def close (con : ConnId) : Server :=
  { srv with
    sessionRegistry := srv.deregisterSession con
    connections := Function.update srv.connections con none }

/-! ## Frame lemmas -/

variable {srv}

@[simp] theorem setSession_sessionsEnabled (con : ConnId) (sess : Option Session) :
    (srv.setSession con sess).sessionsEnabled = srv.sessionsEnabled := rfl

@[simp] theorem setSession_sessionInfoParser (con : ConnId) (sess : Option Session) :
    (srv.setSession con sess).sessionInfoParser = srv.sessionInfoParser := rfl

@[simp] theorem setSession_maxConns (con : ConnId) (sess : Option Session) :
    (srv.setSession con sess).sessionRegistry.maxConns = srv.sessionRegistry.maxConns := by
  simp only [setSession, deregisterSession]
  split <;> simp

theorem setSession_connections (con : ConnId) (sess : Option Session) (c : ConnId) :
    (srv.setSession con sess).connections c =
      if c = con then (srv.connections con).map fun x => { x with session := sess }
      else srv.connections c := by
  simp only [setSession, Function.update_apply]

/-- After `setSession`, a live connection is bound to the new session and no other changes. -/
theorem boundKey_setSession {con : ConnId} {x : Connection} (hcon : srv.connections con = some x)
    (sess : Option Session) (c : ConnId) :
    (srv.setSession con sess).boundKey c = if c = con then sess.map (·.key) else srv.boundKey c := by
  simp only [boundKey, setSession_connections]
  split_ifs <;> simp [hcon]

theorem boundKey_close (con c : ConnId) :
    (srv.close con).boundKey c = if c = con then none else srv.boundKey c := by
  simp only [boundKey, close, Function.update_apply]
  split_ifs <;> rfl

theorem boundKey_connect {con : ConnId} (h : srv.connections con = none) (c : ConnId) :
    (srv.connect con).boundKey c = srv.boundKey c := by
  simp only [boundKey, connect, Function.update_apply]
  split_ifs with hc
  · subst hc
    simp [h]
  · rfl

/-- A bound connection is a live one. -/
theorem exists_connection_of_boundKey {con : ConnId} {key : Bytes} (h : srv.boundKey con = some key) :
    ∃ x, srv.connections con = some x := by
  unfold boundKey at h
  cases hc : srv.connections con with
  | none => simp [hc] at h
  | some x => exact ⟨x, rfl⟩

/-- What a successful `createSession` does: it binds the new session, registers it, tells the
client and calls the hook. -/
theorem createSession_cases {con : ConnId} {key : Bytes} {now : Nat} {info : Option SessionInfo}
    {srv' : Server} {effs : List Effect} (h : srv.createSession con key now info = .ok (srv', effs)) :
    ∃ reg, (srv.setSession con (some ⟨key, now, now, info⟩)).sessionRegistry.register con key =
        .ok reg ∧
      srv' = { srv.setSession con (some ⟨key, now, now, info⟩) with sessionRegistry := reg } ∧
      effs = [.send con (.sessionCreated ⟨key, now, now, info⟩), .onSessionCreated con] := by
  unfold createSession at h
  split at h
  · cases h
  · dsimp only at h
    split at h
    · cases h
    · rename_i reg hreg
      cases h
      exact ⟨reg, hreg, rfl, rfl⟩

theorem noEmptySet_deregisterSession (con : ConnId) (h : srv.sessionRegistry.NoEmptySet) :
    (srv.deregisterSession con).NoEmptySet := by
  unfold deregisterSession
  split
  · exact SessionRegistry.noEmptySet_deregister con _ h
  · exact h

theorem withinCap_deregisterSession (con : ConnId) (h : srv.sessionRegistry.WithinCap) :
    (srv.deregisterSession con).WithinCap := by
  unfold deregisterSession
  split
  · exact SessionRegistry.withinCap_deregister con _ h
  · exact h

theorem hasRoom_deregisterSession (con : ConnId) {k : Bytes} (h : srv.sessionRegistry.HasRoom k) :
    (srv.deregisterSession con).HasRoom k := by
  unfold deregisterSession
  split
  · exact SessionRegistry.hasRoom_deregister con h
  · exact h

theorem registered_deregisterSession (con : ConnId) (k : Bytes) (c : ConnId) :
    (srv.deregisterSession con).Registered k c ↔
      srv.sessionRegistry.Registered k c ∧ ¬ (srv.boundKey con = some k ∧ c = con) := by
  unfold deregisterSession
  split
  · rename_i key hk
    rw [SessionRegistry.registered_deregister, hk]
    simp [eq_comm]
  · rename_i hk
    simp [hk]

end Server
end Webwire
