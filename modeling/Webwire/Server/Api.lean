import Webwire.Server.Invariant

/-!
# The session API of the server over every run

`ActiveSessionsNum`, `SessionConnectionsNum`, `SessionConnections` and `CloseSession` are what a
user of the server sees of the session registry.  Over every reachable state they mean what their
names say, because the registry agrees with the connections there (`Server.Inv`).

## Main results

* `Server.sessionConnections_bound`: `SessionConnections(key)` lists exactly the connections
  bound to a session with that key, each once;
* `Server.sessionConnectionsNum_bound`: `SessionConnectionsNum(key)` is `-1` when no
  connection is bound to the key, and otherwise their number, so it is never `0`;
* `Server.activeSessionsNum_bound`: `ActiveSessionsNum()` is the number of distinct keys of the
  sessions bound to connections;
* `Server.closeSession_unbinds`: after `CloseSession(key)` with sessions enabled, no connection
  is bound to the key and the key has no set, whatever each closure returned.
-/

namespace Webwire
namespace Server

variable (srv : Server)

/-- `server.ActiveSessionsNum`. -/
def activeSessionsNum : Nat := srv.sessionRegistry.activeSessionsNum

/-- `server.SessionConnectionsNum`. -/
def sessionConnectionsNum (sessionKey : Bytes) : Int :=
  srv.sessionRegistry.sessionConnectionsNum sessionKey

variable {srv}

theorem mem_snapshot {key : Bytes} {c : ConnId} :
    c ∈ srv.snapshot key ↔ srv.sessionRegistry.Registered key c := by
  unfold snapshot SessionRegistry.Registered SessionRegistry.sessionConnections
  cases srv.sessionRegistry.registry.lookup key <;> simp

theorem Inv.mem_snapshot_iff (hi : srv.Inv) (key : Bytes) (c : ConnId) :
    c ∈ srv.snapshot key ↔ srv.boundKey c = some key :=
  mem_snapshot.trans (hi.registered_iff key c)

/-! ## Closing the session of one connection, then of a list -/

theorem sessionsEnabled_connectionCloseSession (con : ConnId) (writeErr : Option Error) :
    (srv.connectionCloseSession con writeErr).1.sessionsEnabled = srv.sessionsEnabled := by
  unfold Server.connectionCloseSession
  split
  · rfl
  · split <;> rfl

/-- With sessions enabled, closing the session of `con` unbinds `con` and no other. -/
theorem boundKey_connectionCloseSession (hen : srv.sessionsEnabled = true) (con : ConnId)
    (writeErr : Option Error) (c : ConnId) :
    (srv.connectionCloseSession con writeErr).1.boundKey c =
      if c = con then none else srv.boundKey c := by
  unfold Server.connectionCloseSession
  rw [if_neg (by simp [hen])]
  split
  · rename_i hk
    split_ifs with hc
    · exact hc ▸ hk
    · rfl
  · rename_i key hk
    obtain ⟨x, hx⟩ := exists_connection_of_boundKey hk
    rw [boundKey_setSession hx]
    rfl

theorem boundKey_closeEach (writeErr : ConnId → Option Error) :
    ∀ (srv : Server) (cs : List ConnId), srv.sessionsEnabled = true → ∀ c,
      (closeEach writeErr srv cs).1.boundKey c = if c ∈ cs then none else srv.boundKey c
  | _, [], _, c => by simp [closeEach]
  | srv, d :: cs, hen, c => by
    have hen' : (srv.connectionCloseSession d (writeErr d)).1.sessionsEnabled = true := by
      rw [sessionsEnabled_connectionCloseSession, hen]
    show (closeEach writeErr (srv.connectionCloseSession d (writeErr d)).1 cs).1.boundKey c = _
    rw [boundKey_closeEach writeErr _ cs hen' c, boundKey_connectionCloseSession hen]
    by_cases hc : c = d <;> simp [hc]

/-! ## The API over every run -/

variable (JS : JsonCodec Session)

/-- **`SessionConnections` lists the connections of the key**: in every reachable state it
returns each connection bound to a session with that key once, and nothing else. -/
theorem sessionConnections_bound (h : Reachable JS srv) (key : Bytes) :
    ∃ l : List ConnId, srv.sessionConnections key = some (l.map some) ∧ l.Nodup ∧
      ∀ c, c ∈ l ↔ srv.boundKey c = some key :=
  ⟨_, sessionConnections_eq srv key, nodup_snapshot srv key,
    (Inv.of_reachable JS h).mem_snapshot_iff key⟩

/-- `SessionConnections("L")` after the sample run, in which connections 0 and 2 hold `"L"`. -/
theorem sessionConnections_bound_sample :
    ∃ srv, Reachable .sessionKeys srv ∧ srv.boundKey 0 = some [76] ∧
      srv.boundKey 2 = some [76] ∧
      ∃ l : List ConnId, srv.sessionConnections [76] = some (l.map some) ∧ l.Nodup ∧
        ∀ c, c ∈ l ↔ srv.boundKey c = some [76] :=
  let ⟨srv, h, _, h0, _, h2⟩ := reachable_sample
  ⟨srv, h, h0, h2, sessionConnections_bound .sessionKeys h [76]⟩

/-- **`SessionConnectionsNum` counts the connections of the key**: in every reachable state it
is `-1` when no connection is bound to the key, and otherwise the number of connections bound
to it; it is never `0`. -/
theorem sessionConnectionsNum_bound (h : Reachable JS srv) (key : Bytes) :
    (srv.sessionConnectionsNum key = -1 ∧ ∀ c, srv.boundKey c ≠ some key) ∨
      ∃ l : List ConnId, l.Nodup ∧ (∀ c, c ∈ l ↔ srv.boundKey c = some key) ∧
        0 < l.length ∧ srv.sessionConnectionsNum key = l.length := by
  have hi := Inv.of_reachable JS h
  unfold sessionConnectionsNum SessionRegistry.sessionConnectionsNum
  rcases hl : srv.sessionRegistry.registry.lookup key with _ | S
  · refine .inl ⟨rfl, fun c hb => ?_⟩
    obtain ⟨S, hS, -⟩ := (hi.registered_iff key c).mpr hb
    simp [hl] at hS
  · refine .inr ⟨S.toList, S.nodup, fun c => ?_, hi.noEmptySet key S hl, rfl⟩
    rw [← hi.registered_iff]
    simp [SessionRegistry.Registered, hl]

/-- `SessionConnectionsNum("L")` after the sample run, in which connections 0 and 2 hold
`"L"`. -/
theorem sessionConnectionsNum_bound_sample :
    ∃ srv, Reachable .sessionKeys srv ∧ srv.boundKey 0 = some [76] ∧
      srv.boundKey 2 = some [76] ∧
      ((srv.sessionConnectionsNum [76] = -1 ∧ ∀ c, srv.boundKey c ≠ some [76]) ∨
        ∃ l : List ConnId, l.Nodup ∧ (∀ c, c ∈ l ↔ srv.boundKey c = some [76]) ∧
          0 < l.length ∧ srv.sessionConnectionsNum [76] = l.length) :=
  let ⟨srv, h, _, h0, _, h2⟩ := reachable_sample
  ⟨srv, h, h0, h2, sessionConnectionsNum_bound .sessionKeys h [76]⟩

/-- **`ActiveSessionsNum` counts the sessions in use**: in every reachable state it is the
number of distinct keys of the sessions bound to connections. -/
theorem activeSessionsNum_bound (h : Reachable JS srv) :
    ∃ l : List Bytes, l.Nodup ∧ (∀ key, key ∈ l ↔ ∃ c, srv.boundKey c = some key) ∧
      srv.activeSessionsNum = l.length := by
  have hi := Inv.of_reachable JS h
  refine ⟨_, srv.sessionRegistry.registry.keys_nodup, fun key => ?_, rfl⟩
  simp only [← hi.registered_iff, SessionRegistry.Registered, ← AList.mem_keys,
    ← AList.lookup_isSome]
  constructor
  · intro hk
    obtain ⟨S, hS⟩ := Option.isSome_iff_exists.mp hk
    obtain ⟨c, hc⟩ := List.exists_mem_of_length_pos (hi.noEmptySet key S hS)
    exact ⟨c, S, hS, hc⟩
  · rintro ⟨c, S, hS, -⟩
    simp [hS]

/-- `ActiveSessionsNum()` after the sample run, in which only `"L"` is held. -/
theorem activeSessionsNum_bound_sample :
    ∃ srv, Reachable .sessionKeys srv ∧ srv.boundKey 0 = some [76] ∧ srv.boundKey 1 = none ∧
      srv.boundKey 2 = some [76] ∧
      ∃ l : List Bytes, l.Nodup ∧ (∀ key, key ∈ l ↔ ∃ c, srv.boundKey c = some key) ∧
        srv.activeSessionsNum = l.length :=
  let ⟨srv, h, _, h0, h1, h2⟩ := reachable_sample
  ⟨srv, h, h0, h1, h2, activeSessionsNum_bound .sessionKeys h⟩

/-- **`CloseSession` closes the session everywhere.**  From every reachable state with
sessions enabled, `CloseSession(key)` leaves no connection bound to the key and no set for
it, whatever the closure of each connection returned. -/
theorem closeSession_unbinds (h : Reachable JS srv) (hen : srv.sessionsEnabled = true)
    (key : Bytes) (writeErr : ConnId → Option Error) :
    ∃ res, srv.closeSession key writeErr = some res ∧ (∀ c, res.srv.boundKey c ≠ some key) ∧
      res.srv.sessionRegistry.sessionConnections key = none := by
  have hi := Inv.of_reachable JS h
  have hunbound : ∀ c, (closeEach writeErr srv (srv.snapshot key)).1.boundKey c ≠ some key := by
    intro c
    rw [boundKey_closeEach writeErr srv _ hen c]
    split_ifs with hm
    · simp
    · exact fun hb => hm ((hi.mem_snapshot_iff key c).mpr hb)
  refine ⟨_, closeSession_eq srv key writeErr, hunbound, ?_⟩
  have hi' := hi.closeEach writeErr (srv.snapshot key)
  rcases hl : (closeEach writeErr srv (srv.snapshot key)).1.sessionRegistry.registry.lookup key
    with _ | S
  · exact hl
  · obtain ⟨c, hc⟩ := List.exists_mem_of_length_pos (hi'.noEmptySet key S hl)
    exact absurd ((hi'.registered_iff key c).mp ⟨S, hl, hc⟩) (hunbound c)

/-- `CloseSession("L")` after the sample run, with the notification to connection 0
failing. -/
theorem closeSession_unbinds_sample :
    ∃ srv, Reachable .sessionKeys srv ∧ srv.sessionsEnabled = true ∧
      srv.boundKey 0 = some [76] ∧ srv.boundKey 2 = some [76] ∧
      ∃ res, srv.closeSession [76] (fun c => if c = 0 then some (.other "closed") else none) =
          some res ∧
        (∀ c, res.srv.boundKey c ≠ some [76]) ∧
        res.srv.sessionRegistry.sessionConnections [76] = none :=
  let ⟨srv, h, hen, h0, _, h2⟩ := reachable_sample
  ⟨srv, h, hen, h0, h2, closeSession_unbinds .sessionKeys h hen [76] _⟩

end Server
end Webwire
