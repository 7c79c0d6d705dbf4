import Webwire.Server.Connection

/-!
# Closing a session on every connection (`server.CloseSession`)

`SessionConnections` and `CloseSession` take a snapshot of the set of a key, allocate slices
of its size, and fill them with a `range` loop over the set that counts an index `i` up from
0.  A write `s[i] = v` past the end of a slice is a runtime panic (`none` here).

`CloseSession` calls `connection.CloseSession` on each connection as it goes.  The calls change
the server, so what each returns depends on the ones before it; `closeEach` is the spec of
that sequence, each connection of the snapshot closed once, in the order of the snapshot.
The error of a call is the one its notification write returned, given for each connection by
`writeErr`, so the statements below hold for every pattern of failures.

Main results, for every snapshot (every state of the registry) and every order a `range`
visits it in:

* `closeSession_spec`: no index leaves its slice; `affectedConnections` lists the snapshot,
  `errors` has the same length and holds what closing each of them returned, the server ends
  as `closeEach` leaves it, and `generalError` is set exactly when some error is, with
  their number;
* `sessionConnections_eq`: `SessionConnections` lists the snapshot.
-/

namespace Webwire

/-- Go's `s[i] = v`: a runtime panic (`none`) past the end of the slice. -/
def setIndex {α : Type} (s : List α) (i : Nat) (v : α) : Option (List α) :=
  if i < s.length then some (s.set i v) else none

/-- Writing the first unwritten slot of a slice whose tail is still unwritten. -/
theorem setIndex_append_replicate {α : Type} (pre : List α) (n : Nat) (d v : α) :
    setIndex (pre ++ List.replicate (n + 1) d) pre.length v =
      some (pre ++ v :: List.replicate n d) := by
  rw [setIndex, if_pos (by simp)]
  simp [List.set_append_right, List.replicate_succ]

namespace Server

variable (srv : Server)

/-- The loop of `SessionConnections`. -/
def sessionConnectionsLoop : List ConnId → Nat → List (Option ConnId) → Option (List (Option ConnId))
  | [], _, list => some list
  | connection :: rest, i, list => do
    let list ← setIndex list i (some connection)
    sessionConnectionsLoop rest (i + 1) list

/-- `server.SessionConnections`; `nil` is the empty list. -/
def sessionConnections (sessionKey : Bytes) : Option (List (Option ConnId)) :=
  match srv.sessionRegistry.sessionConnections sessionKey with
  | none => some []
  | some connections =>
    sessionConnectionsLoop connections.toList 0 (List.replicate connections.card none)

/-- The variables of the loop of `CloseSession`, with the server and what was done so far. -/
structure CloseLoop where
  srv : Server
  effects : List Effect
  i : Nat
  errNum : Nat
  affectedConnections : List (Option ConnId)
  errors : List (Option Error)

/-- The loop of `CloseSession`. -/
def closeSessionLoop (writeErr : ConnId → Option Error) : List ConnId → CloseLoop → Option CloseLoop
  | [], st => some st
  | connection :: rest, st => do
    let affectedConnections ← setIndex st.affectedConnections st.i (some connection)
    let (srv', effs, err) := st.srv.connectionCloseSession connection (writeErr connection)
    let (errors, errNum) ← match err with
      | some e => (setIndex st.errors st.i (some e)).map (·, st.errNum + 1)
      | none => (setIndex st.errors st.i none).map (·, st.errNum)
    closeSessionLoop writeErr rest
      ⟨srv', st.effects ++ effs, st.i + 1, errNum, affectedConnections, errors⟩

/-- What `server.CloseSession` returns, with the server after it and what it did. -/
structure CloseSessionResult where
  srv : Server
  effects : List Effect
  affectedConnections : List (Option ConnId)
  errors : List (Option Error)
  generalError : Option Error

/-- The `generalError` of `CloseSession` for a number of failed closures. -/
def closeSessionError (errNum : Nat) : Option Error :=
  if errNum > 0 then some (.other s!"{errNum} errors during the closure of a session") else none

/-- `server.CloseSession`. -/
def closeSession (sessionKey : Bytes) (writeErr : ConnId → Option Error) :
    Option CloseSessionResult :=
  match srv.sessionRegistry.sessionConnections sessionKey with
  | none => some ⟨srv, [], [], [], none⟩
  | some connections =>
    (closeSessionLoop writeErr connections.toList
        ⟨srv, [], 0, 0, List.replicate connections.card none,
          List.replicate connections.card none⟩).map
      fun st => ⟨st.srv, st.effects, st.affectedConnections, st.errors, closeSessionError st.errNum⟩

/-- Close the sessions of a list of connections one after the other, each once, collecting
what each call did and returned. -/
def closeEach (writeErr : ConnId → Option Error) : Server → List ConnId →
    Server × List Effect × List (Option Error)
  | srv, [] => (srv, [], [])
  | srv, c :: cs =>
    let (srv₁, e₁, err) := srv.connectionCloseSession c (writeErr c)
    let (srv₂, e₂, errs) := closeEach writeErr srv₁ cs
    (srv₂, e₁ ++ e₂, err :: errs)

theorem length_closeEach (writeErr : ConnId → Option Error) :
    ∀ (srv : Server) (cs : List ConnId), (closeEach writeErr srv cs).2.2.length = cs.length
  | _, [] => rfl
  | srv, c :: cs => by simp [closeEach, length_closeEach writeErr _ cs]

/-! ## The loops -/

/-- The loop of `SessionConnections` fills the unwritten tail with the connections. -/
theorem sessionConnectionsLoop_eq :
    ∀ (cs : List ConnId) (pre : List (Option ConnId)),
      sessionConnectionsLoop cs pre.length (pre ++ List.replicate cs.length none) =
        some (pre ++ cs.map some)
  | [], pre => by simp [sessionConnectionsLoop]
  | c :: cs, pre => by
    simp only [sessionConnectionsLoop, List.length_cons, setIndex_append_replicate,
      Option.bind_eq_bind, Option.some_bind]
    have := sessionConnectionsLoop_eq cs (pre ++ [some c])
    simpa using this

/-- The loop of `CloseSession`, from a state whose slices are written up to `i`. -/
theorem closeSessionLoop_eq (writeErr : ConnId → Option Error) :
    ∀ (cs : List ConnId) (st : CloseLoop) (pre : List (Option ConnId)) (preErr : List (Option Error)),
      st.affectedConnections = pre ++ List.replicate cs.length none →
      st.errors = preErr ++ List.replicate cs.length none →
      pre.length = st.i → preErr.length = st.i →
      closeSessionLoop writeErr cs st =
        some ⟨(closeEach writeErr st.srv cs).1, st.effects ++ (closeEach writeErr st.srv cs).2.1,
          st.i + cs.length, st.errNum + (closeEach writeErr st.srv cs).2.2.countP Option.isSome,
          pre ++ cs.map some, preErr ++ (closeEach writeErr st.srv cs).2.2⟩
  | [], st, pre, preErr, ha, he, hi, hie => by
    obtain ⟨srv, effects, i, errNum, affected, errors⟩ := st
    simp_all [closeSessionLoop, closeEach]
  | c :: cs, st, pre, preErr, ha, he, hi, hie => by
    obtain ⟨srv, effects, i, errNum, affected, errors⟩ := st
    simp only [List.length_cons] at ha he hi hie ⊢
    subst ha he hi
    rcases hc : srv.connectionCloseSession c (writeErr c) with ⟨srv₁, e₁, err⟩
    have ih := closeSessionLoop_eq writeErr cs
      ⟨srv₁, effects ++ e₁, pre.length + 1, errNum + (if err.isSome then 1 else 0),
        pre ++ some c :: List.replicate cs.length none, preErr ++ err :: List.replicate cs.length none⟩
      (pre ++ [some c]) (preErr ++ [err]) (by simp) (by simp) (by simp) (by simp [hie])
    have hset := setIndex_append_replicate pre cs.length none (some c)
    have hsetE := setIndex_append_replicate preErr cs.length none err
    rw [hie] at hsetE
    cases err <;>
      simp_all [closeSessionLoop, closeEach, List.countP_cons, Nat.add_assoc, Nat.add_comm 1]

/-! ## The two functions -/

/-- The snapshot both functions iterate over, as a list: empty when the key has no set. -/
def snapshot (sessionKey : Bytes) : List ConnId :=
  ((srv.sessionRegistry.sessionConnections sessionKey).map ConnSet.toList).getD []

theorem nodup_snapshot (sessionKey : Bytes) : (srv.snapshot sessionKey).Nodup := by
  unfold snapshot
  cases srv.sessionRegistry.sessionConnections sessionKey with
  | none => exact List.nodup_nil
  | some s => exact s.nodup

/-- What `CloseSession` computes: the connections of the snapshot closed one after the other. -/
theorem closeSession_eq (sessionKey : Bytes) (writeErr : ConnId → Option Error) :
    srv.closeSession sessionKey writeErr =
      some ⟨(closeEach writeErr srv (srv.snapshot sessionKey)).1,
        (closeEach writeErr srv (srv.snapshot sessionKey)).2.1,
        (srv.snapshot sessionKey).map some, (closeEach writeErr srv (srv.snapshot sessionKey)).2.2,
        closeSessionError
          ((closeEach writeErr srv (srv.snapshot sessionKey)).2.2.countP Option.isSome)⟩ := by
  unfold closeSession snapshot
  rcases Option.eq_none_or_eq_some (srv.sessionRegistry.sessionConnections sessionKey)
    with h | ⟨S, h⟩
  · simp [h, closeEach, closeSessionError]
  · have hloop := closeSessionLoop_eq writeErr S.toList
      ⟨srv, [], 0, 0, List.replicate S.card none, List.replicate S.card none⟩ [] [] rfl rfl rfl rfl
    simp only [List.nil_append, List.length_nil] at hloop
    simp [h, hloop]

/-- What `SessionConnections` computes: the snapshot. -/
theorem sessionConnections_eq (sessionKey : Bytes) :
    srv.sessionConnections sessionKey = some ((srv.snapshot sessionKey).map some) := by
  unfold sessionConnections snapshot
  rcases Option.eq_none_or_eq_some (srv.sessionRegistry.sessionConnections sessionKey)
    with h | ⟨S, h⟩
  · simp [h]
  · simpa [h] using sessionConnectionsLoop_eq S.toList []

/-- **`CloseSession` and `SessionConnections` over a snapshot.**  No write leaves its slice;
`affectedConnections` lists each connection of the snapshot once; `errors` is as long and
holds what closing each returned; the server and the effects are those of closing the
connections one after the other, each once; `generalError` is set exactly when some error is,
and reports how many; and `SessionConnections` lists the same snapshot. -/
theorem closeSession_spec (sessionKey : Bytes) (writeErr : ConnId → Option Error) :
    (∃ res, srv.closeSession sessionKey writeErr = some res ∧
      res.affectedConnections = (srv.snapshot sessionKey).map some ∧
      res.affectedConnections.Nodup ∧
      res.errors.length = res.affectedConnections.length ∧
      (res.srv, res.effects, res.errors) = closeEach writeErr srv (srv.snapshot sessionKey) ∧
      res.generalError =
        if res.errors.countP Option.isSome > 0 then
          some (.other s!"{res.errors.countP Option.isSome} errors during the closure of a session")
        else none) ∧
    srv.sessionConnections sessionKey = some ((srv.snapshot sessionKey).map some) :=
  ⟨⟨_, closeSession_eq srv sessionKey writeErr, rfl,
    (nodup_snapshot srv sessionKey).map (Option.some_injective _), by simp [length_closeEach], rfl,
    rfl⟩, sessionConnections_eq srv sessionKey⟩

end Server
end Webwire
