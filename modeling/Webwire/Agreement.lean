import Webwire.Client.Endpoint
import Webwire.Server.Api

/-!
# Client and server agree on the session of a connection

The session of a connection lives in two places: in the server's connection, which the
session operations bind and unbind, and in the client's mirror, which follows the frames the
server writes.  The protocol keeps the two together with three kinds of frames: a
`SessionCreated` after `CreateSession`, a `SessionClosed` after `CloseSession` (of the
connection, or of a key on every connection that has it), and the reply to a restore, whose
payload is the session restored.

`System` is a server with, for each connection, the restore requests its client has sent and
the server has not read (`inbound`), the frames the server has written and the client has not
read (`wire`), both first in first out, and the client at the other end (`peers`).  A `Step`
is one whole operation of the server, as `handleSessionRestore`, `createSession`,
`connectionCloseSession`, `closeSession`, `connect` and `close` compute it, with its frames
appended to the wires; a client sending a restore request; or a client reading the oldest frame
on its wire, with `handleMessage` and the restore continuation.  Steps of different connections
interleave in any order.  A message the encoder cannot write does not reach the wire; the
connection is then marked `lost`.

## Main results

* `Server.Informs`: what one operation tells the client of a connection: the requests its
  frames answer, and that they take a mirror with the connection's key before the operation
  to one with its key after.  Every operation informs every connection, and the restore
  handler answers exactly the request it read (`Server.informs_handleSessionRestore`);
* `System.session_agreement`: in every reachable state, for every live connection whose
  frames all reached the wire, the client that reads the frames in flight ends with the key
  of the session the server has bound the connection to, as a JSON round trip gives it back
  (`Utf8.coerce`), still waiting on exactly the restore requests the server has not read.

* `System.late_reply_revives`: the agreement needs each operation to be one step, and the
  restore handler is not: it registers the session and writes its reply after, with no lock
  held in between.  From every reachable state, a `CloseSession` of the key that runs in between
  leaves the connection with no session on the server while the client, reading its wire,
  ends with the restored session.

The invariant behind the agreement is `System.Explains`: the frames in flight are those of
messages that answer, in order, the first restore requests the client waits on, and take its
mirror to the key the server has bound, coerced to UTF-8.
-/

namespace Webwire

namespace Server

/-- The message an effect writes to `c`. -/
def Effect.to (c : ConnId) : Effect → Option ServerMessage
  | .send d m => if d = c then some m else none
  | _ => none

/-- The messages a list of effects writes to `c`, in order. -/
def sentTo (c : ConnId) (effs : List Effect) : List ServerMessage := effs.filterMap (Effect.to c)

@[simp] theorem sentTo_nil (c : ConnId) : sentTo c [] = [] := rfl

@[simp] theorem sentTo_cons (c : ConnId) (e : Effect) (effs : List Effect) :
    sentTo c (e :: effs) = (e.to c).toList ++ sentTo c effs := by
  simp only [sentTo, List.filterMap_cons]
  cases e.to c <;> rfl

@[simp] theorem sentTo_append (c : ConnId) (e₁ e₂ : List Effect) :
    sentTo c (e₁ ++ e₂) = sentTo c e₁ ++ sentTo c e₂ :=
  List.filterMap_append _ _ _

variable (JS : JsonCodec Session)

/-- What an operation taking `srv` to `srv'` with effects `effs` tells the client of `c`: it
makes no connection live, its frames to `c` answer the requests `answered`, in order, and they
take a mirror with the key `c` was bound to before to one with the key it is bound to after. -/
structure Informs (srv srv' : Server) (effs : List Effect) (c : ConnId)
    (answered : List MessageIdentifier) : Prop where
  live : (srv'.connections c).isSome → (srv.connections c).isSome
  answers : (sentTo c effs).filterMap ServerMessage.answers = answered
  mirror : ∀ s : Option Session, s.map (·.key) = (srv.boundKey c).map Utf8.coerce →
    ((sentTo c effs).foldl (ServerMessage.mirror JS) s).map (·.key) =
      (srv'.boundKey c).map Utf8.coerce

/-- Doing nothing tells no client anything. -/
theorem Informs.nil (srv : Server) (c : ConnId) : Informs JS srv srv [] c [] :=
  ⟨id, rfl, fun _ hs => hs⟩

theorem Informs.append {srv₁ srv₂ srv₃ : Server} {e₁ e₂ : List Effect} {c : ConnId}
    {a₁ a₂ : List MessageIdentifier} (h₁ : Informs JS srv₁ srv₂ e₁ c a₁)
    (h₂ : Informs JS srv₂ srv₃ e₂ c a₂) :
    Informs JS srv₁ srv₃ (e₁ ++ e₂) c (a₁ ++ a₂) where
  live h := h₁.live (h₂.live h)
  answers := by rw [sentTo_append, List.filterMap_append, h₁.answers, h₂.answers]
  mirror s hs := by
    rw [sentTo_append, List.foldl_append]
    exact h₂.mirror _ (h₁.mirror s hs)

/-- Effects whose only frame is `m`, to `con`. -/
theorem sentTo_single {con : ConnId} {m : ServerMessage} (pre rest : List Effect)
    (hpre : ∀ c, sentTo c pre = []) (hrest : ∀ c, sentTo c rest = []) (c : ConnId) :
    sentTo c (pre ++ .send con m :: rest) = if c = con then [m] else [] := by
  by_cases hc : c = con
  · simp [hpre, hrest, Effect.to, hc]
  · simp [hpre, hrest, Effect.to, hc, Ne.symm hc]

/-- An operation that writes one message, to `con`: every connection is informed when the
message takes the key of `con` before to its key after, and no other connection changes. -/
theorem informs_send {srv srv' : Server} {con : ConnId} {m : ServerMessage} {effs : List Effect}
    (hs : ∀ c, sentTo c effs = if c = con then [m] else [])
    (hlive : ∀ c, (srv'.connections c).isSome → (srv.connections c).isSome)
    (hm : ∀ s : Option Session, s.map (·.key) = (srv.boundKey con).map Utf8.coerce →
      (ServerMessage.mirror JS s m).map (·.key) = (srv'.boundKey con).map Utf8.coerce)
    (hother : ∀ c, c ≠ con → srv'.boundKey c = srv.boundKey c) (c : ConnId) :
    Informs JS srv srv' effs c (if c = con then m.answers.toList else []) := by
  by_cases hc : c = con
  · subst hc
    refine ⟨hlive c, ?_, fun s hs' => ?_⟩ <;>
      simp only [hs, if_true, List.filterMap_cons, List.filterMap_nil, List.foldl_cons,
        List.foldl_nil]
    · cases m.answers <;> rfl
    · exact hm s hs'
  · refine ⟨hlive c, ?_, fun s hs' => ?_⟩ <;> simp only [hs, if_neg hc]
    · rfl
    · rw [hother c hc]
      exact hs'

variable {srv : Server}

theorem isSome_connections_setSession (con : ConnId) (sess : Option Session) (c : ConnId) :
    ((srv.setSession con sess).connections c).isSome = (srv.connections c).isSome := by
  rw [setSession_connections]
  split_ifs with hc
  · rw [hc, Option.isSome_map']
  · rfl

/-- A failed request: the server is unchanged, and the failure goes to `con`. -/
theorem informs_failure {con : ConnId} (reqID : MessageIdentifier) (err : Option Error)
    {rest : List Effect} (hrest : ∀ c, sentTo c rest = []) (c : ConnId) :
    Informs JS srv srv (.send con (failMsg reqID err) :: rest) c
      (if c = con then [reqID] else []) := by
  simpa using informs_send JS (m := failMsg reqID err) (sentTo_single [] _ (fun _ => rfl) hrest)
    (fun _ h => h) (by simp) (fun _ _ => rfl) c

/-- Binding a session to a live `con` and writing it one message that sets the mirror to a
session with its key as JSON gives it back. -/
theorem informs_bind {con : ConnId} {x : Connection} (hcon : srv.connections con = some x)
    {s : Session} {reg : SessionRegistry} {m : ServerMessage}
    (hm : ∀ cur : Option Session,
      (ServerMessage.mirror JS cur m).map (·.key) = some (Utf8.coerce s.key))
    {rest : List Effect} (hrest : ∀ c, sentTo c rest = []) (c : ConnId) :
    Informs JS srv { srv.setSession con (some s) with sessionRegistry := reg }
      (.send con m :: rest) c (if c = con then m.answers.toList else []) := by
  have hb := boundKey_setSession hcon (some s)
  refine informs_send JS (sentTo_single [] _ (fun _ => rfl) hrest) (fun c => ?_)
    (fun cur _ => ?_) (fun c hc => ?_) c
  · exact (isSome_connections_setSession con (some s) c).le
  · rw [hm cur]
    exact (congrArg (Option.map Utf8.coerce) ((hb con).trans (if_pos rfl))).symm
  · exact (hb c).trans (if_neg hc)

/-- **The restore handler informs every connection**, and answers the request it read on its
own connection: a failure changes nothing, a success binds the session the reply carries. -/
theorem informs_handleSessionRestore {con : ConnId} {x : Connection}
    (hcon : srv.connections con = some x) {message : Message} {result : LookupOutcome}
    {srv' : Server} {effs : List Effect}
    (h : srv.handleSessionRestore JS con message result = some (srv', effs)) (c : ConnId) :
    Informs JS srv srv' effs c (if c = con then [message.identifier] else []) := by
  unfold handleSessionRestore at h
  split at h
  · cases h
    exact informs_failure JS _ _ (fun _ => by rfl) c
  · unfold restoreFinish at h
    split at h
    · cases h
      exact informs_failure JS _ _ (fun _ => by rfl) c
    · cases h
      exact informs_failure JS _ _ (fun _ => by rfl) c
    · split at h
      · cases h
        exact informs_failure JS _ _ (fun _ => by rfl) c
      · rename_i b hb
        dsimp only at h
        split at h
        · cases h
        · cases h
          refine informs_bind JS hcon (fun cur => ?_) (fun _ => by rfl) c
          simp [fulfillMsg, ServerMessage.mirror, JS.unmarshal_marshal _ _ hb]

theorem informs_createSession {con : ConnId} {x : Connection}
    (hcon : srv.connections con = some x) {key : Bytes} {now : Nat} {info : Option SessionInfo}
    {srv' : Server} {effs : List Effect} (h : srv.createSession con key now info = .ok (srv', effs))
    (c : ConnId) : Informs JS srv srv' effs c [] := by
  obtain ⟨reg, -, rfl, rfl⟩ := createSession_cases h
  simpa [ServerMessage.answers] using
    informs_bind JS hcon (m := .sessionCreated _) (fun _ => rfl) (fun _ => by rfl) c

theorem informs_connectionCloseSession (con : ConnId) (writeErr : Option Error) (c : ConnId) :
    Informs JS srv (srv.connectionCloseSession con writeErr).1
      (srv.connectionCloseSession con writeErr).2.1 c [] := by
  unfold connectionCloseSession
  split
  · exact .nil JS srv c
  · split
    · exact .nil JS srv c
    · rename_i key hk
      obtain ⟨x, hx⟩ := exists_connection_of_boundKey hk
      have hb := boundKey_setSession hx none
      simpa [ServerMessage.answers] using
        (informs_send JS (sentTo_single (m := .sessionClosed) [.onSessionClosed con] []
          (fun _ => rfl) (fun _ => rfl))
          (fun c => (isSome_connections_setSession con none c).le)
          (fun _ _ => by simp [ServerMessage.mirror, hb])
          (fun c hc => (hb c).trans (if_neg hc)) c :)

theorem informs_closeEach (writeErr : ConnId → Option Error) (c : ConnId) :
    ∀ (srv : Server) (cs : List ConnId),
      Informs JS srv (closeEach writeErr srv cs).1 (closeEach writeErr srv cs).2.1 c []
  | srv, [] => .nil JS srv c
  | srv, d :: cs =>
    (informs_connectionCloseSession JS d (writeErr d) c).append JS
      (informs_closeEach writeErr c (srv.connectionCloseSession d (writeErr d)).1 cs)

end Server

/-- A server, and for each connection what travels on it and the client at its other end. -/
structure System where
  srv : Server
  /-- The restore requests the client has sent and the server has not read, oldest first. -/
  inbound : ConnId → List Message
  /-- The frames the server has written and the client has not read, oldest first. -/
  wire : ConnId → List Bytes
  /-- The client at the other end. -/
  peers : ConnId → Client.Endpoint
  /-- Whether a message to the connection could not be encoded. -/
  lost : ConnId → Bool

namespace System

variable (T : MsgTags) (JS : JsonCodec Session) (JR : JsonCodec ReqErr) (pad : UInt8)

/-- A server with no connection. -/
def init (sessionsEnabled : Bool) (maxConns : Nat)
    (sessionInfoParser : Option (SessionInfo → Option SessionInfo)) : System :=
  ⟨Server.init sessionsEnabled maxConns sessionInfoParser, fun _ => [], fun _ => [],
    fun _ => ⟨⟨none⟩, []⟩, fun _ => false⟩

/-- Writing a message to `c`: its frame goes on the wire, or, when the encoder cannot write it,
the connection is marked. -/
def write (sys : System) (c : ConnId) (m : ServerMessage) : System :=
  match m.frame T JS JR pad with
  | some b => { sys with wire := Function.update sys.wire c (sys.wire c ++ [b]) }
  | none => { sys with lost := Function.update sys.lost c true }

/-- The server's effects on the transport: its frames, in order. -/
def perform (sys : System) : List Server.Effect → System
  | [] => sys
  | .send c m :: effs => (sys.write T JS JR pad c m).perform effs
  | _ :: effs => sys.perform effs

/-- One step of the system. -/
inductive Step : System → System → Prop where
  /-- A client connects: a connection with no session, and a client with none. -/
  | connect {sys : System} (c : ConnId) (h : sys.srv.connections c = none) :
      Step sys { sys with
        srv := sys.srv.connect c
        inbound := Function.update sys.inbound c []
        wire := Function.update sys.wire c []
        peers := Function.update sys.peers c ⟨⟨none⟩, []⟩
        lost := Function.update sys.lost c false }
  /-- The client of a live connection sends a restore request and waits on it. -/
  | request {sys : System} (c : ConnId) (x : Connection) (hcon : sys.srv.connections c = some x)
      (message : Message) :
      Step sys { sys with
        inbound := Function.update sys.inbound c (sys.inbound c ++ [message])
        peers := Function.update sys.peers c
          ⟨(sys.peers c).client, (sys.peers c).restores ++ [message.identifier]⟩ }
  /-- The server reads the oldest restore request of a connection and handles it, with what
  the session manager's lookup returned. -/
  | restore {sys : System} {srv' : Server} {effs : List Server.Effect} (c : ConnId)
      (x : Connection) (hcon : sys.srv.connections c = some x) (message : Message)
      (rest : List Message) (hq : sys.inbound c = message :: rest) (result : LookupOutcome)
      (h : sys.srv.handleSessionRestore JS c message result = some (srv', effs)) :
      Step sys ({ sys with srv := srv', inbound := Function.update sys.inbound c rest }.perform
        T JS JR pad effs)
  /-- A handler creates a session on a connection. -/
  | createSession {sys : System} {srv' : Server} {effs : List Server.Effect} (c : ConnId)
      (x : Connection) (key : Bytes) (now : Nat) (info : Option SessionInfo)
      (hcon : sys.srv.connections c = some x)
      (h : sys.srv.createSession c key now info = .ok (srv', effs)) :
      Step sys ({ sys with srv := srv' }.perform T JS JR pad effs)
  /-- The session of a connection is closed. -/
  | closeSession {sys : System} (c : ConnId) (writeErr : Option Error) :
      Step sys ({ sys with srv := (sys.srv.connectionCloseSession c writeErr).1 }.perform
        T JS JR pad (sys.srv.connectionCloseSession c writeErr).2.1)
  /-- `server.CloseSession` of a key. -/
  | closeKeySession {sys : System} {res : Server.CloseSessionResult} (sessionKey : Bytes)
      (writeErr : ConnId → Option Error) (h : sys.srv.closeSession sessionKey writeErr = some res) :
      Step sys ({ sys with srv := res.srv }.perform T JS JR pad res.effects)
  /-- A connection closes. -/
  | close {sys : System} (c : ConnId) : Step sys { sys with srv := sys.srv.close c }
  /-- The client of a connection reads the oldest frame on its wire. -/
  | deliver {sys : System} (c : ConnId) (b : Bytes) (bs : List Bytes) (hw : sys.wire c = b :: bs)
      (spare : Bytes) (ep : Client.Endpoint)
      (h : (sys.peers c).receive T JS JR ⟨b, spare⟩ = some ep) :
      Step sys { sys with
        wire := Function.update sys.wire c bs
        peers := Function.update sys.peers c ep }

/-- The states a system reaches from one with no connection, by any steps in any order. -/
inductive Reachable : System → Prop where
  | init (sessionsEnabled : Bool) (maxConns : Nat)
      (sessionInfoParser : Option (SessionInfo → Option SessionInfo)) :
      Reachable (init sessionsEnabled maxConns sessionInfoParser)
  | step {sys sys' : System} : Reachable sys → Step T JS JR pad sys sys' → Reachable sys'

/-- The frames on the wire of `c` are those of the messages `ms`, which answer, in order, the
first requests the client waits on, the others being those the server has not read; and the
mirror the client has after `ms` has the key of the session `c` is bound to, as JSON gives it
back. -/
structure Explains (sys : System) (c : ConnId) (ms : List ServerMessage) : Prop where
  frames : List.Forall₂ (fun m b => m.frame T JS JR pad = some b) ms (sys.wire c)
  restores : (sys.peers c).restores =
    ms.filterMap ServerMessage.answers ++ (sys.inbound c).map (·.identifier)
  mirror : (ms.foldl (ServerMessage.mirror JS) (sys.peers c).client.session).map (·.key) =
    (sys.srv.boundKey c).map Utf8.coerce

/-- Every live connection whose messages all reached the wire is explained by them. -/
def Inv (sys : System) : Prop :=
  ∀ c, (sys.srv.connections c).isSome → sys.lost c = false → ∃ ms, Explains T JS JR pad sys c ms

/-! ## The transport -/

/-- Writing changes only the wires and the marks. -/
theorem exists_write (sys : System) (c : ConnId) (m : ServerMessage) :
    ∃ w l, sys.write T JS JR pad c m = { sys with wire := w, lost := l } := by
  unfold write
  split
  · exact ⟨_, sys.lost, rfl⟩
  · exact ⟨sys.wire, _, rfl⟩

theorem exists_perform :
    ∀ (sys : System) (effs : List Server.Effect),
      ∃ w l, sys.perform T JS JR pad effs = { sys with wire := w, lost := l }
  | sys, [] => ⟨sys.wire, sys.lost, rfl⟩
  | sys, .send c m :: effs => by
    obtain ⟨w, l, hw⟩ := exists_write T JS JR pad sys c m
    obtain ⟨w', l', hp⟩ := exists_perform (sys.write T JS JR pad c m) effs
    exact ⟨w', l', by rw [perform, hp, hw]⟩
  | sys, .onSessionCreated _ :: effs => exists_perform sys effs
  | sys, .onSessionClosed _ :: effs => exists_perform sys effs
  | sys, .errorLog :: effs => exists_perform sys effs

@[simp] theorem perform_srv (sys : System) (effs : List Server.Effect) :
    (sys.perform T JS JR pad effs).srv = sys.srv := by
  obtain ⟨w, l, h⟩ := exists_perform T JS JR pad sys effs
  rw [h]

@[simp] theorem perform_inbound (sys : System) (effs : List Server.Effect) :
    (sys.perform T JS JR pad effs).inbound = sys.inbound := by
  obtain ⟨w, l, h⟩ := exists_perform T JS JR pad sys effs
  rw [h]

@[simp] theorem perform_peers (sys : System) (effs : List Server.Effect) :
    (sys.perform T JS JR pad effs).peers = sys.peers := by
  obtain ⟨w, l, h⟩ := exists_perform T JS JR pad sys effs
  rw [h]

/-- What one write puts on the wire of `c`: unless `c` is marked after it, the frame of the
message when it is written to `c`. -/
theorem write_wire {sys : System} {d c : ConnId} {m : ServerMessage}
    (hl : (sys.write T JS JR pad d m).lost c = false) :
    sys.lost c = false ∧ ∃ bs, List.Forall₂ (fun m b => m.frame T JS JR pad = some b)
      ((Server.Effect.send d m).to c).toList bs ∧
      (sys.write T JS JR pad d m).wire c = sys.wire c ++ bs := by
  unfold write at hl ⊢
  by_cases hd : d = c
  · subst hd
    cases hb : m.frame T JS JR pad with
    | none => simp [hb] at hl
    | some b =>
      simp only [hb] at hl ⊢
      exact ⟨hl, [b], by simp [Server.Effect.to, hb], by simp⟩
  · cases hb : m.frame T JS JR pad <;>
      simpa [hb, Function.update_noteq (Ne.symm hd), Server.Effect.to, hd] using hl

/-- **What the server's effects put on a wire**: unless the connection is marked after them,
the frames of the messages written to it, appended in order. -/
theorem perform_wire (c : ConnId) :
    ∀ (sys : System) (effs : List Server.Effect),
      (sys.perform T JS JR pad effs).lost c = false →
      sys.lost c = false ∧ ∃ bs, List.Forall₂ (fun m b => m.frame T JS JR pad = some b)
        (Server.sentTo c effs) bs ∧ (sys.perform T JS JR pad effs).wire c = sys.wire c ++ bs
  | sys, [], hl => ⟨hl, [], .nil, (List.append_nil _).symm⟩
  | sys, .send d m :: effs, hl => by
    obtain ⟨hl₁, bs₂, hbs₂, hw₂⟩ := perform_wire c (sys.write T JS JR pad d m) effs hl
    obtain ⟨hl₀, bs₁, hbs₁, hw₁⟩ := write_wire T JS JR pad hl₁
    refine ⟨hl₀, bs₁ ++ bs₂, ?_, ?_⟩
    · rw [Server.sentTo_cons]
      exact List.rel_append hbs₁ hbs₂
    · rw [perform, hw₂, hw₁, List.append_assoc]
  | sys, .onSessionCreated _ :: effs, hl => perform_wire c sys effs hl
  | sys, .onSessionClosed _ :: effs, hl => perform_wire c sys effs hl
  | sys, .errorLog :: effs, hl => perform_wire c sys effs hl

/-! ## The invariant -/

/-- The explanation of `c` carries over to a system that agrees with it at `c`. -/
theorem Explains.of_eq {sys sys' : System} {c : ConnId} {ms : List ServerMessage}
    (he : Explains T JS JR pad sys c ms) (hw : sys'.wire c = sys.wire c)
    (hp : sys'.peers c = sys.peers c) (hin : sys'.inbound c = sys.inbound c)
    (hk : sys'.srv.boundKey c = sys.srv.boundKey c) : Explains T JS JR pad sys' c ms where
  frames := hw ▸ he.frames
  restores := by rw [hp, hin, he.restores]
  mirror := by rw [hp, hk, he.mirror]

/-- **A server operation keeps the invariant** when it informs every connection and takes the
requests it answers off the head of their queues. -/
theorem Inv.serve {sys : System} (hi : sys.Inv T JS JR pad) {srv' : Server}
    {inbound' : ConnId → List Message} {effs : List Server.Effect}
    (hinf : ∀ c, ∃ answered, Server.Informs JS sys.srv srv' effs c answered ∧
      (sys.inbound c).map (·.identifier) = answered ++ (inbound' c).map (·.identifier)) :
    ({ sys with srv := srv', inbound := inbound' }.perform T JS JR pad effs).Inv T JS JR pad := by
  intro c hc hl
  obtain ⟨answered, hI, hin⟩ := hinf c
  rw [perform_srv] at hc
  obtain ⟨hl₀, bs, hbs, hw⟩ := perform_wire T JS JR pad c _ effs hl
  obtain ⟨ms, he⟩ := hi c (hI.live hc) hl₀
  refine ⟨ms ++ Server.sentTo c effs, ?_, ?_, ?_⟩
  · rw [hw]
    exact List.rel_append he.frames hbs
  · rw [perform_peers, perform_inbound, he.restores, hin, List.filterMap_append, hI.answers,
      List.append_assoc]
  · rw [perform_peers, perform_srv, List.foldl_append]
    exact hI.mirror _ he.mirror

theorem Inv.init (sessionsEnabled : Bool) (maxConns : Nat)
    (sessionInfoParser : Option (SessionInfo → Option SessionInfo)) :
    (init sessionsEnabled maxConns sessionInfoParser).Inv T JS JR pad := by
  intro c hc
  simp [System.init, Server.init] at hc

/-- **Every step keeps the invariant.** -/
theorem Inv.step {sys sys' : System} (hi : sys.Inv T JS JR pad) (h : Step T JS JR pad sys sys') :
    sys'.Inv T JS JR pad := by
  cases h with
  | connect c h =>
    intro d hd hl
    by_cases hdc : d = c
    · subst hdc
      refine ⟨[], ?_, ?_, ?_⟩ <;> simp [Server.boundKey, Server.connect]
    · simp only [Server.connect, Function.update_noteq hdc] at hd hl
      obtain ⟨ms, he⟩ := hi d hd hl
      exact ⟨ms, he.of_eq T JS JR pad (Function.update_noteq hdc _ _)
        (Function.update_noteq hdc _ _) (Function.update_noteq hdc _ _)
        (Server.boundKey_connect h d)⟩
  | request c x hcon message =>
    intro d hd hl
    obtain ⟨ms, he⟩ := hi d hd hl
    by_cases hdc : d = c
    · subst hdc
      refine ⟨ms, he.frames, ?_, by simpa using he.mirror⟩
      simp [he.restores]
    · exact ⟨ms, he.of_eq T JS JR pad rfl (Function.update_noteq hdc _ _)
        (Function.update_noteq hdc _ _) rfl⟩
  | restore c x hcon message rest hq result h =>
    refine hi.serve T JS JR pad fun d =>
      ⟨_, Server.informs_handleSessionRestore JS hcon h d, ?_⟩
    by_cases hdc : d = c
    · subst hdc
      simp [hq]
    · simp [hdc]
  | createSession c x key now info hcon h =>
    exact hi.serve T JS JR pad fun d => ⟨[], Server.informs_createSession JS hcon h d, rfl⟩
  | closeSession c writeErr =>
    exact hi.serve T JS JR pad fun d =>
      ⟨[], Server.informs_connectionCloseSession JS c writeErr d, rfl⟩
  | closeKeySession sessionKey writeErr h =>
    rw [Server.closeSession_eq] at h
    cases h
    exact hi.serve T JS JR pad fun d => ⟨[], Server.informs_closeEach JS writeErr d _ _, rfl⟩
  | close c =>
    intro d hd hl
    by_cases hdc : d = c
    · subst hdc
      simp [Server.close] at hd
    · simp only [Server.close, Function.update_noteq hdc] at hd
      obtain ⟨ms, he⟩ := hi d hd hl
      exact ⟨ms, he.of_eq T JS JR pad rfl rfl rfl
        ((Server.boundKey_close c d).trans (if_neg hdc))⟩
  | deliver c b bs hw spare ep h =>
    intro d hd hl
    obtain ⟨ms, he⟩ := hi d hd hl
    by_cases hdc : d = c
    · subst hdc
      have hf := he.frames
      rw [hw] at hf
      cases hf with
      | cons hb hbs =>
        rename_i m ms'
        have hr : (sys.peers d).restores = m.answers.toList ++
            (ms'.filterMap ServerMessage.answers ++ (sys.inbound d).map (·.identifier)) := by
          rw [he.restores, List.filterMap_cons]
          cases m.answers <;> rfl
        rw [Client.Endpoint.receive_frame T JS JR hb spare hr, Option.some.injEq] at h
        subst h
        exact ⟨ms', by simpa using hbs, by simp, by simpa using he.mirror⟩
    · exact ⟨ms, he.of_eq T JS JR pad (Function.update_noteq hdc _ _)
        (Function.update_noteq hdc _ _) rfl rfl⟩

theorem Inv.of_reachable {sys : System} (h : Reachable T JS JR pad sys) : sys.Inv T JS JR pad := by
  induction h with
  | init sessionsEnabled maxConns sessionInfoParser => exact Inv.init T JS JR pad _ _ _
  | step _ hs ih => exact ih.step T JS JR pad hs

/-- **Client and server agree on the session of every connection.**  In every state the
system reaches, by any interleaving of whole server operations, restore requests and frame
deliveries on any connections, take a live connection whose messages all reached its wire.
The client at its end, reading the frames in flight, whatever lies past each one in its
buffer, reads them all without a panic; it ends with a session whose key is that of the
session the server has bound the connection to, as JSON gives it back (no session when there
is none); and it still waits on exactly the restore requests the server has not read, in
order. -/
theorem session_agreement {sys : System} (h : Reachable T JS JR pad sys) {c : ConnId}
    {x : Connection} (hc : sys.srv.connections c = some x) (hl : sys.lost c = false)
    {frames : List Slice} (hf : frames.map (·.bytes) = sys.wire c) :
    ∃ ep, (sys.peers c).receiveAll T JS JR frames = some ep ∧
      ep.client.session.map (·.key) = (sys.srv.boundKey c).map Utf8.coerce ∧
      ep.restores = (sys.inbound c).map (·.identifier) := by
  obtain ⟨ms, he⟩ := Inv.of_reachable T JS JR pad h c (by simp [hc]) hl
  have hframes := he.frames
  rw [← hf, List.forall₂_map_right_iff] at hframes
  exact ⟨_, Client.Endpoint.receiveAll_frames T JS JR hframes he.restores, he.mirror, rfl⟩

/-- A client asks to restore a session whose key, `FF`, is not UTF-8; the server restores it,
the session is closed, and the client asks again and the server restores it again, all before
the client reads a frame.  A reply, a `SessionClosed` and a reply are in flight; reading them,
the client ends with the key as JSON gives it back. -/
theorem session_agreement_restored_closed :
    ∃ sys : System, Reachable .ordinal .sessionKeys (.empty _) 0 sys ∧
      sys.srv.connections 0 = some ⟨some ⟨[0xFF], 0, 0, none⟩⟩ ∧ sys.lost 0 = false ∧
      (∃ b₁ b₃, sys.wire 0 = [b₁, [MsgTags.ordinal.byte .sessionClosed], b₃]) ∧
      (sys.srv.boundKey 0).map Utf8.coerce = some [0xEF, 0xBF, 0xBD] ∧
      ∃ ep, (sys.peers 0).receiveAll .ordinal .sessionKeys (.empty _)
          ((sys.wire 0).map (⟨·, []⟩)) = some ep ∧
        ep.client.session.map (·.key) = (sys.srv.boundKey 0).map Utf8.coerce ∧
        ep.restores = (sys.inbound 0).map (·.identifier) := by
  have h : Reachable .ordinal .sessionKeys (.empty _) 0 _ :=
    Reachable.step (.init true 0 none) (.connect 0 rfl)
  have h := h.step
    (.request 0 ⟨none⟩ rfl ⟨⟨[0, 0, 0, 0, 0, 0, 0, 0], rfl⟩, ⟨.utf8, [0xFF]⟩⟩)
  have h := h.step (.restore 0 ⟨none⟩ rfl _ [] rfl (.found 0 0 none) rfl)
  have h := h.step (.closeSession 0 none)
  have h := h.step
    (.request 0 ⟨none⟩ rfl ⟨⟨[0, 0, 0, 0, 0, 0, 0, 1], rfl⟩, ⟨.utf8, [0xFF]⟩⟩)
  have h := h.step (.restore 0 ⟨none⟩ rfl _ [] rfl (.found 0 0 none) rfl)
  exact ⟨_, h, rfl, rfl, ⟨_, _, rfl⟩, by decide,
    session_agreement .ordinal .sessionKeys (.empty _) 0 h (c := 0)
      (x := ⟨some ⟨[0xFF], 0, 0, none⟩⟩) rfl rfl
      ((List.map_map _ _ _).trans (List.map_id _))⟩

/-! ## A reply written late -/

/-- The server of a reachable system keeps the registry invariant: its steps are the server's
operations. -/
theorem srv_inv {sys : System} (h : Reachable T JS JR pad sys) : sys.srv.Inv := by
  induction h with
  | init sessionsEnabled maxConns sessionInfoParser => exact Server.Inv.init _ _ _
  | step _ hs ih =>
    cases hs with
    | connect c h => exact ih.connect h
    | request => exact ih
    | restore c x hcon message rest hq result h =>
      simpa using ih.handleSessionRestore JS hcon h
    | createSession c x key now info hcon h => simpa using ih.createSession hcon h
    | closeSession c writeErr => simpa using ih.connectionCloseSession c writeErr
    | closeKeySession sessionKey writeErr h =>
      rw [Server.closeSession_eq] at h
      cases h
      simpa using ih.closeEach writeErr _
    | close c => exact ih.close c
    | deliver => exact ih

/-- What closing sessions writes is `SessionClosed` frames. -/
theorem sentTo_connectionCloseSession {srv : Server} (con : ConnId) (writeErr : Option Error)
    (c : ConnId) :
    ∀ m ∈ Server.sentTo c (srv.connectionCloseSession con writeErr).2.1,
      m = .sessionClosed := by
  unfold Server.connectionCloseSession
  split
  · simp
  · split
    · simp
    · intro m hm
      by_cases hc : con = c <;> simp_all [Server.Effect.to]

theorem sentTo_closeEach (writeErr : ConnId → Option Error) (c : ConnId) :
    ∀ (srv : Server) (cs : List ConnId),
      ∀ m ∈ Server.sentTo c (Server.closeEach writeErr srv cs).2.1, m = .sessionClosed
  | _, [] => by simp [Server.closeEach]
  | srv, d :: cs => by
    intro m hm
    rw [show (Server.closeEach writeErr srv (d :: cs)).2.1 =
        (srv.connectionCloseSession d (writeErr d)).2.1 ++
          (Server.closeEach writeErr (srv.connectionCloseSession d (writeErr d)).1 cs).2.1 from rfl,
      Server.sentTo_append, List.mem_append] at hm
    exact hm.elim (sentTo_connectionCloseSession d (writeErr d) c m)
      (sentTo_closeEach writeErr c _ cs m)

/-- The marks are left when every message to the connection can be encoded. -/
theorem lost_perform (c : ConnId) :
    ∀ (sys : System) (effs : List Server.Effect),
      (∀ m ∈ Server.sentTo c effs, (m.frame T JS JR pad).isSome) →
      (sys.perform T JS JR pad effs).lost c = sys.lost c
  | sys, [], _ => rfl
  | sys, .send d m :: effs, h => by
    rw [Server.sentTo_cons] at h
    rw [perform, lost_perform c _ effs fun m' hm' => h m' (List.mem_append_right _ hm')]
    unfold write
    by_cases hd : d = c
    · subst hd
      have hm := h m (by simp [Server.Effect.to])
      cases hb : m.frame T JS JR pad
      · simp [hb] at hm
      · rfl
    · split <;> simp [Function.update_noteq (Ne.symm hd)]
  | sys, .onSessionCreated _ :: effs, h => lost_perform c sys effs h
  | sys, .onSessionClosed _ :: effs, h => lost_perform c sys effs h
  | sys, .errorLog :: effs, h => lost_perform c sys effs h

/-- **A late reply undoes `CloseSession` at the client.**  `handleSessionRestore` binds and
registers the session, and writes its reply only after that, holding no lock in between.  From
every reachable state, let a restore that succeeds be followed, before its reply is written, by
`CloseSession` of its key.  The server ends with the connection bound to no session, and the
client, once it has read every frame on its wire, whatever lies past each one in its buffer,
holds a session with the restored key, as JSON gives it back. -/
theorem late_reply_revives {sys : System} (h : Reachable T JS JR pad sys) {c : ConnId}
    {x : Connection} (hc : sys.srv.connections c = some x) (hl : sys.lost c = false)
    (hen : sys.srv.sessionsEnabled = true) {message : Message} {rest : List Message}
    (hq : sys.inbound c = message :: rest)
    (hroom : sys.srv.sessionRegistry.HasRoom message.payload.data)
    {creation lastLookup : Nat} {info : Option SessionInfo} {b : Bytes}
    (hb : JS.marshal ⟨message.payload.data, creation, lastLookup, info⟩ = some b)
    {srv₁ : Server} {effs : List Server.Effect}
    (hr : sys.srv.handleSessionRestore JS c message (.found creation lastLookup info) =
      some (srv₁, effs))
    (writeErr : ConnId → Option Error) {res : Server.CloseSessionResult}
    (hclose : srv₁.closeSession message.payload.data writeErr = some res) :
    res.srv.boundKey c = none ∧
      ∀ frames : List Slice, frames.map (·.bytes) =
          (({ sys with srv := res.srv, inbound := Function.update sys.inbound c rest }.perform
            T JS JR pad res.effects).perform T JS JR pad effs).wire c →
        ∃ ep, (sys.peers c).receiveAll T JS JR frames = some ep ∧
          ep.client.session.map (·.key) = some (Utf8.coerce message.payload.data) := by
  obtain ⟨reg, hreg⟩ := Server.register_setSession c hroom
    (some ⟨message.payload.data, creation, lastLookup, sys.srv.parsedSessInfo info⟩)
  rw [Server.handleSessionRestore_of_passed JS hen hroom, Server.restoreFinish_found JS hb hreg,
    Option.some.injEq, Prod.mk.injEq] at hr
  obtain ⟨rfl, rfl⟩ := hr
  rw [Server.closeSession_eq] at hclose
  cases hclose
  set srv₁ : Server := { sys.srv.setSession c (some ⟨message.payload.data, creation, lastLookup,
    sys.srv.parsedSessInfo info⟩) with sessionRegistry := reg }
  set closed := Server.closeEach writeErr srv₁ (srv₁.snapshot message.payload.data)
  have hi₁ : srv₁.Inv := (srv_inv T JS JR pad h).bind hc hreg
  have hbound : srv₁.boundKey c = some message.payload.data :=
    (Server.boundKey_setSession hc _ c).trans (if_pos rfl)
  have hmem := (hi₁.mem_snapshot_iff message.payload.data c).mpr hbound
  refine ⟨(Server.boundKey_closeEach writeErr srv₁ _ hen c).trans (if_pos hmem), ?_⟩
  -- on the wire: the frames explained so far, then the closures, then the reply
  obtain ⟨ms, he⟩ := Inv.of_reachable T JS JR pad h c (by simp [hc]) hl
  set sys₁ : System := { sys with srv := closed.1, inbound := Function.update sys.inbound c rest }
  have hl₂ : (sys₁.perform T JS JR pad closed.2.1).lost c = false :=
    (lost_perform T JS JR pad c _ _ fun m hm => by
      rw [sentTo_closeEach writeErr c _ _ m hm]; rfl).trans hl
  have hl₃ : ((sys₁.perform T JS JR pad closed.2.1).perform T JS JR pad
      [.send c (fulfillMsg message.identifier .utf8 b)]).lost c = false :=
    (lost_perform T JS JR pad c _ _ (by simp [Server.Effect.to, fulfillMsg, ServerMessage.frame,
      ServerMessage.Admissible])).trans hl₂
  obtain ⟨-, bs₂, hbs₂, hw₂⟩ := perform_wire T JS JR pad c _ _ hl₃
  obtain ⟨-, bs₁, hbs₁, hw₁⟩ := perform_wire T JS JR pad c _ _ hl₂
  have hres : (sys.peers c).restores = (ms ++ Server.sentTo c closed.2.1 ++
      [fulfillMsg message.identifier .utf8 b]).filterMap ServerMessage.answers ++
      rest.map (·.identifier) := by
    rw [he.restores, hq, List.filterMap_append, List.filterMap_append,
      (Server.informs_closeEach JS writeErr c srv₁ _).answers]
    simp [fulfillMsg, ServerMessage.answers]
  have hframes : List.Forall₂ (fun m b => m.frame T JS JR pad = some b)
      (ms ++ Server.sentTo c closed.2.1 ++ [fulfillMsg message.identifier .utf8 b])
      (((sys₁.perform T JS JR pad closed.2.1).perform T JS JR pad
        [.send c (fulfillMsg message.identifier .utf8 b)]).wire c) := by
    rw [hw₂, hw₁]
    exact List.rel_append (List.rel_append he.frames hbs₁)
      (by simpa [Server.Effect.to] using hbs₂)
  intro frames hf
  rw [← hf, List.forall₂_map_right_iff] at hframes
  refine ⟨_, Client.Endpoint.receiveAll_frames T JS JR hframes hres, ?_⟩
  simp [List.foldl_append, ServerMessage.mirror, fulfillMsg, JS.unmarshal_marshal _ _ hb]

/-- A client connects and asks to restore `"K"`, which the store has; the restore succeeds, and
`CloseSession("K")` runs before its reply is written. -/
theorem late_reply_revives_restored :
    ∃ (sys : System) (srv₁ : Server) (effs : List Server.Effect) (res : Server.CloseSessionResult),
      Reachable .ordinal (.only ⟨[75], 0, 0, none⟩) (.empty _) 0 sys ∧
      sys.srv.connections 0 = some ⟨none⟩ ∧ sys.lost 0 = false ∧
      sys.srv.sessionsEnabled = true ∧
      sys.inbound 0 = [⟨⟨[0, 0, 0, 0, 0, 0, 0, 0], rfl⟩, ⟨.utf8, [75]⟩⟩] ∧
      sys.srv.sessionRegistry.HasRoom [75] ∧
      (JsonCodec.only (⟨[75], 0, 0, none⟩ : Session)).marshal ⟨[75], 0, 0, none⟩ = some [] ∧
      sys.srv.handleSessionRestore (.only ⟨[75], 0, 0, none⟩) 0
        ⟨⟨[0, 0, 0, 0, 0, 0, 0, 0], rfl⟩, ⟨.utf8, [75]⟩⟩ (.found 0 0 none) = some (srv₁, effs) ∧
      srv₁.closeSession [75] (fun _ => none) = some res ∧
      res.srv.boundKey 0 = none ∧
      ∀ frames : List Slice, frames.map (·.bytes) =
          (({ sys with srv := res.srv, inbound := Function.update sys.inbound 0 [] }.perform
            .ordinal (.only ⟨[75], 0, 0, none⟩) (.empty _) 0 res.effects).perform
            .ordinal (.only ⟨[75], 0, 0, none⟩) (.empty _) 0 effs).wire 0 →
        ∃ ep, (sys.peers 0).receiveAll .ordinal (.only ⟨[75], 0, 0, none⟩) (.empty _) frames =
            some ep ∧
          ep.client.session.map (·.key) = some (Utf8.coerce [75]) := by
  have hreach := Reachable.step (Reachable.step (.init true 0 none) (Step.connect 0 rfl))
    (Step.request 0 ⟨none⟩ rfl ⟨⟨[0, 0, 0, 0, 0, 0, 0, 0], rfl⟩, ⟨.utf8, [75]⟩⟩ :
      Step .ordinal (.only ⟨[75], 0, 0, none⟩) (.empty _) 0 _ _)
  have hreach' : Reachable .ordinal (.only ⟨[75], 0, 0, none⟩) (.empty _) 0
      ⟨(Server.init true 0 none).connect 0,
        Function.update (fun _ => []) 0 [⟨⟨[0, 0, 0, 0, 0, 0, 0, 0], rfl⟩, ⟨.utf8, [75]⟩⟩],
        fun _ => [],
        Function.update (fun _ => ⟨⟨none⟩, []⟩) 0 ⟨⟨none⟩, [⟨[0, 0, 0, 0, 0, 0, 0, 0], rfl⟩]⟩,
        fun _ => false⟩ := by
    simpa [System.init, Function.update_eq_self_iff, Function.update_idem] using hreach
  have hcon : ((Server.init true 0 none).connect 0).connections 0 = some ⟨none⟩ := by
    simp [Server.connect]
  have hroom : ((Server.init true 0 none).connect 0).sessionRegistry.HasRoom [75] := by decide
  obtain ⟨reg, hreg⟩ := Server.register_setSession 0 hroom
    (some ⟨[75], 0, 0, ((Server.init true 0 none).connect 0).parsedSessInfo none⟩)
  have hr : ((Server.init true 0 none).connect 0).handleSessionRestore
      (.only ⟨[75], 0, 0, none⟩) 0 ⟨⟨[0, 0, 0, 0, 0, 0, 0, 0], rfl⟩, ⟨.utf8, [75]⟩⟩
      (.found 0 0 none) = some (_, _) :=
    (Server.handleSessionRestore_of_passed _ rfl hroom).trans
      (Server.restoreFinish_found _ rfl hreg)
  exact ⟨_, _, _, _, hreach', hcon, rfl, rfl, by simp, hroom, rfl, hr,
    Server.closeSession_eq _ _ _,
    late_reply_revives .ordinal (.only ⟨[75], 0, 0, none⟩) (.empty _) 0 hreach' (x := ⟨none⟩)
      hcon rfl rfl (by simp) hroom (by rfl) hr (fun _ => none) (Server.closeSession_eq _ _ _)⟩

end System

end Webwire
