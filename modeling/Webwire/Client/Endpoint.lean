import Webwire.Client.Protocol
import Mathlib.Data.List.Forall2

/-!
# The client's end of a connection

`handleMessage` is one frame of the client's reader.  Around it the client keeps a request
manager, which holds the requests waiting for their outcome, and `RestoreSession`, which
waits on one of them and, when the reply comes, publishes the session it carries (§4.6,
§4.7; both are in `client.go`, which is not under `src/`).  `Endpoint` is that much of a
client: the session mirror, and the identifiers of the restore requests it waits on, oldest
first.

`Endpoint.receive` reads one frame: `handleMessage`, then `settle` for each outcome the frame
reports.  An outcome of a request no one waits on is dropped, as `Fulfill` and `Fail` drop
it.

## What a message means to the client

`ServerMessage.answers` is the request a message answers, and `ServerMessage.mirror` what it
does to the session mirror of a client that waits on that request: a reply publishes the
session its payload decodes to, `SessionCreated` the session it carries as JSON gives it back,
`SessionClosed` clears the mirror, and every other message leaves it.

`Endpoint.receive_frame` is the refinement of the one by the other: for every message that has
a frame, reading the frame, whatever lies past it in the reader's buffer, makes exactly that
update, and takes the request the message answers off the head of the waiting list.
`Endpoint.receiveAll_frames` is the same over a whole wire.
-/

namespace Webwire

namespace ServerMessage

/-- The request a message answers. -/
def answers : ServerMessage → Option MessageIdentifier
  | .reply reqID _ | .replyShutdown reqID | .sessionNotFound reqID
  | .maxSessConnsReached reqID | .sessionsDisabled reqID | .replyInternalError reqID
  | .errorReply reqID _ => some reqID
  | .signal _ | .sessionCreated _ | .sessionClosed => none

variable (JS : JsonCodec Session)

/-- What a message does to the session mirror of a client that waits on the request it
answers. -/
def mirror (cur : Option Session) : ServerMessage → Option Session
  | .reply _ p =>
    match JS.unmarshal p.data with
    | some s => some s
    | none => cur
  | .sessionCreated s => some (JsonRoundTrip.roundTrip s)
  | .sessionClosed => none
  | _ => cur

/-- A failure answers its request and leaves the mirror. -/
@[simp] theorem answers_failMsg (reqID : MessageIdentifier) (err : Option Error) :
    (failMsg reqID err).answers = some reqID := by
  unfold failMsg
  split <;> rfl

@[simp] theorem mirror_failMsg (cur : Option Session) (reqID : MessageIdentifier)
    (err : Option Error) : mirror JS cur (failMsg reqID err) = cur := by
  unfold failMsg
  split <;> rfl

end ServerMessage

namespace Client

/-- The part of `client.Client` the session protocol reads and writes: the session mirror,
and the identifiers of the restore requests its request manager holds, oldest first. -/
structure Endpoint where
  client : Client
  restores : List MessageIdentifier

namespace Endpoint

variable (T : MsgTags) (JS : JsonCodec Session) (JR : JsonCodec ReqErr)

/-- Modelled from the spec: the request manager and `client.RestoreSession` are not under
`src/`.  The outcome of a restore the client waits on ends the wait: a reply publishes the
session its payload decodes to (§4.7), a failure keeps the mirror.  `Fulfill` and `Fail` drop
an outcome no one waits on (§4.6). -/
def settle (ep : Endpoint) : Effect → Endpoint
  | .fulfill reqID payload =>
    if reqID ∈ ep.restores then
      ⟨match JS.unmarshal payload.data with
        | some s => { ep.client with session := some s }
        | none => ep.client, ep.restores.erase reqID⟩
    else ep
  | .fail reqID _ =>
    if reqID ∈ ep.restores then ⟨ep.client, ep.restores.erase reqID⟩ else ep
  | _ => ep

/-- Modelled from the spec: the reader task (§4.7).  One frame: `handleMessage`, then each
outcome it reports, in order; `none` is a panic of the reader. -/
def receive (ep : Endpoint) (frame : Slice) : Option Endpoint :=
  (handleMessage T JS JR ep.client frame).map fun r => r.2.foldl (settle JS) ⟨r.1, ep.restores⟩

/-- Reading frames one after the other. -/
def receiveAll (ep : Endpoint) : List Slice → Option Endpoint
  | [] => some ep
  | b :: bs => (ep.receive T JS JR b).bind (·.receiveAll bs)

/-! ## Reading the frame of a message -/

theorem settle_fulfill_head (clt : Client) (reqID : MessageIdentifier)
    (rest : List MessageIdentifier) (p : Payload) :
    settle JS ⟨clt, reqID :: rest⟩ (.fulfill reqID p) =
      ⟨⟨ServerMessage.mirror JS clt.session (.reply reqID p)⟩, rest⟩ := by
  simp only [settle, List.mem_cons_self, if_true, List.erase_cons_head, ServerMessage.mirror]
  cases JS.unmarshal p.data <;> rfl

/-- **Reading the frame of a message is the message's update.**  For every message with a
frame, whatever the unspecified byte, a client that waits on the request the message answers,
first, reads the frame without a panic, whatever lies past it in the buffer, updates its
mirror as `ServerMessage.mirror` says and stops waiting on that request. -/
theorem receive_frame {pad : UInt8} {m : ServerMessage} {b : Bytes}
    (hb : m.frame T JS JR pad = some b) (spare : Bytes) {ep : Endpoint}
    {rest : List MessageIdentifier} (hr : ep.restores = m.answers.toList ++ rest) :
    ep.receive T JS JR ⟨b, spare⟩ =
      some ⟨⟨ServerMessage.mirror JS ep.client.session m⟩, rest⟩ := by
  obtain ⟨⟨cur⟩, R⟩ := ep
  simp only at hr
  subst hr
  cases m
  case reply id p =>
    obtain ⟨enc, d⟩ := p
    cases enc <;>
    · simp only [ServerMessage.frame, ServerMessage.replyType, Option.ite_none_right_eq_some,
        Option.some.injEq] at hb
      obtain ⟨-, rfl⟩ := hb
      simp [receive, handleMessage, switchCase_byte, handledTypes, identifiedCase, handleReply,
        extractMessageIdentifier_frame, sliceFrom_reply, sliceFrom_replyUtf16,
        ServerMessage.answers, settle_fulfill_head]
  case errorReply id e =>
    obtain ⟨b', hb', rfl⟩ := Option.map_eq_some'.mp hb
    simp [receive, handleMessage, switchCase_byte, handledTypes, identifiedCase, handleFailure,
      extractMessageIdentifier_frame, sliceFrom_reply, JR.unmarshal_marshal e b' hb',
      ServerMessage.answers, ServerMessage.mirror, settle]
  case signal p =>
    obtain ⟨enc, d⟩ := p
    simp only [ServerMessage.frame, Option.ite_none_right_eq_some, Option.some.injEq] at hb
    obtain ⟨-, rfl⟩ := hb
    cases enc <;>
    simp [receive, handleMessage, switchCase_byte, handledTypes, ServerMessage.signalType,
      signalCase, sliceFrom_signal, ServerMessage.answers, ServerMessage.mirror, settle]
  case sessionCreated s =>
    obtain ⟨b', hb', rfl⟩ := Option.map_eq_some'.mp hb
    simp [receive, handleMessage, switchCase_byte, handledTypes, handleSessionCreated,
      sliceFrom_body, JS.unmarshal_marshal s b' hb', ServerMessage.answers, ServerMessage.mirror,
      settle]
  case sessionClosed =>
    cases hb
    simp [receive, handleMessage, switchCase_byte, handledTypes, handleSessionClosed,
      ServerMessage.answers, ServerMessage.mirror, settle]
  all_goals
    cases hb
    simp [receive, handleMessage, switchCase_byte, handledTypes, failureCase, failWith,
      extractMessageIdentifier_failure, handleReplyShutdown, handleSessionNotFound,
      handleMaxSessConnsReached, handleSessionsDisabled, handleInternalError,
      ServerMessage.answers, ServerMessage.mirror, settle]

/-- **Reading a whole wire.**  The frames of messages `ms`, read by a client that waits first on
the requests they answer, in order, leave the mirror `ms` make and the rest of the waiting
list, whatever lies past each frame in the buffer. -/
theorem receiveAll_frames {pad : UInt8} :
    ∀ {ms : List ServerMessage} {bs : List Slice},
      List.Forall₂ (fun m b => m.frame T JS JR pad = some b.bytes) ms bs →
      ∀ {ep : Endpoint} {rest : List MessageIdentifier},
        ep.restores = ms.filterMap ServerMessage.answers ++ rest →
        ep.receiveAll T JS JR bs =
          some ⟨⟨ms.foldl (ServerMessage.mirror JS) ep.client.session⟩, rest⟩
  | [], [], .nil, ep, rest, hr => by
    obtain ⟨⟨cur⟩, R⟩ := ep
    simp only [List.filterMap_nil, List.nil_append] at hr
    simp [receiveAll, hr]
  | m :: ms, b :: bs, .cons hb hbs, ep, rest, hr => by
    have hr' : ep.restores = m.answers.toList ++ (ms.filterMap ServerMessage.answers ++ rest) := by
      rw [hr, List.filterMap_cons]
      cases m.answers <;> rfl
    simp only [receiveAll, receive_frame T JS JR hb _ hr', Option.some_bind, List.foldl_cons]
    exact receiveAll_frames hbs rfl

end Endpoint
end Client
end Webwire
