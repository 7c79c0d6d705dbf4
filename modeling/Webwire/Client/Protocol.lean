import Webwire.Client.Handle

/-!
# What the client does with each frame of the wire format

`Client.intended` says, for every message a server sends, what the client is meant to do
with it: fulfill or fail the request it answers, with the error type its tag names, pass a
signal to `OnServerSignal`, or set or clear the session mirror.  A session travels as JSON,
so the mirror is set to the session as a JSON round trip gives it back.
`handleMessage_frame` shows that `handleMessage`, given the frame the wire format defines
for the message, does exactly that and nothing else, for every identifier, every payload,
every byte the layouts leave open and whatever lies past the frame in the reader's buffer.

The two offsets are where this can go wrong: a reply's payload starts at 9, or at 10 for
UTF-16, and a signal's at 2 whatever its encoding.

`handleMessage_settles` is the request manager's side of any frame, well formed or not: a
reply fulfills, and a typed failure or an error reply fails, exactly the request whose
identifier the frame carries, whatever its body; any other frame settles no request.
-/

namespace Webwire
namespace Client

variable (T : MsgTags) (JS : JsonCodec Session) (JR : JsonCodec ReqErr)

/-- What the client is meant to do with a server message. -/
def intended (clt : Client) : ServerMessage → Client × List Effect
  | .reply id p => (clt, [.fulfill id p])
  | .replyShutdown id => (clt, [.fail id .reqSrvShutdownErr])
  | .sessionNotFound id => (clt, [.fail id .sessNotFoundErr])
  | .maxSessConnsReached id => (clt, [.fail id .maxSessConnsReachedErr])
  | .sessionsDisabled id => (clt, [.fail id .sessionsDisabledErr])
  | .replyInternalError id => (clt, [.fail id .reqInternalErr])
  | .errorReply id e => (clt, [.fail id (.reqErr e)])
  | .signal p => (clt, [.onServerSignal p])
  | .sessionCreated s =>
    (⟨some (JsonRoundTrip.roundTrip s)⟩,
      [.onSessionCreated (JsonRoundTrip.roundTrip s) (some (JsonRoundTrip.roundTrip s))])
  | .sessionClosed => (⟨none⟩, [.onSessionClosed none])

/-- The slice at the end of a known prefix is what follows it. -/
theorem sliceFrom_append (pre rest : Bytes) : sliceFrom (pre ++ rest) pre.length = some rest := by
  rw [sliceFrom_of_le (by simp), List.drop_left]

theorem sliceFrom_reply (tag : UInt8) (id : MessageIdentifier) (rest : Bytes) :
    sliceFrom (tag :: (id.bytes ++ rest)) 9 = some rest := by
  simpa [id.length_bytes] using sliceFrom_append (tag :: id.bytes) rest

theorem sliceFrom_replyUtf16 (tag pad : UInt8) (id : MessageIdentifier) (rest : Bytes) :
    sliceFrom (tag :: (id.bytes ++ pad :: rest)) 10 = some rest := by
  simpa [id.length_bytes] using sliceFrom_append (tag :: id.bytes ++ [pad]) rest

theorem sliceFrom_signal (tag pad : UInt8) (rest : Bytes) :
    sliceFrom (tag :: pad :: rest) 2 = some rest :=
  sliceFrom_append [tag, pad] rest

theorem sliceFrom_body (tag : UInt8) (rest : Bytes) : sliceFrom (tag :: rest) 1 = some rest :=
  sliceFrom_append [tag] rest

/-- **Every frame is dispatched as intended.**  Whatever the tag bytes (only their
distinctness is used), the identifier, the payload, the unspecified byte and the spare bytes
of the buffer, the frame of a server message makes `handleMessage` do what `intended` says,
and nothing else. -/
theorem handleMessage_frame {pad : UInt8} {clt : Client} {m : ServerMessage} {b : Bytes}
    (h : ServerMessage.frame T JS JR pad m = some b) (spare : Bytes) :
    handleMessage T JS JR clt ⟨b, spare⟩ = some (intended clt m) := by
  cases m
  case reply id p =>
    obtain ⟨enc, d⟩ := p
    cases enc <;>
    · simp only [ServerMessage.frame, ServerMessage.replyType, Option.ite_none_right_eq_some,
        Option.some.injEq] at h
      obtain ⟨-, rfl⟩ := h
      simp [handleMessage, intended, switchCase_byte, handledTypes, identifiedCase, handleReply,
        extractMessageIdentifier_frame, sliceFrom_reply, sliceFrom_replyUtf16]
  case errorReply id e =>
    obtain ⟨b', hb', rfl⟩ := Option.map_eq_some'.mp h
    simp [handleMessage, intended, switchCase_byte, handledTypes, identifiedCase, handleFailure,
      extractMessageIdentifier_frame, sliceFrom_reply, JR.unmarshal_marshal e b' hb']
  case signal p =>
    obtain ⟨enc, d⟩ := p
    simp only [ServerMessage.frame, Option.ite_none_right_eq_some, Option.some.injEq] at h
    obtain ⟨-, rfl⟩ := h
    cases enc <;>
    simp [handleMessage, intended, switchCase_byte, handledTypes, ServerMessage.signalType,
      signalCase, sliceFrom_signal]
  case sessionCreated s =>
    obtain ⟨b', hb', rfl⟩ := Option.map_eq_some'.mp h
    simp [handleMessage, intended, switchCase_byte, handledTypes, handleSessionCreated,
      sliceFrom_body, JS.unmarshal_marshal s b' hb']
  case sessionClosed =>
    cases h
    simp [handleMessage, intended, switchCase_byte, handledTypes, handleSessionClosed]
  all_goals
    cases h
    simp [handleMessage, intended, switchCase_byte, handledTypes, failureCase, failWith,
      extractMessageIdentifier_failure, handleReplyShutdown, handleSessionNotFound,
      handleMaxSessConnsReached, handleSessionsDisabled, handleInternalError]

/-- The UTF-16 echo of the test suite: a reply carrying `"sample"` in UTF-16 reaches `Fulfill`
with its twelve bytes, read from offset 10. -/
theorem handleMessage_frame_sample :
    ∃ b, ServerMessage.frame .ordinal (.empty _) (.empty _) 0
        (.reply ⟨[0, 0, 0, 0, 0, 0, 0, 0], rfl⟩
          ⟨.utf16, [0, 115, 0, 97, 0, 109, 0, 112, 0, 108, 0, 101]⟩) = some b ∧
      handleMessage .ordinal (.empty _) (.empty _) ⟨none⟩ ⟨b, []⟩ =
        some (⟨none⟩, [.fulfill ⟨[0, 0, 0, 0, 0, 0, 0, 0], rfl⟩
          ⟨.utf16, [0, 115, 0, 97, 0, 109, 0, 112, 0, 108, 0, 101]⟩]) := by
  refine ⟨_, rfl, ?_⟩
  exact handleMessage_frame (m := .reply ⟨[0, 0, 0, 0, 0, 0, 0, 0], rfl⟩
    ⟨.utf16, [0, 115, 0, 97, 0, 109, 0, 112, 0, 108, 0, 101]⟩) _ _ _ rfl []

/-! ## Settling requests -/

/-- The request an effect settles with `requestManager.Fulfill` (`true`) or `Fail`
(`false`), if it settles one. -/
def Effect.outcome : Effect → Option (MessageIdentifier × Bool)
  | .fulfill id _ => some (id, true)
  | .fail id _ => some (id, false)
  | _ => none

/-- How the case selected by a tag settles the request the frame names: a reply fulfills it,
a typed failure and an error reply fail it, and every other case settles none. -/
def settlesAs : Option MsgType → Option Bool
  | some .replyBinary | some .replyUtf8 | some .replyUtf16 => some true
  | some .replyShutdown | some .sessionNotFound | some .maxSessConnsReached
  | some .sessionsDisabled | some .errorReply | some .replyInternalError => some false
  | _ => none

/-- What a frame settles, by the case its tag selects and the identifier it carries. -/
def expectedOutcome (message : Slice) : List (MessageIdentifier × Bool) :=
  match message.bytes with
  | [] => []
  | tag :: _ =>
    ((settlesAs (switchCase T tag)).bind fun k =>
      (extractMessageIdentifier message).map (·, k)).toList

theorem eq_of_map_pair {X : Option (List Effect)} {clt c : Client} {e : List Effect}
    (h : X.map (clt, ·) = some (c, e)) : X = some e := by
  obtain ⟨l, hl, he⟩ := Option.map_eq_some'.mp h
  cases he
  exact hl

theorem outcome_identifiedCase {message : Slice} {offset : Nat}
    {handler : MessageIdentifier → Bytes → List Effect} {l : List Effect} {k : Bool}
    (h : identifiedCase message offset handler = some l)
    (hk : ∀ id d, (handler id d).filterMap Effect.outcome = [(id, k)]) :
    l.filterMap Effect.outcome = ((extractMessageIdentifier message).map (·, k)).toList := by
  simp only [identifiedCase, Option.bind_eq_bind, Option.bind_eq_some, Option.pure_def,
    Option.some.injEq] at h
  obtain ⟨id, hid, d, -, rfl⟩ := h
  rw [hid, hk id d]
  rfl

theorem outcome_failureCase {message : Slice} {handler : MessageIdentifier → List Effect}
    {l : List Effect} {k : Bool} (h : failureCase message handler = some l)
    (hk : ∀ id, (handler id).filterMap Effect.outcome = [(id, k)]) :
    l.filterMap Effect.outcome = ((extractMessageIdentifier message).map (·, k)).toList := by
  obtain ⟨id, hid, rfl⟩ := Option.map_eq_some'.mp h
  rw [hid, hk id]
  rfl

theorem outcome_signalCase {message : Slice} {encoding : PayloadEncoding} {l : List Effect}
    (h : signalCase message encoding = some l) : l.filterMap Effect.outcome = [] := by
  obtain ⟨_, -, rfl⟩ := Option.map_eq_some'.mp h
  rfl

/-- An error reply fails its request, whether its body decodes or not. -/
theorem outcome_handleFailure (id : MessageIdentifier) (d : Bytes) :
    (handleFailure JR id d).filterMap Effect.outcome = [(id, false)] := by
  unfold handleFailure
  split <;> rfl

theorem outcome_handleSessionCreated (clt : Client) (d : Bytes) :
    (handleSessionCreated JS clt d).2.filterMap Effect.outcome = [] := by
  unfold handleSessionCreated
  split <;> rfl

/-- **A frame settles exactly the request it names, as its tag says.**  Whatever its tag, its
length and its body, a frame that `handleMessage` handles without a panic fulfills the
request whose identifier it carries when it is a reply, fails it when it is a typed failure
or an error reply (even one whose body is no `ReqErr`), and settles no request otherwise. -/
theorem handleMessage_settles {clt c : Client} {m : Slice} {e : List Effect}
    (h : handleMessage T JS JR clt m = some (c, e)) :
    e.filterMap Effect.outcome = expectedOutcome T m := by
  obtain ⟨bytes, spare⟩ := m
  cases bytes with
  | nil =>
    cases h
    rfl
  | cons tag body =>
    simp only [expectedOutcome]
    cases hs : switchCase T tag with
    | none =>
      simp only [handleMessage, hs, Option.some.injEq, Prod.mk.injEq] at h
      rw [← h.2]
      rfl
    | some t =>
      cases t
      case sessionCreated =>
        simp only [handleMessage, hs] at h
        obtain ⟨d, -, hd⟩ := Option.map_eq_some'.mp h
        have := outcome_handleSessionCreated JS clt d
        rw [hd] at this
        exact this
      case sessionClosed =>
        simp only [handleMessage, hs, handleSessionClosed, Option.some.injEq, Prod.mk.injEq] at h
        rw [← h.2]
        rfl
      case replyProtocolError | closeSession | restoreSession | requestBinary | requestUtf8
        | requestUtf16 => exact absurd (mem_handledTypes_of_switchCase T hs) (by decide)
      all_goals
        simp only [handleMessage, hs] at h
        have hX := eq_of_map_pair h
        first
          | exact outcome_identifiedCase hX fun _ _ => rfl
          | exact outcome_identifiedCase hX (outcome_handleFailure JR)
          | exact outcome_failureCase hX fun _ => rfl
          | exact outcome_signalCase hX

/-- An error reply whose body is no `ReqErr` fails its request, and only that one. -/
theorem handleMessage_settles_errorReply :
    ∃ c e, handleMessage .ordinal (.empty _) (.empty _) ⟨none⟩
        ⟨MsgTags.ordinal.byte .errorReply :: [1, 2, 3, 4, 5, 6, 7, 8, 0], []⟩ = some (c, e) ∧
      expectedOutcome .ordinal
          ⟨MsgTags.ordinal.byte .errorReply :: [1, 2, 3, 4, 5, 6, 7, 8, 0], []⟩ =
        [(⟨[1, 2, 3, 4, 5, 6, 7, 8], rfl⟩, false)] ∧
      e.filterMap Effect.outcome = expectedOutcome .ordinal
        ⟨MsgTags.ordinal.byte .errorReply :: [1, 2, 3, 4, 5, 6, 7, 8, 0], []⟩ :=
  have h : handleMessage .ordinal (.empty _) (.empty _) ⟨none⟩
      ⟨MsgTags.ordinal.byte .errorReply :: [1, 2, 3, 4, 5, 6, 7, 8, 0], []⟩ = some (_, _) := rfl
  ⟨_, _, h, rfl, handleMessage_settles .ordinal (.empty _) (.empty _) h⟩

end Client
end Webwire
