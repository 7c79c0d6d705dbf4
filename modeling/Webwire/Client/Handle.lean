import Webwire.Wire

/-!
# The client's frame dispatch (`client/handle.go`)

`Client.handleMessage` reads the first byte of a frame, picks the case of its `switch`
whose constant is that byte, and hands the rest of the frame to the request manager
(`Fulfill`, `Fail`), to a user hook (`OnServerSignal`, `OnSessionCreated`,
`OnSessionClosed`), or to the session mirror.

The model returns the client's new state and what it did, in order, as a list of
`Client.Effect`s.  A slice out of bounds is a Go runtime panic, which is `none`:
`handleMessage` checks only that the frame is not empty, and every case slices at a fixed
offset.  The hooks can read the mirror (`clt.Session()`), so a hook call records the mirror
it would see.

A frame is a Go `[]byte`, and Go bounds its two kinds of slices differently: `message[k:]`
by the length, `message[lo:hi]` by the capacity.  So a frame is a `Slice`: its bytes, and
the spare bytes of its backing array after them, which the reader fills in no specified
way.  `extractMessageIdentifier`, in the client package but not under `src/`, reads
`message[1:9]`, the eight bytes after the tag (§4.1): it reaches into the spare bytes of a
frame shorter than 9, and panics only when the capacity is short.
-/

namespace Webwire

/-- Go's `s[lo:]`: the suffix from `lo`, or a runtime panic (`none`) past the end. -/
def sliceFrom (s : Bytes) (lo : Nat) : Option Bytes :=
  if lo ≤ s.length then some (s.drop lo) else none

theorem sliceFrom_of_le {s : Bytes} {lo : Nat} (h : lo ≤ s.length) :
    sliceFrom s lo = some (s.drop lo) :=
  if_pos h

theorem sliceFrom_of_lt {s : Bytes} {lo : Nat} (h : s.length < lo) : sliceFrom s lo = none :=
  if_neg (Nat.not_le.mpr h)

@[simp] theorem isSome_sliceFrom {s : Bytes} {lo : Nat} :
    (sliceFrom s lo).isSome ↔ lo ≤ s.length := by
  unfold sliceFrom; split <;> simp_all

/-- A Go `[]byte` as `handleMessage` receives it: `bytes`, its elements up to its length, and
`spare`, the rest of its backing array up to its capacity.  What the reader leaves in `spare`
is not specified, so what is proved of a frame holds for every `spare`. -/
structure Slice where
  bytes : Bytes
  spare : Bytes

/-- The backing array from the start of the slice to its capacity. -/
def Slice.backing (s : Slice) : Bytes := s.bytes ++ s.spare

/-- The part of `client.Client` that `handleMessage` reads and writes: the session mirror. -/
structure Client where
  session : Option Session

namespace Client

/-- Modelled from the spec: `extractMessageIdentifier` is in the client package but not under
`src/`.  It reads the request identifier, the eight bytes after the tag (§4.1), as
`message[1:9]`, which Go bounds by the capacity of `message`, not its length. -/
def extractMessageIdentifier (message : Slice) : Option MessageIdentifier :=
  if h : 9 ≤ message.backing.length then
    some ⟨(message.backing.drop 1).take 8, by
      simp only [List.length_take, List.length_drop]; omega⟩
  else none

@[simp] theorem isSome_extractMessageIdentifier {message : Slice} :
    (extractMessageIdentifier message).isSome ↔
      9 ≤ message.bytes.length + message.spare.length := by
  rw [show message.bytes.length + message.spare.length = message.backing.length from
    (List.length_append _ _).symm]
  unfold extractMessageIdentifier; split <;> simp_all

/-- The identifier is read back from a frame that starts with it, whatever lies after it. -/
theorem extractMessageIdentifier_frame (tag : UInt8) (id : MessageIdentifier) (rest spare : Bytes) :
    extractMessageIdentifier ⟨tag :: (id.bytes ++ rest), spare⟩ = some id := by
  have hlen := id.length_bytes
  have hle : 9 ≤ (Slice.backing ⟨tag :: (id.bytes ++ rest), spare⟩).length := by
    simp [Slice.backing, hlen]
  simp only [extractMessageIdentifier, dif_pos hle, Option.some.injEq]
  cases id
  simp_all [Slice.backing, List.take_append_of_le_length]

theorem extractMessageIdentifier_failure (tag : UInt8) (id : MessageIdentifier) (spare : Bytes) :
    extractMessageIdentifier ⟨tag :: id.bytes, spare⟩ = some id := by
  simpa using extractMessageIdentifier_frame tag id [] spare

/-- What `handleMessage` does besides setting the mirror. -/
inductive Effect where
  /-- `requestManager.Fulfill`. -/
  | fulfill (reqID : MessageIdentifier) (payload : Payload)
  /-- `requestManager.Fail`. -/
  | fail (reqID : MessageIdentifier) (err : Error)
  /-- `hooks.OnServerSignal`. -/
  | onServerSignal (payload : Payload)
  /-- `hooks.OnSessionCreated`, with the mirror the hook sees. -/
  | onSessionCreated (session : Session) (seen : Option Session)
  /-- `hooks.OnSessionClosed`, with the mirror the hook sees. -/
  | onSessionClosed (seen : Option Session)
  /-- `errorLog.Printf`. -/
  | errorLog
  /-- `warningLog.Printf` of a frame of an unknown type. -/
  | warningLog (tag : UInt8)

variable (T : MsgTags) (JS : JsonCodec Session) (JR : JsonCodec ReqErr)

/-- `handleSessionCreated`: decode the session, publish it, then call the hook. -/
def handleSessionCreated (clt : Client) (sessionKey : Bytes) : Client × List Effect :=
  match JS.unmarshal sessionKey with
  | none => (clt, [.errorLog])
  | some session =>
    let clt := { clt with session := some session }
    (clt, [.onSessionCreated session clt.session])

/-- `handleSessionClosed`: drop the session, then call the hook. -/
def handleSessionClosed (clt : Client) : Client × List Effect :=
  let clt := { clt with session := none }
  (clt, [.onSessionClosed clt.session])

/-- `handleFailure`: decode the `ReqErr` and fail the request with it; a body that does not
decode is logged and fails the request with the zero `ReqErr`. -/
def handleFailure (reqID : MessageIdentifier) (payload : Bytes) : List Effect :=
  match JR.unmarshal payload with
  | none => [.errorLog, .fail reqID (.reqErr ⟨"", ""⟩)]
  | some replyErr => [.fail reqID (.reqErr replyErr)]

/-- The body shared by the typed-failure handlers: fail the request with a fixed error. -/
def failWith (err : Error) (reqIdent : MessageIdentifier) : List Effect :=
  [.fail reqIdent err]

/-- `handleInternalError`. -/
def handleInternalError : MessageIdentifier → List Effect := failWith .reqInternalErr

/-- `handleReplyShutdown`. -/
def handleReplyShutdown : MessageIdentifier → List Effect := failWith .reqSrvShutdownErr

/-- `handleSessionNotFound`. -/
def handleSessionNotFound : MessageIdentifier → List Effect := failWith .sessNotFoundErr

/-- `handleMaxSessConnsReached`. -/
def handleMaxSessConnsReached : MessageIdentifier → List Effect :=
  failWith .maxSessConnsReachedErr

/-- `handleSessionsDisabled`. -/
def handleSessionsDisabled : MessageIdentifier → List Effect := failWith .sessionsDisabledErr

/-- `handleReply`. -/
def handleReply (reqID : MessageIdentifier) (payload : Payload) : List Effect :=
  [.fulfill reqID payload]

/-- The case labels of `handleMessage`'s `switch`, in source order. -/
def handledTypes : List MsgType :=
  [.replyBinary, .replyUtf8, .replyUtf16, .replyShutdown, .sessionNotFound,
    .maxSessConnsReached, .sessionsDisabled, .errorReply, .replyInternalError,
    .signalBinary, .signalUtf8, .signalUtf16, .sessionCreated, .sessionClosed]

/-- Go's `switch message[0:1][0]`: the first case whose constant is the tag byte. -/
def switchCase (tag : UInt8) : Option MsgType :=
  handledTypes.find? (T.byte · == tag)

/-- A case that reads the request identifier and the bytes from `offset` on: the replies
and the error reply. -/
def identifiedCase (message : Slice) (offset : Nat)
    (handler : MessageIdentifier → Bytes → List Effect) : Option (List Effect) := do
  let id ← extractMessageIdentifier message
  let data ← sliceFrom message.bytes offset
  pure (handler id data)

/-- A typed-failure case: the identifier, handed to the case's handler. -/
def failureCase (message : Slice) (handler : MessageIdentifier → List Effect) :
    Option (List Effect) :=
  (extractMessageIdentifier message).map handler

/-- A signal case: the payload from offset 2 on. -/
def signalCase (message : Slice) (encoding : PayloadEncoding) : Option (List Effect) :=
  (sliceFrom message.bytes 2).map fun data => [.onServerSignal ⟨encoding, data⟩]

/-- `handleMessage`. -/
def handleMessage (clt : Client) (message : Slice) : Option (Client × List Effect) :=
  match message.bytes with
  | [] => some (clt, [])
  | tag :: _ =>
    match switchCase T tag with
    | some .replyBinary =>
      (identifiedCase message 9 fun id data => handleReply id ⟨.binary, data⟩).map (clt, ·)
    | some .replyUtf8 =>
      (identifiedCase message 9 fun id data => handleReply id ⟨.utf8, data⟩).map (clt, ·)
    | some .replyUtf16 =>
      (identifiedCase message 10 fun id data => handleReply id ⟨.utf16, data⟩).map (clt, ·)
    | some .replyShutdown => (failureCase message handleReplyShutdown).map (clt, ·)
    | some .sessionNotFound => (failureCase message handleSessionNotFound).map (clt, ·)
    | some .maxSessConnsReached =>
      (failureCase message handleMaxSessConnsReached).map (clt, ·)
    | some .sessionsDisabled => (failureCase message handleSessionsDisabled).map (clt, ·)
    | some .errorReply => (identifiedCase message 9 (handleFailure JR)).map (clt, ·)
    | some .replyInternalError => (failureCase message handleInternalError).map (clt, ·)
    | some .signalBinary => (signalCase message .binary).map (clt, ·)
    | some .signalUtf8 => (signalCase message .utf8).map (clt, ·)
    | some .signalUtf16 => (signalCase message .utf16).map (clt, ·)
    | some .sessionCreated => (sliceFrom message.bytes 1).map (handleSessionCreated JS clt)
    | some .sessionClosed => some (handleSessionClosed clt)
    | _ => some (clt, [.warningLog tag])

/-! ## The switch -/

/-- A byte that is some case's constant selects that case: the constants are distinct, so
no earlier case matches it. -/
theorem switchCase_byte {t : MsgType} (ht : t ∈ handledTypes) :
    switchCase T (T.byte t) = some t := by
  have hp : (fun t' => T.byte t' == T.byte t) = (· == t) := by
    funext t'
    rw [Bool.eq_iff_iff]
    simp only [beq_iff_eq, MsgTags.byte_inj]
  rw [switchCase, hp]
  revert ht
  cases t <;> decide

/-- A tag that selects no case is none of the cases' constants. -/
theorem byte_ne_of_switchCase_eq_none {tag : UInt8} (h : switchCase T tag = none) {t : MsgType}
    (ht : t ∈ handledTypes) : T.byte t ≠ tag := by
  have := List.find?_eq_none.mp h t ht
  simpa using this

/-- Only a case label can be selected. -/
theorem mem_handledTypes_of_switchCase {tag : UInt8} {t : MsgType} (h : switchCase T tag = some t) :
    t ∈ handledTypes :=
  List.mem_of_find?_eq_some h

/-- A tag that selects a case is that case's constant. -/
theorem byte_eq_of_switchCase_eq_some {tag : UInt8} {t : MsgType} (h : switchCase T tag = some t) :
    T.byte t = tag := by
  simpa using List.find?_some h

/-! ## Which frames make the reader panic -/

/-- How far into the frame the case selected by a tag slices: a request identifier ends at
byte 9, a UTF-16 reply's payload starts at 10, a signal's at 2, a session's at 1. -/
def sliceEnd : Option MsgType → Nat
  | some .replyUtf16 => 10
  | some .replyBinary | some .replyUtf8 | some .replyShutdown | some .sessionNotFound
  | some .maxSessConnsReached | some .sessionsDisabled | some .errorReply
  | some .replyInternalError => 9
  | some .signalBinary | some .signalUtf8 | some .signalUtf16 => 2
  | _ => 1

/-- The cases that read nothing but the identifier, `message[1:9]`, whose bound is the
capacity: the typed failures.  Every other case reads `message[k:]`, bounded by the length. -/
def identifierOnly : Option MsgType → Bool
  | some .replyShutdown | some .sessionNotFound | some .maxSessConnsReached
  | some .sessionsDisabled | some .replyInternalError => true
  | _ => false

/-- The bytes the slices of a case may reach: the capacity for a typed failure, the length
otherwise. -/
def reach (t : Option MsgType) (message : Slice) : Nat :=
  if identifierOnly t then message.bytes.length + message.spare.length else message.bytes.length

theorem isSome_identifiedCase {message : Slice} {offset : Nat}
    {handler : MessageIdentifier → Bytes → List Effect} :
    (identifiedCase message offset handler).isSome ↔
      9 ≤ message.bytes.length + message.spare.length ∧ offset ≤ message.bytes.length := by
  rw [← isSome_extractMessageIdentifier, ← isSome_sliceFrom, identifiedCase]
  cases extractMessageIdentifier message <;> cases sliceFrom message.bytes offset <;> simp

/-- **`handleMessage` panics exactly on frames shorter than the slices of their case.**  A
non-empty frame is handled, without a runtime panic, iff the slices of the case its tag
selects, up to `sliceEnd`, lie within its capacity for a typed failure and within its length
otherwise. -/
theorem isSome_handleMessage_iff (clt : Client) (tag : UInt8) (rest spare : Bytes) :
    (handleMessage T JS JR clt ⟨tag :: rest, spare⟩).isSome ↔
      sliceEnd (switchCase T tag) ≤ reach (switchCase T tag) ⟨tag :: rest, spare⟩ := by
  simp only [handleMessage]
  cases switchCase T tag with
  | none => simp [sliceEnd, reach, identifierOnly]
  | some t =>
    cases t <;>
      simp [sliceEnd, reach, identifierOnly, isSome_identifiedCase, failureCase, signalCase,
        Option.isSome_map, Option.bind_eq_bind]
    -- the replies and the error reply, whose payload ends inside the length
    all_goals omega

/-- A one-byte `SignalBinary` frame: `message[2:]` runs past its end, and the reader panics,
whatever the capacity. -/
theorem handleMessage_short_signal (clt : Client) (spare : Bytes) :
    handleMessage T JS JR clt ⟨[T.byte .signalBinary], spare⟩ = none := by
  simp [handleMessage, switchCase_byte, handledTypes, signalCase, sliceFrom_of_lt]

end Client
end Webwire
