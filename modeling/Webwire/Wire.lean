import Webwire.Json

/-!
# The frames a server sends

The encoder of the wire format lives in the `message` package, which is not under `src/`,
so the layouts below follow §4.1 of the protocol description:

* a reply is `[kind][reqId:8][payload]`, with one alignment byte after the identifier when
  the payload is UTF-16;
* a typed failure is `[kind][reqId:8]`, an error reply `[kind][reqId:8][json ReqErr]`;
* a signal is `[kind][byte][payload]`, its payload at offset 2 whatever its encoding;
* a session creation is `[kind][json Session]`, a session closure `[kind]`.

The layouts leave two bytes unspecified, the alignment byte of a UTF-16 reply and the byte
before a signal's payload; both are the argument `pad`, so that what is proved about the
frames holds whatever the encoder puts there.  A UTF-16 payload of odd length has no frame:
the codec rejects it.

`failMsg` turns a Go `error` into the failure frame the client maps back to it; it too is
in the missing server code and follows §4.1 and the error table of §7.
-/

namespace Webwire

/-- A message the server sends to a client. -/
inductive ServerMessage where
  | reply (reqID : MessageIdentifier) (payload : Payload)
  | replyShutdown (reqID : MessageIdentifier)
  | sessionNotFound (reqID : MessageIdentifier)
  | maxSessConnsReached (reqID : MessageIdentifier)
  | sessionsDisabled (reqID : MessageIdentifier)
  | replyInternalError (reqID : MessageIdentifier)
  | errorReply (reqID : MessageIdentifier) (err : ReqErr)
  | signal (payload : Payload)
  | sessionCreated (session : Session)
  | sessionClosed

namespace ServerMessage

/-- The message type of a reply of each encoding. -/
def replyType : PayloadEncoding → MsgType
  | .binary => .replyBinary
  | .utf8 => .replyUtf8
  | .utf16 => .replyUtf16

/-- The message type of a signal of each encoding. -/
def signalType : PayloadEncoding → MsgType
  | .binary => .signalBinary
  | .utf8 => .signalUtf8
  | .utf16 => .signalUtf16

/-- Whether the codec accepts a payload: UTF-16 data must have even length. -/
def Admissible (p : Payload) : Prop :=
  p.encoding = .utf16 → p.data.length % 2 = 0

instance (p : Payload) : Decidable (Admissible p) :=
  inferInstanceAs (Decidable (_ → _))

variable (T : MsgTags) (JS : JsonCodec Session) (JR : JsonCodec ReqErr)

/-- Modelled from the spec: the encoder of the `message` package is not under `src/`;
the layouts are those of §4.1. -/
def frame (pad : UInt8) : ServerMessage → Option Bytes
  | .reply id p =>
    if Admissible p then
      match p.encoding with
      | .utf16 => some (T.byte .replyUtf16 :: id.bytes ++ pad :: p.data)
      | e => some (T.byte (replyType e) :: id.bytes ++ p.data)
    else none
  | .replyShutdown id => some (T.byte .replyShutdown :: id.bytes)
  | .sessionNotFound id => some (T.byte .sessionNotFound :: id.bytes)
  | .maxSessConnsReached id => some (T.byte .maxSessConnsReached :: id.bytes)
  | .sessionsDisabled id => some (T.byte .sessionsDisabled :: id.bytes)
  | .replyInternalError id => some (T.byte .replyInternalError :: id.bytes)
  | .errorReply id e => (JR.marshal e).map fun b => T.byte .errorReply :: id.bytes ++ b
  | .signal p => if Admissible p then some (T.byte (signalType p.encoding) :: pad :: p.data) else none
  | .sessionCreated s => (JS.marshal s).map (T.byte .sessionCreated :: ·)
  | .sessionClosed => some [T.byte .sessionClosed]

end ServerMessage

/-- Modelled from the spec: `server.failMsg` is not under `src/`.  The reply for a failed
request: a `nil` error is an internal error, and each error type has its frame (§4.1, §7). -/
def failMsg (reqID : MessageIdentifier) : Option Error → ServerMessage
  | some (.reqErr e) => .errorReply reqID e
  | some .reqSrvShutdownErr => .replyShutdown reqID
  | some .sessNotFoundErr => .sessionNotFound reqID
  | some .maxSessConnsReachedErr => .maxSessConnsReached reqID
  | some .sessionsDisabledErr => .sessionsDisabled reqID
  | _ => .replyInternalError reqID

/-- Modelled from the spec: `server.fulfillMsg` is not under `src/`; it replies with a
payload. -/
def fulfillMsg (reqID : MessageIdentifier) (encoding : PayloadEncoding) (data : Bytes) :
    ServerMessage :=
  .reply reqID ⟨encoding, data⟩

end Webwire
