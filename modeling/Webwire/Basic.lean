import Mathlib.Logic.Function.Basic

/-!
# The data model of webwire

The values that travel between a webwire client and server, as the Go sources declare
them (`webwire.Payload`, `webwire.Session`, `webwire.ReqErr` and the error types).

A Go `string` or `[]byte` is a sequence of bytes with no encoding attached: a session key
is whatever bytes a client sent in its restore frame.  Both are `Bytes` here, so that
nothing below quietly assumes valid UTF-8.

Three things the sources use are not under `src/`, and each is a parameter:

* the byte values of the message types (the `message` package): `MsgTags`, any
  assignment of pairwise distinct bytes, which is all the wire format promises and what
  Go's `switch` with constant cases enforces at compile time;
* `encoding/json`: `JsonCodec` (in `Webwire.Json`), a `json.Marshal` that may fail and a
  `json.Unmarshal` that gives back what `Marshal` wrote, with invalid UTF-8 in a key replaced
  as Go replaces it;
* the session info a user attaches (`SessionInfo`): an attribute bag, opaque to the
  framework.
-/

namespace Webwire

/-- A Go `string` or `[]byte`. -/
abbrev Bytes := List UInt8

/-- `webwire.PayloadEncoding`. -/
inductive PayloadEncoding where
  | binary
  | utf8
  | utf16
  deriving DecidableEq, Repr

/-- `webwire.Payload`. -/
structure Payload where
  encoding : PayloadEncoding
  data : Bytes
  deriving DecidableEq, Repr

/-- The 8-byte request identifier (`[8]byte`). -/
structure MessageIdentifier where
  bytes : Bytes
  length_bytes : bytes.length = 8
  deriving DecidableEq

/-- The user's session info (`webwire.SessionInfo`), an attribute bag the framework carries
without reading it. -/
structure SessionInfo where
  fields : List (String × String)
  deriving DecidableEq, Repr

/-- `webwire.Session`; it is also the shape of `JSONEncodedSession`, which has the same four
fields.  Times are nanoseconds. -/
structure Session where
  key : Bytes
  creation : Nat
  lastLookup : Nat
  info : Option SessionInfo
  deriving DecidableEq, Repr

/-- `webwire.ReqErr`, the error a user handler replies with. -/
structure ReqErr where
  code : String
  message : String
  deriving DecidableEq, Repr

/-- The Go `error` values the modelled code produces or passes on. -/
inductive Error where
  | reqErr (e : ReqErr)
  | reqInternalErr
  | reqSrvShutdownErr
  | sessNotFoundErr
  | maxSessConnsReachedErr
  | sessionsDisabledErr
  /-- An error built by `fmt.Errorf`, or one a transport returned, by its text. -/
  | other (text : String)
  deriving DecidableEq, Repr

/-! ## Message types -/

/-- The message types of the wire format (`message.Msg...`). -/
inductive MsgType where
  | errorReply
  | replyShutdown
  | replyInternalError
  | sessionNotFound
  | maxSessConnsReached
  | sessionsDisabled
  | replyProtocolError
  | sessionCreated
  | sessionClosed
  | closeSession
  | restoreSession
  | signalBinary
  | signalUtf8
  | signalUtf16
  | requestBinary
  | requestUtf8
  | requestUtf16
  | replyBinary
  | replyUtf8
  | replyUtf16
  deriving DecidableEq, Repr

/-- The byte of each message type.  The constants live in the `message` package, which is
not under `src/`; the wire format fixes only that they are pairwise distinct. -/
structure MsgTags where
  byte : MsgType → UInt8
  byte_injective : Function.Injective byte

@[simp] theorem MsgTags.byte_inj (T : MsgTags) {a b : MsgType} :
    T.byte a = T.byte b ↔ a = b :=
  T.byte_injective.eq_iff

/-- The message types numbered in the order above: one table of distinct bytes, to run the
model on. -/
def MsgTags.ordinal : MsgTags where
  byte t := UInt8.ofNat t.toCtorIdx
  byte_injective a b h := by
    have ha : a.toCtorIdx < UInt8.size := by cases a <;> decide
    have hb : b.toCtorIdx < UInt8.size := by cases b <;> decide
    have hab := congrArg UInt8.toNat h
    rw [UInt8.toNat_ofNat_of_lt ha, UInt8.toNat_ofNat_of_lt hb] at hab
    simpa [MsgType.ofNat_toCtorIdx] using congrArg MsgType.ofNat hab

end Webwire
