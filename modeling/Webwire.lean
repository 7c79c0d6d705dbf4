import Webwire.Basic
import Webwire.Json
import Webwire.Wire
import Webwire.Client.Handle
import Webwire.Client.Protocol
import Webwire.Client.Reader
import Webwire.Client.Endpoint
import Webwire.SessionRegistry
import Webwire.Filepath
import Webwire.Disk
import Webwire.SessionManager
import Webwire.SessionStore
import Webwire.Server.Connection
import Webwire.Server.Restore
import Webwire.Server.CloseSession
import Webwire.Server.Invariant
import Webwire.Server.Race
import Webwire.Server.Shutdown
import Webwire.Server.Api
import Webwire.Server.Persistence
import Webwire.Agreement
