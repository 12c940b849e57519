import LocalAgentMtp.Slot
import LocalAgentMtp.Interface
import LocalAgentMtp.Accessors
import LocalAgentMtp.Handlers
import LocalAgentMtp.Population
import LocalAgentMtp.Startup
import LocalAgentMtp.Cascade
import LocalAgentMtp.System
import LocalAgentMtp.Calls
import LocalAgentMtp.Strings
import LocalAgentMtp.Refinement
import LocalAgentMtp.Reconnect
import LocalAgentMtp.Coherence
import LocalAgentMtp.Writes
import LocalAgentMtp.Servers
import LocalAgentMtp.Store
import LocalAgentMtp.StoreServers
import LocalAgentMtp.Subscriptions
import LocalAgentMtp.Restart
import LocalAgentMtp.Commutation
import LocalAgentMtp.Boot
