import Holochain.CoreTypes.Entry
import Holochain.CoreTypes.Dna
import Holochain.CoreTypes.Storage
import Holochain.Core.Context
import Holochain.Core.Agent
import Holochain.Core.Dht
import Holochain.Core.Network.Reducers
import Holochain.Core.State
import Holochain.Core.History
import Holochain.Core.Headers
import Holochain.Core.Snapshot
import Holochain.Core.Workflows.HoldEntry
import Holochain.Core.Network.Handler
import Holochain.Core.Network.Tracking
import Holochain.Core.Nucleus.Ribosome.Runtime
import Holochain.Core.Nucleus.Ribosome.Api.RemoveEntry
import Holochain.ConductorApi.StaticFileServer
