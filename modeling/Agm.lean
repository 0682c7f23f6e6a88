import Agm.Lib.Prog
import Agm.Lib.Counting
import Agm.Lib.Run
import Agm.Lib.Registry
import Agm.Lib.Laps
import Agm.Lib.FirstWins
import Agm.Lib.Codec
import Agm.Types
import Agm.Formats
import Agm.Metadata
import Agm.Device
import Agm.Graph
import Agm.Session
import Agm.SessionApi
import Agm.Core
import Agm.Steps
import Agm.Refine
import Agm.RefineSession
import Agm.RefineLoops
import Agm.RefineOpen
import Agm.RefineApi
import Agm.RefineCalls
import Agm.Keeps
import Agm.OpenCount
import Agm.StartCount
import Agm.Locality
import Agm.Agreement
import Agm.GraphOwner
import Agm.AifPool
import Agm.PcmOrder
import Agm.Events
import Agm.PcmPlugin
import Agm.PcmAvail
import Agm.MixerControls
import Agm.CompressPlugin
import Agm.CompressCapture
import Agm.CompressWaits
import Agm.SwCodec
import Agm.SwCallbacks
import Agm.Handles
import Agm.SwDeath
import Agm.Queries
import Agm.HwQueries
import Agm.HwService
import Agm.DbusCallbacks
import Agm.Configuration
import Agm.Lib.Block
import Agm.MediaFormat
import Agm.EventRegistration
import Agm.Edges
import Agm.Lib.Moves
import Agm.Moves
import Agm.Params
import Agm.Delivery
import Agm.HotConnect
import Agm.MetadataUpdate
import Agm.RemoveDup
import Agm.MetadataMerge
import Agm.SessionMerge
import Agm.CalUpdate
import Agm.MetadataCodec
import Agm.GraphOpen
import Agm.GraphHistory
import Agm.GraphLedger
import Agm.Spr
import Agm.DeviceLocks
import Agm.SndParser
import Agm.DeviceInit
import Agm.EndpointName
import Agm.SndCards
import Agm.CardLocks
import Agm.CardCounts
import Agm.CardCache
import Agm.Lib.Latch
import Agm.MixerTables
import Agm.MixerPuts
import Agm.Lib.Mailbox
import Agm.MixerGetParam
import Agm.PcmBoundary
import Agm.DbusConfig
import Agm.DbusSessions
import Agm.Lib.BlockArray
import Agm.HwConfig
import Agm.ParserBounds
import Agm.BufferParse
import Agm.CardXml
import Agm.MixerEvents
import Agm.EventHistory
import Agm.CardNames
import Agm.CardQueries
import Agm.Lib.Ledger
import Agm.Lib.Fields
import Agm.CompressCodec
import Agm.PluginWorld
import Agm.PcmCalls
import Agm.ComprCalls
import Agm.PluginFleet
import Agm.CompressedFormat
import Agm.EndpointConfig
