import NxosExporter.Lib.Prog
import NxosExporter.Lib.Codec
import NxosExporter.Lib.Json
import NxosExporter.Lib.Transition
import NxosExporter.Lib.Simulation
import NxosExporter.Lib.UpdateTable
import NxosExporter.Lib.WorkPool
import NxosExporter.Lib.UpdatePool
import NxosExporter.Lib.OpenPool
import NxosExporter.Lib.DrainingPool
import NxosExporter.Lib.OverlappingUpdates
import NxosExporter.Kea
import NxosExporter.JsonRpc
import NxosExporter.NxosStructs
import NxosExporter.NxosEncoders
import NxosExporter.HttpClient
import NxosExporter.RouteExport
import NxosExporter.Command
import NxosExporter.CommandText
import NxosExporter.ManagementClient
import NxosExporter.ExporterService
import NxosExporter.Callouts
import NxosExporter.Switch
import NxosExporter.RequestPool
import NxosExporter.Heartbeat
import NxosExporter.ConnectionParams
import NxosExporter.ThreadPool
import NxosExporter.IoService
import NxosExporter.Exporter
import NxosExporter.HookLibrary
import NxosExporter.ThreadedExporter
import NxosExporter.Proof.Restore
import NxosExporter.Proof.RenewRebind
import NxosExporter.Proof.EventOrder
import NxosExporter.Proof.RequestAnswer
import NxosExporter.Proof.LookupReply
import NxosExporter.Proof.Expire
import NxosExporter.Proof.Reboot
import NxosExporter.Proof.Stop
import NxosExporter.Proof.PrefixRoute
import NxosExporter.Proof.LeaseEnd
import NxosExporter.Proof.TableForms
import NxosExporter.Proof.PathRows
import NxosExporter.Proof.PrefixChange
import NxosExporter.Proof.LiveLeases
import NxosExporter.Proof.RestoreFailure
import NxosExporter.Proof.RouteVerdict
import NxosExporter.Proof.OvertakenReplies
import NxosExporter.Proof.RestoreDue
import NxosExporter.Proof.SharedQuery
import NxosExporter.Proof.LeaseMirror
import NxosExporter.Proof.AmbiguousLookup
import NxosExporter.Proof.AddressExpiry
import NxosExporter.Proof.NextHopSubnet
import NxosExporter.Proof.BatchResult
import NxosExporter.Proof.NeighborMap
import NxosExporter.Proof.ParseConfig
import NxosExporter.Proof.HeartbeatInterval
import NxosExporter.Proof.RouteRoundTrip
import NxosExporter.Proof.NeighborRoundTrip
import NxosExporter.Proof.CiscoMac
import NxosExporter.Proof.PostedRequests
import NxosExporter.Proof.RouteOrigin
import NxosExporter.Proof.Recovery
import NxosExporter.Proof.OverlappingCallouts
import NxosExporter.Proof.VerdictAccount
import NxosExporter.Proof.RestoreOnDemand
import NxosExporter.Proof.ComesToRest
import NxosExporter.Proof.ReadBack
import NxosExporter.Proof.TaskOrder
import NxosExporter.Proof.ThreadRefinement
import NxosExporter.Proof.PendingCall
import NxosExporter.Proof.TaskPool
import NxosExporter.Proof.ThreadedRefinement
import NxosExporter.Proof.LibraryPhases
import NxosExporter.Proof.HttpClientOwners
