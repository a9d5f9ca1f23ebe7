import SbcEngine.Machine
import SbcEngine.Events
import SbcEngine.SupportedCodecs
import SbcEngine.OfferAnswerSm
import SbcEngine.SetupSm
import SbcEngine.Runs
import SbcEngine.OutboundQueue
import SbcEngine.ControlPlaneClient
import SbcEngine.AckWatch
import SbcEngine.DeliveryOrder
import SbcEngine.BindingStore
import SbcEngine.CallSession
import SbcEngine.EarlyAnswer
import SbcEngine.Registrar
import SbcEngine.DialogActions
import SbcEngine.LegCodecs
import SbcEngine.ReinviteResponse
import SbcEngine.RemoteAddress
import SbcEngine.Renegotiation
import SbcEngine.CallLookup
import SbcEngine.CallReports
import SbcEngine.CallScans
import SbcEngine.HoldTimer
import SbcEngine.Replacement
import SbcEngine.SetupDisconnects
import SbcEngine.Teardown
import SbcEngine.Transfer
import SbcEngine.BindingSweep
import SbcEngine.CallsTable
import SbcEngine.EngineChannel
import SbcEngine.MirrorExpiry
import SbcEngine.RemoteLegs
import SbcEngine.RequestRouting
import SbcEngine.RouteTable
import SbcEngine.BindingRefinement
import SbcEngine.CaseRuns
import SbcEngine.OfferOutcomes
import SbcEngine.OfferedFormats
import SbcEngine.ProgressRelay
import SbcEngine.RegisterLifetimes
import SbcEngine.RelayLoop
import SbcEngine.SessionDirections
import SbcEngine.ReferTarget
import SbcEngine.FlushWaiter
import SbcEngine.CleanupJob
import SbcEngine.ReplacesTags
import SbcEngine.CalleeAor
import SbcEngine.CallerIdentity
import SbcEngine.RelayedEvents
import SbcEngine.MaxForwards
import SbcEngine.EventDelivery
import SbcEngine.RtpWire
import SbcEngine.Provisioning
import SbcEngine.CallHistory
import SbcEngine.Recovery
