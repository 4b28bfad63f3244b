import MuxrCore.Lib.Runs
import MuxrCore.TokenExpiry.History
import MuxrCore.Grpc.Route
import MuxrCore.Relay.Attach
import MuxrCore.Relay.Arrival
import MuxrCore.Grpc.AgentOps
import MuxrCore.Grpc.Watch.State
import MuxrCore.Grpc.Watch.Mirror
import MuxrCore.Grpc.Watch.Closed
import MuxrCore.Grpc.Watch.Converge
import MuxrCore.Herdr.Registry
import MuxrCore.Herdr.Translate
import MuxrCore.Herdr.Swap
import MuxrCore.Herdr.Sender
import MuxrCore.Herdr.Wire
import MuxrCore.Herdr.Subscribe.Gap
import MuxrCore.Herdr.Subscribe.Bootstrap
import MuxrCore.Herdr.Subscribe.Resync
import MuxrCore.Herdr.Subscribe.Watchdog
import MuxrCore.Herdr.Subscribe.Closure
import MuxrCore.Herdr.Subscribe.Mirror
import MuxrCore.Multiplexer.Layout
import MuxrCore.Multiplexer.Zellij
import MuxrCore.Relay.View
import MuxrCore.Relay.Inbound
import MuxrCore.Relay.Reader
import MuxrCore.Relay.Render
import MuxrCore.Relay.Gate
import MuxrCore.Grpc.PaneOps
import MuxrCore.Herdr.Control
import MuxrCore.Grpc.SpaceOps
import MuxrCore.Grpc.Layout
import MuxrCore.Grpc.Focus
import MuxrCore.TokenExpiry.Concurrent
import MuxrCore.PushRelay.Cap
import MuxrCore.PushRelay.Prune
import MuxrCore.Notify.Sender
import MuxrCore.Muxrd.Stoppable
import MuxrCore.Tls.Calls
import MuxrCore.Pairing.Pinned
import MuxrCore.Muxrctl.Restart
import MuxrCore.Muxrctl.Second
import MuxrCore.Muxrctl.Confirm
import MuxrCore.Muxrctl.Walk
import MuxrCore.Muxrd.RateLimit
import MuxrCore.PushRelay.RateLimit
import MuxrCore.PushRelay.ClientIp
import MuxrCore.Herdr.Subscribe.NextLine
import MuxrCore.Herdr.Sightings
import MuxrCore.Herdr.Overwrite
import MuxrCore.Herdr.Resume
import MuxrCore.Herdr.AgentInventory
import MuxrCore.Grpc.Repoint
import MuxrCore.Notify.Debounce
import MuxrCore.Notify.Serial
import MuxrCore.TokenExpiry.Duration
import MuxrCore.Muxrctl.Regenerate
import MuxrCore.Muxrctl.Minted
import MuxrCore.Muxrctl.Layers
import MuxrCore.Muxrctl.Bind
import MuxrCore.Muxrctl.Input
import MuxrCore.Grpc.Panics
import MuxrCore.Grpc.Listing
import MuxrCore.Relay.Lifecycle
import MuxrCore.Herdr.Actions
import MuxrCore.Multiplexer.Ephemeral
import MuxrCore.Grpc.Once
import MuxrCore.Grpc.Stack
