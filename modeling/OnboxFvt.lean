import OnboxFvt.Worker.AddressView
import OnboxFvt.Worker.Ipv6
import OnboxFvt.ConfigGuard.Dependencies
import OnboxFvt.ConfigGuard.Exceptions
import OnboxFvt.Cli.Idempotence
import OnboxFvt.Cli.Answers
import OnboxFvt.Cli.Coherence
import OnboxFvt.Gcu.Patch
import OnboxFvt.Ports.WorkerPbm
import OnboxFvt.Loopback.Isolation
import OnboxFvt.Loopback.Guard
import OnboxFvt.Loopback.Tracking
import OnboxFvt.Topo.PvidConfirm
import OnboxFvt.Topo.HairpinTeardown
import OnboxFvt.VrfHairpin.Rollback
import OnboxFvt.Bgp.Convergence
import OnboxFvt.Bgp.RoundTrip
import OnboxFvt.Bgp.Framing
import OnboxFvt.Bgp.Safety
import OnboxFvt.Bgp.Keepalive
import OnboxFvt.Dlb.Injection
import OnboxFvt.Dlb.Identifiers
import OnboxFvt.Dlb.Reaping
import OnboxFvt.Sentinel.Analysis
import OnboxFvt.Responders.Collector
import OnboxFvt.Dhcp.Replies
import OnboxFvt.Ports.Breakout
import OnboxFvt.Cli.AclTable
import OnboxFvt.Acl.HitCount
import OnboxFvt.Acl.Rules
import OnboxFvt.Db.LineForm
import OnboxFvt.Dlb.Watched
import OnboxFvt.Dlb.Decoding
import OnboxFvt.Cli.Boxes
import OnboxFvt.Profile.Merge
import OnboxFvt.BufAudit.Schedulers
import OnboxFvt.Sentinel.Summary
import OnboxFvt.Ports.PortGroup
import OnboxFvt.Counters.Accumulate
import OnboxFvt.Fdb.Deletion
import OnboxFvt.Hygiene.Unbridged
import OnboxFvt.Lossless.BindQueue
import OnboxFvt.Loopback.Disabling
import OnboxFvt.Faults.Redirect
import OnboxFvt.Library.Markup
import OnboxFvt.Report.Conversion
import OnboxFvt.Report.Nesting
import OnboxFvt.Worker.Lanes
import OnboxFvt.Worker.Return
import OnboxFvt.Bgp.Commands
import OnboxFvt.Bgp.Lockstep
import OnboxFvt.Bgp.ServedRib
import OnboxFvt.BufAudit.Entries
import OnboxFvt.Library.Quoting
import OnboxFvt.Remote.Dutssh
import OnboxFvt.Report.Pipeline
import OnboxFvt.Servers.Handler
import OnboxFvt.Servers.Lifecycle
import OnboxFvt.Servers.Mocks
import OnboxFvt.Hygiene.QosSweep
import OnboxFvt.Ports.ChipMember
import OnboxFvt.Hygiene.PortGuard
import OnboxFvt.Lossless.Builds
import OnboxFvt.Gcu.Baseline
