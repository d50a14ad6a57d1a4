import XdpNatd.Conntrack.Collection
import XdpNatd.Conntrack.Creation
import XdpNatd.Conntrack.Eager
import XdpNatd.Conntrack.Exposure
import XdpNatd.Conntrack.Flows
import XdpNatd.Conntrack.Halves
import XdpNatd.Conntrack.Interleavings
import XdpNatd.Conntrack.Isolation
import XdpNatd.Conntrack.Lifetime
import XdpNatd.Conntrack.Parallel
import XdpNatd.Conntrack.Progress
import XdpNatd.Conntrack.Replies
import XdpNatd.Ebpf.Checksums
import XdpNatd.Ebpf.Commutes
import XdpNatd.Ebpf.Composition
import XdpNatd.Ebpf.Passes
import XdpNatd.Ebpf.Reference
import XdpNatd.System.Bootstrap
import XdpNatd.System.Endpoints
import XdpNatd.System.Iptables
import XdpNatd.System.Network
import XdpNatd.System.PortReuse
import XdpNatd.System.Ports
import XdpNatd.System.Startup
