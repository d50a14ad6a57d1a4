import XdpNatd.Daemon.Expiry
import XdpNatd.Daemon.Expose
import XdpNatd.Data.Run

namespace XdpNatd

open XdpNatd.Data XdpNatd.Ebpf XdpNatd.Daemon

/-! The host as one machine: both programs, the request handlers and the expiry
task take turns on the maps that they share. An event that finds nothing to do
(a sweep step outside of a sweep) leaves the state as it is. -/

structure System where
  udpConntrack : Conntrack
  pnicArray : PnicArray
  redirectMap : DevMapHash
  control : Control
  expiry : Expiry
  /-- The latest reading of the clock so far. -/
  clock : UInt64

def System.exposeMap (system : System) : ExposeMap := system.control.state.exposeMap

def System.containers (system : System) : ContainerMap := system.control.state.containerMetas

def System.maps (system : System) : Maps :=
  { udpConntrack := system.udpConntrack
    exposeMap := system.exposeMap
    pnicArray := system.pnicArray
    redirectMap := system.redirectMap }

inductive Event where
  /-- A frame arrives at a container's veth (`snat`) or at the NIC (`dnat`). -/
  | frame (flag : Flags) (ctx : XdpContext) (kernel : Kernel)
  /-- A request is one step, as the write lock keeps every other request out.  Frames
  are not kept out: one that arrives between the writes of a request to `EXPOSE_MAP`
  and its end, a rollback included, is outside of this model. -/
  | exposePort (req : ExposeRequest) (calls : Calls)
  | unexposePort (hostPort : UInt16) (calls : Calls)
  /-- `EXPOSE_MAP` is replaced by something else than a request. -/
  | writeExposeMap (exposeMap : ExposeMap)
  | writePnic (info : NICInfo)
  | sweepAtOnce (now : UInt64)
  | beginSweep
  | examine (key : ConnectionTuple) (now : UInt64)
  | endScan
  | removeNext

def Event.reading : Event → Option UInt64
  | .frame _ _ kernel => some kernel.ktimeGetCoarseNs
  | .sweepAtOnce now => some now
  | .examine _ now => some now
  | _ => none

/-- The program at a container's veth (`snat`) or at the NIC (`dnat`). -/
def System.verdict (system : System) (flag : Flags) (ctx : XdpContext) (kernel : Kernel) : Verdict :=
  match flag with
  | .snat => xdpRedirectContainers kernel system.maps ctx
  | .dnat => xdpRedirectHost kernel system.maps ctx

def System.act (system : System) : Event → System
  | .frame flag ctx kernel =>
      { system with udpConntrack := (system.verdict flag ctx kernel).udpConntrack }
  | .exposePort req calls =>
      { system with control := (Daemon.exposePort calls req system.control).2 }
  | .unexposePort hostPort calls =>
      { system with control := (Daemon.unexposePort calls hostPort system.control).2 }
  | .writeExposeMap exposeMap =>
      { system with control := { system.control with
          state := { system.control.state with exposeMap } } }
  | .writePnic info => { system with pnicArray := #v[info] }
  | .sweepAtOnce now => { system with udpConntrack := Daemon.sweepAtOnce system.udpConntrack now }
  | .beginSweep => { system with expiry := Daemon.beginSweep system.udpConntrack system.expiry }
  | .examine key now =>
      { system with expiry := Daemon.examine system.udpConntrack key now system.expiry }
  | .endScan => { system with expiry := Daemon.endScan system.expiry }
  | .removeNext =>
      let (udpConntrack, expiry) := Daemon.removeNext system.udpConntrack system.expiry
      { system with udpConntrack, expiry }

def laterReading (clock : UInt64) : Option UInt64 → UInt64
  | none => clock
  | some reading => if clock ≤ reading then reading else clock

def System.step (system : System) (event : Event) : System :=
  { system.act event with clock := laterReading system.clock event.reading }

/-- The state in which `main` hands the maps over: no flow, no exposure and no
rule, and every port of the range free. -/
def System.boot (containers : ContainerMap) (redirectMap : DevMapHash) (nic : NICInfo)
    (lower upper : UInt16) : System :=
  { udpConntrack := .empty
    pnicArray := #v[nic]
    redirectMap
    control :=
      { state :=
          { exposeMap := .empty
            portAllocator := .new lower upper
            containerMetas := containers }
        rules := [] }
    expiry := .idle
    clock := 0 }

end XdpNatd
