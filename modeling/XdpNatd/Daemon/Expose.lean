import XdpNatd.Daemon.PortAllocator
import XdpNatd.Ebpf.Program

namespace XdpNatd.Daemon

open XdpNatd.Data XdpNatd.Ebpf

structure ContainerMetadata where
  ipv4Address : UInt32
  ifindex : UInt32
  macAddress : Mac
deriving DecidableEq, Repr

/-- The containers by address. `get_containers` files each under its own. -/
structure ContainerMap where
  get : UInt32 → Option ContainerMetadata
  keyed : ∀ address metadata, get address = some metadata → metadata.ipv4Address = address

/-- One `-p tcp --dport .. -j DNAT --to-destination ..` rule of PREROUTING. -/
structure DnatRule where
  hostPort : UInt16
  containerIp : UInt32
  containerPort : UInt16
deriving DecidableEq, Repr

structure AppState where
  exposeMap : ExposeMap
  portAllocator : PortAllocator
  containerMetas : ContainerMap

/-- What the request handlers act on: their shared state and the rules that the
kernel holds. -/
structure Control where
  state : AppState
  rules : List DnatRule

inductive CommandOutcome where
  | notExecuted
  | failed
  | succeeded
deriving DecidableEq, Repr

/-- How the calls of one request out of the process end. -/
structure Calls where
  /-- Whether the kernel carries out an insertion that the map accepts. -/
  mapInsert : Bool
  /-- The text of the error of a refused insertion. -/
  mapError : String
  iptables : CommandOutcome

inductive AppError where
  | notFound (message : String)
  | conflict (message : String)
  | capacity (message : String)
  | internal (message : String)
deriving DecidableEq, Repr

structure Response where
  status : Nat
  message : String
deriving DecidableEq, Repr

def showIpv4 (address : UInt32) : String :=
  s!"{address.toNat / 16777216}.{address.toNat / 65536 % 256}.{address.toNat / 256 % 256}.{address.toNat % 256}"

structure ExposeRequest where
  containerIp : UInt32
  containerPort : UInt16
deriving DecidableEq, Repr

def addIptablesRule (outcome : CommandOutcome) (hostPort : UInt16) (containerIp : UInt32)
    (containerPort : UInt16) (rules : List DnatRule) : Except String (List DnatRule) :=
  match outcome with
  | .notExecuted => .error "failed to execute iptables command"
  | .failed => .error s!"failed to add iptables TCP rule for port {hostPort}"
  | .succeeded => .ok (rules ++ [⟨hostPort, containerIp, containerPort⟩])

/-- `iptables -D` deletes the first matching rule and fails without one. -/
def removeIptablesRule (outcome : CommandOutcome) (hostPort : UInt16) (containerIp : UInt32)
    (containerPort : UInt16) (rules : List DnatRule) : Except String (List DnatRule) :=
  let rule : DnatRule := ⟨hostPort, containerIp, containerPort⟩
  let failure := s!"failed to remove iptables TCP rule for port {hostPort}"
  match outcome with
  | .notExecuted => .error "failed to execute iptables command"
  | .failed => .error failure
  | .succeeded => if rule ∈ rules then .ok (rules.erase rule) else .error failure

/-- `expose_map.insert(port, info, BPF_NOEXIST)` as a system call. -/
def insertExposure (calls : Calls) (exposeMap : ExposeMap) (port : UInt16) (info : ContainerInfo) :
    Except String ExposeMap :=
  match exposeMap.insertNew port info with
  | .ok after => if calls.mapInsert then .ok after else .error calls.mapError
  | .error _ => .error calls.mapError

def exposePort (calls : Calls) (req : ExposeRequest) (control : Control) :
    Except AppError Response × Control :=
  let state := control.state
  match state.containerMetas.get req.containerIp with
  | none =>
      (.error (.notFound s!"Container with IP {showIpv4 req.containerIp} doesn't exist"), control)
  | some container =>
      let containerInfo : ContainerInfo := {
        containerIp := container.ipv4Address
        containerMac := container.macAddress
        containerPort := req.containerPort
        ifindex := container.ifindex }
      match state.portAllocator.allocateNext with
      | (none, _) => (.error (.capacity "No available host ports left"), control)
      | (some allocatedPort, portAllocator) =>
          match insertExposure calls state.exposeMap allocatedPort containerInfo with
          | .error e =>
              (.error (.internal
                s!"Failed to insert host port {allocatedPort} into expose_map: {e}"),
                { control with
                  state := { state with portAllocator := portAllocator.deallocate allocatedPort } })
          | .ok exposeMap =>
              match addIptablesRule calls.iptables allocatedPort containerInfo.containerIp
                  containerInfo.containerPort control.rules with
              | .error e =>
                  (.error (.internal
                    s!"Failed to expose tcp port {allocatedPort} via iptables: {e}"),
                    { control with
                      state := { state with
                        exposeMap := exposeMap.remove allocatedPort
                        portAllocator := portAllocator.deallocate allocatedPort } })
              | .ok rules =>
                  (.ok { status := 200, message :=
                    s!"exposing container port {req.containerPort} on host port {allocatedPort}" },
                    { rules, state := { state with exposeMap, portAllocator } })

def unexposePort (calls : Calls) (hostPort : UInt16) (control : Control) :
    Except AppError Response × Control :=
  let state := control.state
  match state.exposeMap.get hostPort with
  | none => (.error (.notFound s!"Host port {hostPort} is not currently exposed"), control)
  | some containerInfo =>
      match removeIptablesRule calls.iptables hostPort containerInfo.containerIp
          containerInfo.containerPort control.rules with
      | .error e => (.error (.internal s!"Failed to remove iptables rule: {e}"), control)
      | .ok rules =>
          (.ok { status := 200, message := s!"Unexposed host port {hostPort}" },
            { rules, state := { state with
                exposeMap := state.exposeMap.remove hostPort
                portAllocator := state.portAllocator.deallocate hostPort } })

end XdpNatd.Daemon
