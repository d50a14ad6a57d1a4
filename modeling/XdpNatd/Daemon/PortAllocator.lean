namespace XdpNatd.Daemon

structure PortAllocator where
  ports : List UInt16
deriving DecidableEq, Repr

namespace PortAllocator

def new (lower upper : UInt16) : PortAllocator :=
  { ports := (List.range' lower.toNat (upper.toNat + 1 - lower.toNat)).map UInt16.ofNat }

def allocateNext (allocator : PortAllocator) : Option UInt16 × PortAllocator :=
  match allocator.ports with
  | [] => (none, allocator)
  | port :: ports => (some port, { ports })

def deallocate (allocator : PortAllocator) (port : UInt16) : PortAllocator :=
  { ports := allocator.ports ++ [port] }

end PortAllocator

/-- The bounds of `PORT_RANGE`, as `reserve_kernel_ports` parses them. -/
def portRange : UInt16 × UInt16 := (10000, 12000)

end XdpNatd.Daemon
