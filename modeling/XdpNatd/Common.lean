namespace XdpNatd

-- Clocks count nanoseconds.
def timeoutNew : UInt64 := 30_000_000_000
def timeoutEst : UInt64 := 180_000_000_000

abbrev Mac := Vector UInt8 6

structure NICInfo where
  nicIp : UInt32
  nicIfindex : UInt32
deriving DecidableEq, Repr

structure ContainerInfo where
  containerIp : UInt32
  containerMac : Mac
  containerPort : UInt16
  ifindex : UInt32
deriving DecidableEq, Repr

structure FibMacs where
  fibSmac : Mac
  fibDmac : Mac
deriving DecidableEq, Repr

/-- Addresses and ports are numbers in host order. -/
structure ConnectionTuple where
  srcAddr : UInt32
  dstAddr : UInt32
  srcPort : UInt16
  dstPort : UInt16
deriving DecidableEq, Repr

structure NATData where
  natAddr : UInt32
  natPort : UInt16
  fibMacs : FibMacs
  devmapKey : UInt32
deriving DecidableEq, Repr

inductive Direction where
  | original
  | reply
deriving DecidableEq, Repr

structure FlowState where
  nat : NATData
  direction : Direction
  seenReply : Bool
  timeout : UInt64
deriving DecidableEq, Repr

def FlowState.new (nat : NATData) (direction : Direction) (timeout : UInt64) : FlowState :=
  { nat, direction, seenReply := false, timeout }

end XdpNatd
