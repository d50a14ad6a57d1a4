import XdpNatd.Ebpf.Effects
import XdpNatd.System.Steps

namespace XdpNatd.Testbed

open XdpNatd.Data XdpNatd.Ebpf XdpNatd.Daemon

/-- A frame with nothing in it but the fields that `parseUdp` insists on. -/
def blankFrame : List UInt8 :=
  [0, 0, 0, 0, 0, 0, 0, 0, 0, 0, 0, 0, 0x08, 0x00,
    0x45, 0, 0, 28, 0, 0, 0, 0, 64, 17, 0, 0, 0, 0, 0, 0, 0, 0, 0, 0,
    0, 0, 0, 0, 0, 8, 0, 0]

/-- An empty datagram with the given addresses and UDP checksum field. -/
def udpFrame (srcMac dstMac : Mac) (tuple : ConnectionTuple) (check : UInt16) : List UInt8 :=
  let data := storeArray blankFrame (EthHdr.dstAddr eth) dstMac
  let data := storeArray data (EthHdr.srcAddr eth) srcMac
  let data := storeU32 data (Ipv4Hdr.srcAddr ipv4) (swap32 tuple.srcAddr)
  let data := storeU32 data (Ipv4Hdr.dstAddr ipv4) (swap32 tuple.dstAddr)
  let data := storeU16 data (UdpHdr.src udp) (swap16 tuple.srcPort)
  let data := storeU16 data (UdpHdr.dst udp) (swap16 tuple.dstPort)
  storeU16 data (UdpHdr.check udp) check

section Fields

variable (srcMac dstMac : Mac) (tuple : ConnectionTuple) (check : UInt16)

@[simp] theorem udpFrame_length : (udpFrame srcMac dstMac tuple check).length = 42 := by
  simp [udpFrame, blankFrame]

private theorem udpFrame_fixed {offset : Nat} (lower : 12 ≤ offset) (upper : offset < 26) :
    byteAt (udpFrame srcMac dstMac tuple check) offset = byteAt blankFrame offset := by
  simp only [udpFrame, storeU16, storeU32, storeArray, EthHdr.srcAddr, EthHdr.dstAddr,
    Ipv4Hdr.srcAddr, Ipv4Hdr.dstAddr, UdpHdr.src, UdpHdr.dst, UdpHdr.check, eth, ipv4, udp,
    EthHdr.len, Ipv4Hdr.len]
  repeat rw [byteAt_storeBytes_outside (by simp [bytes16, bytes32]; omega)]

private theorem udpFrame_srcAddr :
    loadU32 (udpFrame srcMac dstMac tuple check) (Ipv4Hdr.srcAddr ipv4) = swap32 tuple.srcAddr := by
  unfold udpFrame
  simp only [storeU16]
  repeat rw [loadU32_storeBytes_outside (Or.inl (by decide))]
  rw [storeU32, loadU32_storeBytes_outside (Or.inl (by decide)), loadU32_storeU32]
  simp [blankFrame, Ipv4Hdr.srcAddr, ipv4, EthHdr.len]

private theorem udpFrame_dstAddr :
    loadU32 (udpFrame srcMac dstMac tuple check) (Ipv4Hdr.dstAddr ipv4) = swap32 tuple.dstAddr := by
  unfold udpFrame
  simp only [storeU16]
  repeat rw [loadU32_storeBytes_outside (Or.inl (by decide))]
  rw [loadU32_storeU32]
  simp [blankFrame, Ipv4Hdr.dstAddr, ipv4, EthHdr.len]

private theorem udpFrame_srcPort :
    udpSrcPort (udpFrame srcMac dstMac tuple check) udp = tuple.srcPort := by
  have stored : loadU16 (udpFrame srcMac dstMac tuple check) udp = swap16 tuple.srcPort := by
    unfold udpFrame
    simp only
    rw [storeU16, loadU16_storeBytes_outside (Or.inl (by decide)), storeU16,
      loadU16_storeBytes_outside (Or.inl (by decide))]
    exact loadU16_storeU16 (by simp [blankFrame, UdpHdr.src, udp, EthHdr.len, Ipv4Hdr.len])
  rw [udpSrcPort, stored, swap16_swap16]

private theorem udpFrame_dstPort :
    udpDstPort (udpFrame srcMac dstMac tuple check) udp = tuple.dstPort := by
  have stored : loadU16 (udpFrame srcMac dstMac tuple check) (udp + 2) = swap16 tuple.dstPort := by
    unfold udpFrame
    simp only
    rw [storeU16, loadU16_storeBytes_outside (Or.inl (by decide))]
    exact loadU16_storeU16 (by simp [blankFrame, UdpHdr.dst, udp, EthHdr.len, Ipv4Hdr.len])
  rw [udpDstPort, stored, swap16_swap16]

theorem parseUdp_udpFrame :
    parseUdp (udpFrame srcMac dstMac tuple check) = some (tuple.srcAddr, tuple.dstAddr) := by
  have etherType : loadU16 (udpFrame srcMac dstMac tuple check) (EthHdr.etherType eth) =
      EtherType.ipv4 := by
    rw [loadU16, udpFrame_fixed _ _ _ _ (by decide) (by decide),
      udpFrame_fixed _ _ _ _ (by decide) (by decide)]
    rfl
  have vihl : byteAt (udpFrame srcMac dstMac tuple check) (Ipv4Hdr.vihl ipv4) = 0x45 :=
    udpFrame_fixed _ _ _ _ (by decide) (by decide)
  have proto : byteAt (udpFrame srcMac dstMac tuple check) (Ipv4Hdr.proto ipv4) = 17 :=
    udpFrame_fixed _ _ _ _ (by decide) (by decide)
  have frags : loadU16 (udpFrame srcMac dstMac tuple check) (Ipv4Hdr.frags ipv4) = 0 := by
    rw [loadU16, udpFrame_fixed _ _ _ _ (by decide) (by decide),
      udpFrame_fixed _ _ _ _ (by decide) (by decide)]
    rfl
  simp only [parseUdp, udpFrame_length, etherType, vihl, proto, frags, udpFrame_srcAddr,
    udpFrame_dstAddr, swap32_swap32]
  rfl

theorem frameTuple_udpFrame : frameTuple (udpFrame srcMac dstMac tuple check) = some tuple := by
  simp only [frameTuple, parseUdp_udpFrame, Option.map_some, udpFrame_srcPort, udpFrame_dstPort]

end Fields

def containerMac (last : UInt8) : Mac := #v[0x02, 0x42, 0xac, 0x14, 0x00, last]
def hostMac : Mac := #v[0x52, 0x54, 0x00, 0x00, 0x00, 0x01]
def gatewayMac : Mac := #v[0x52, 0x54, 0x00, 0x00, 0x00, 0x02]

def nodeA : UInt32 := 0xAC14000A
def nodeB : UInt32 := 0xAC140014
def nodeC : UInt32 := 0xAC14001E
def hostIp : UInt32 := 0xC0A8060A
def remote : UInt32 := 0x08080808

def containers : ContainerMap where
  get address :=
    if address = nodeA then some ⟨nodeA, 11, containerMac 10⟩
    else if address = nodeB then some ⟨nodeB, 12, containerMac 20⟩
    else if address = nodeC then some ⟨nodeC, 13, containerMac 30⟩
    else none
  keyed address metadata found := by
    split at found
    · cases found; symm; assumption
    · split at found
      · cases found; symm; assumption
      · split at found <;> cases found
        symm; assumption

def redirectMap : DevMapHash :=
  (((BoundedMap.empty.tryInsert nodeA 11).tryInsert nodeB 12).tryInsert nodeC 13).tryInsert 0 2

/-- The host of `docker-testbed`, before the first request. -/
def host : System :=
  .boot containers redirectMap ⟨hostIp, 2⟩ portRange.1 portRange.2

def succeeding : Calls := { mapInsert := true, mapError := "", iptables := .succeeded }

/-- The host after container port 5201 of node B was exposed, on port 10000. -/
def exposing : System := host.step (.exposePort ⟨nodeB, 5201⟩ succeeding)

theorem exposing_exposesContainers : exposing.ExposesContainers :=
  boot_exposesContainers.step trivial

def kernelAt (time : UInt64) : Kernel :=
  { ktimeGetCoarseNs := time
    fibLookup := fun fib => (0, { fib with smac := hostMac, dmac := gatewayMac }) }

def fromContainer (last : UInt8) (tuple : ConnectionTuple) (check : UInt16) : XdpContext :=
  { data := udpFrame (containerMac last) hostMac tuple check, ingressIfindex := 11 }

def fromNic (tuple : ConnectionTuple) (check : UInt16) : XdpContext :=
  { data := udpFrame gatewayMac hostMac tuple check, ingressIfindex := 2 }

@[simp] theorem frameTuple_fromContainer (last : UInt8) (tuple : ConnectionTuple) (check : UInt16) :
    frameTuple (fromContainer last tuple check).data = some tuple := by
  rw [fromContainer, frameTuple_udpFrame]

@[simp] theorem frameTuple_fromNic (tuple : ConnectionTuple) (check : UInt16) :
    frameTuple (fromNic tuple check).data = some tuple := by
  rw [fromNic, frameTuple_udpFrame]

/-- A peer sends to the exposed port, and node A asks the peer's name server. -/
def twoFlows : List Event :=
  [.frame .dnat (fromNic ⟨remote, hostIp, 7000, 10000⟩ 0x1234) (kernelAt 0),
    .frame .snat (fromContainer 10 ⟨nodeA, remote, 4000, 53⟩ 0x1234) (kernelAt 1)]

/-- Node A asks, is answered, and asks again. -/
def askedTwice (again : UInt64) : List Event :=
  [.frame .snat (fromContainer 10 ⟨nodeA, remote, 4000, 53⟩ 0x1234) (kernelAt 0),
    .frame .dnat (fromNic ⟨remote, hostIp, 53, 4000⟩ 0x1234) (kernelAt 1),
    .frame .snat (fromContainer 10 ⟨nodeA, remote, 4000, 53⟩ 0x1234) (kernelAt again)]

end XdpNatd.Testbed
