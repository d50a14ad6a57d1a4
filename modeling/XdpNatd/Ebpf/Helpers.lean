import XdpNatd.Common
import XdpNatd.Ebpf.Headers

namespace XdpNatd.Ebpf

open XdpNatd.Data

def csumAdd (csum addend : UInt32) : UInt32 :=
  let res := csum + addend
  res + (if res < addend then 1 else 0)

def csumFold (csum : UInt32) : UInt16 :=
  let csum : UInt32 := (csum &&& (0xffff : UInt32)) + (csum >>> (16 : UInt32))
  let csum : UInt32 := (csum &&& (0xffff : UInt32)) + (csum >>> (16 : UInt32))
  ~~~csum.toUInt16

def csumReplace4 (csum old new : UInt32) : UInt16 :=
  let tmp := csumAdd (~~~csum) (~~~old)
  csumFold (csumAdd tmp new)

/-- The fields of `bpf_fib_lookup` that the programs write or read. -/
structure BpfFibLookup where
  family : UInt8
  l4Protocol : UInt8
  totLen : UInt16
  ifindex : UInt32
  ipv4Src : UInt32
  ipv4Dst : UInt32
  smac : Mac
  dmac : Mac
deriving DecidableEq, Repr

def BpfFibLookup.zeroed : BpfFibLookup :=
  { family := 0, l4Protocol := 0, totLen := 0, ifindex := 0, ipv4Src := 0, ipv4Dst := 0,
    smac := Vector.replicate 6 0, dmac := Vector.replicate 6 0 }

/-- The kernel's answers to one run of a program: the coarse clock, and the
result code and filled-in structure of `bpf_fib_lookup` with
`BPF_FIB_LOOKUP_OUTPUT`. -/
structure Kernel where
  ktimeGetCoarseNs : UInt64
  fibLookup : BpfFibLookup → Int × BpfFibLookup

def afInet : UInt8 := 2

def doFibLookup (kernel : Kernel) (fib : BpfFibLookup) (proto : UInt8) (saddr daddr : UInt32)
    (totLen : UInt16) (ifindex : UInt32) : Int × BpfFibLookup :=
  kernel.fibLookup { fib with
    family := afInet
    l4Protocol := proto
    ipv4Src := saddr
    ipv4Dst := daddr
    totLen
    ifindex }

def getFibMacs (kernel : Kernel) (srcIp dstIp : UInt32) (proto : IpProto) (totLen : UInt16)
    (ingressIfindex : UInt32) : Option FibMacs :=
  let (rc, fib) :=
    doFibLookup kernel .zeroed proto.toByte srcIp dstIp totLen ingressIfindex
  if rc ≠ 0 then none else some { fibSmac := fib.smac, fibDmac := fib.dmac }

/-- The part of `apply_ip_dnat` and `apply_ip_snat` under `if *udp_check != 0`:
without a UDP checksum the port is not written either. -/
def applyUdp (nat : NATData) (udpCheck addrPtr portPtr : Nat) (data : List UInt8) : List UInt8 :=
  let natPortBe := swap16 nat.natPort
  let natAddrBe := swap32 nat.natAddr
  if loadU16 data udpCheck ≠ 0 then
    let data := storeU16 data udpCheck (csumReplace4 (loadU16 data udpCheck).toUInt32
      (loadU16 data portPtr).toUInt32 natPortBe.toUInt32)
    let data := storeU16 data portPtr natPortBe
    let data := storeU16 data udpCheck (csumReplace4 (loadU16 data udpCheck).toUInt32
      (loadU32 data addrPtr) natAddrBe)
    if loadU16 data udpCheck = 0 then storeU16 data udpCheck 0xFFFF else data
  else data

/-- The one body of `apply_ip_dnat` and `apply_ip_snat`, which differ in the
address and port that their callers point them to. -/
def applyIp (nat : NATData) (ipCheck udpCheck addrPtr portPtr : Nat) (data : List UInt8) :
    List UInt8 :=
  let natAddrBe := swap32 nat.natAddr
  let data := applyUdp nat udpCheck addrPtr portPtr data
  let data := storeU16 data ipCheck (csumReplace4 (loadU16 data ipCheck).toUInt32
    (loadU32 data addrPtr) natAddrBe)
  storeU32 data addrPtr natAddrBe

def applyIpDnat (nat : NATData) (ipCheck udpCheck dstAddrPtr dstPortPtr : Nat)
    (data : List UInt8) : List UInt8 :=
  applyIp nat ipCheck udpCheck dstAddrPtr dstPortPtr data

def applyIpSnat (nat : NATData) (ipCheck udpCheck srcAddrPtr srcPortPtr : Nat)
    (data : List UInt8) : List UInt8 :=
  applyIp nat ipCheck udpCheck srcAddrPtr srcPortPtr data

def rewriteMacs (ethSrcAddr ethDstAddr : Nat) (fib : FibMacs) (data : List UInt8) : List UInt8 :=
  storeArray (storeArray data ethSrcAddr fib.fibSmac) ethDstAddr fib.fibDmac

end XdpNatd.Ebpf
