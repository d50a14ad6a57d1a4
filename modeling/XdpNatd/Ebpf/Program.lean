import XdpNatd.Data.BoundedMap
import XdpNatd.Ebpf.Helpers

namespace XdpNatd.Ebpf

open XdpNatd.Data

/-! The XDP programs (`xdp-natd-ebpf/src/main.rs`). No path of the source builds
an `Err`, so a program's result is its action alone, next to the frame and the
connection table as it leaves them. -/

inductive Flags where
  | snat
  | dnat
deriving DecidableEq, Repr

inductive XdpAction where
  | aborted
  | drop
  | pass
  | tx
  | redirect
deriving DecidableEq, Repr

def ipMf : UInt16 := 0x2000
def ipOffset : UInt16 := 0x1FFF
def thresholdNs : UInt64 := 1_000_000_000

abbrev Conntrack := BoundedMap ConnectionTuple FlowState 65536
abbrev ExposeMap := BoundedMap UInt16 ContainerInfo 256
/-- `DevMapHash`: from a container address, or 0 for the NIC, to an interface. -/
abbrev DevMapHash := BoundedMap UInt32 UInt32 256
/-- A BPF array always holds all of its elements. -/
abbrev PnicArray := Vector NICInfo 1

structure Maps where
  udpConntrack : Conntrack
  exposeMap : ExposeMap
  pnicArray : PnicArray
  redirectMap : DevMapHash

/-- `bpf_redirect_map`: a missing key answers with the action in the flags. -/
def DevMapHash.redirect (devmap : DevMapHash) (key : UInt32) (flags : XdpAction) :
    Except XdpAction XdpAction :=
  match devmap.get key with
  | some _ => .ok .redirect
  | none => .error flags

structure XdpContext where
  data : List UInt8
  ingressIfindex : UInt32

/-- The key that a program recomputes for the other direction of a flow, from
the tuple of the frame and the flow's NAT data: `dkey` in `process_udp_snat`,
`skey` in `process_udp_dnat`. -/
def reverseKey (flag : Flags) (key : ConnectionTuple) (nat : NATData) : ConnectionTuple :=
  match flag with
  | .snat => ⟨key.dstAddr, nat.natAddr, key.dstPort, nat.natPort⟩
  | .dnat => ⟨nat.natAddr, key.srcAddr, nat.natPort, key.srcPort⟩

/-- The `match state.direction` of both programs: the state that it writes, if
it writes one. Exactly then the source sets `update_reverse`. -/
def refresh (time : UInt64) (state : FlowState) : Option FlowState :=
  match state.direction with
  | .original =>
      let expectedTimeout := time + (if state.seenReply then timeoutEst else timeoutNew)
      if expectedTimeout > state.timeout ∧ expectedTimeout - state.timeout > thresholdNs then
        some { state with timeout := expectedTimeout }
      else none
  | .reply =>
      let expectedTimeout := time + timeoutEst
      if !state.seenReply ∨
          (expectedTimeout > state.timeout ∧ expectedTimeout - state.timeout > thresholdNs) then
        some { state with seenReply := true, timeout := expectedTimeout }
      else none

def copyToReverse (state rev : FlowState) : FlowState :=
  { rev with seenReply := state.seenReply, timeout := state.timeout }

/-- The table after a hit under `key`; `reverse` is the key that the program
recomputes for the other direction. -/
def touch (conntrack : Conntrack) (time : UInt64) (key reverse : ConnectionTuple)
    (state : FlowState) : Conntrack :=
  match refresh time state with
  | none => conntrack
  | some written =>
      (conntrack.modify key fun _ => written).modify reverse (copyToReverse written)

/-- The locals `skey`, `snat`, `dkey` and `dnat` of a flow about to be recorded.
Each key is the one that the fast path recomputes from the other entry. -/
structure NewFlow where
  skey : ConnectionTuple
  snat : NATData
  dkey : ConnectionTuple
  dnat : NATData
  dkey_eq : dkey = reverseKey .snat skey snat
  skey_eq : skey = reverseKey .dnat dkey dnat

/-- The two insertions of a new flow, whose results the source throws away. -/
def record (conntrack : Conntrack) (time : UInt64) (origKey : ConnectionTuple)
    (origNat : NATData) (replyKey : ConnectionTuple) (replyNat : NATData) : Conntrack :=
  let connOrig := FlowState.new origNat .original (time + timeoutNew)
  let connReply := FlowState.new replyNat .reply (time + timeoutNew)
  (conntrack.tryInsert origKey connOrig).tryInsert replyKey connReply

structure Processed where
  nat : Option NATData
  data : List UInt8
  udpConntrack : Conntrack

def udpSrcPort (data : List UInt8) (udp : Nat) : UInt16 := swap16 (loadU16 data udp)
def udpDstPort (data : List UInt8) (udp : Nat) : UInt16 := swap16 (loadU16 data (udp + 2))

/-- `process_udp_snat` between its lookup and its insertions. -/
def snatFlow (kernel : Kernel) (maps : Maps) (ctx : XdpContext) (srcIp dstIp : UInt32)
    (eth ipv4 udp : Nat) : Option NewFlow := do
  let srcPort := udpSrcPort ctx.data udp
  let dstPort := udpDstPort ctx.data udp
  let totLen := swap16 (loadU16 ctx.data (Ipv4Hdr.totLen ipv4))
  let containerMac := loadArray 6 ctx.data (EthHdr.srcAddr eth)
  let pnic ← maps.pnicArray[0]?
  let hostPort := srcPort
  let fibMacs ← getFibMacs kernel (swap32 pnic.nicIp) (swap32 dstIp) .udp totLen pnic.nicIfindex
  let dnatMacs := { fibSmac := fibMacs.fibSmac, fibDmac := containerMac }
  some {
    skey := ⟨srcIp, dstIp, srcPort, dstPort⟩
    snat := ⟨pnic.nicIp, hostPort, fibMacs, 0⟩
    dkey := ⟨dstIp, pnic.nicIp, dstPort, hostPort⟩
    dnat := ⟨srcIp, srcPort, dnatMacs, srcIp⟩
    dkey_eq := rfl
    skey_eq := rfl }

def processUdpSnat (kernel : Kernel) (maps : Maps) (ctx : XdpContext) (srcIp dstIp : UInt32)
    (eth ipv4 udp : Nat) : Processed :=
  let srcPort := udpSrcPort ctx.data udp
  let dstPort := udpDstPort ctx.data udp
  let skey : ConnectionTuple := ⟨srcIp, dstIp, srcPort, dstPort⟩
  let apply (snat : NATData) : List UInt8 :=
    applyIpSnat snat (Ipv4Hdr.check ipv4) (UdpHdr.check udp) (Ipv4Hdr.srcAddr ipv4)
      (UdpHdr.src udp) ctx.data
  match maps.udpConntrack.get skey with
  | some state =>
      let snat := state.nat
      let dkey : ConnectionTuple := ⟨dstIp, snat.natAddr, dstPort, snat.natPort⟩
      { nat := some snat
        data := apply snat
        udpConntrack := touch maps.udpConntrack kernel.ktimeGetCoarseNs skey dkey state }
  | none =>
      match snatFlow kernel maps ctx srcIp dstIp eth ipv4 udp with
      | none => { nat := none, data := ctx.data, udpConntrack := maps.udpConntrack }
      | some flow =>
          { nat := some flow.snat
            data := apply flow.snat
            udpConntrack := record maps.udpConntrack kernel.ktimeGetCoarseNs
              flow.skey flow.snat flow.dkey flow.dnat }

/-- `process_udp_dnat` between its lookup and its insertions. -/
def dnatFlow (kernel : Kernel) (maps : Maps) (ctx : XdpContext) (srcIp dstIp : UInt32)
    (eth ipv4 udp : Nat) : Option NewFlow := do
  let srcPort := udpSrcPort ctx.data udp
  let dstPort := udpDstPort ctx.data udp
  let info ← maps.exposeMap.get dstPort
  let ifindex := ctx.ingressIfindex
  let totLen := swap16 (loadU16 ctx.data (Ipv4Hdr.totLen ipv4))
  let fibMacs ← getFibMacs kernel (swap32 dstIp) (swap32 srcIp) .udp totLen ifindex
  let hostMac := loadArray 6 ctx.data (EthHdr.dstAddr eth)
  let dnatMacs := { fibSmac := hostMac, fibDmac := info.containerMac }
  some {
    dkey := ⟨srcIp, dstIp, srcPort, dstPort⟩
    dnat := ⟨info.containerIp, info.containerPort, dnatMacs, info.containerIp⟩
    snat := ⟨dstIp, dstPort, fibMacs, 0⟩
    skey := ⟨info.containerIp, srcIp, info.containerPort, srcPort⟩
    dkey_eq := rfl
    skey_eq := rfl }

def processUdpDnat (kernel : Kernel) (maps : Maps) (ctx : XdpContext) (srcIp dstIp : UInt32)
    (eth ipv4 udp : Nat) : Processed :=
  let srcPort := udpSrcPort ctx.data udp
  let dstPort := udpDstPort ctx.data udp
  let key : ConnectionTuple := ⟨srcIp, dstIp, srcPort, dstPort⟩
  let apply (dnat : NATData) : List UInt8 :=
    applyIpDnat dnat (Ipv4Hdr.check ipv4) (UdpHdr.check udp) (Ipv4Hdr.dstAddr ipv4)
      (UdpHdr.dst udp) ctx.data
  match maps.udpConntrack.get key with
  | some state =>
      let dnat := state.nat
      let skey : ConnectionTuple := ⟨dnat.natAddr, srcIp, dnat.natPort, srcPort⟩
      { nat := some dnat
        data := apply dnat
        udpConntrack := touch maps.udpConntrack kernel.ktimeGetCoarseNs key skey state }
  | none =>
      match dnatFlow kernel maps ctx srcIp dstIp eth ipv4 udp with
      | none => { nat := none, data := ctx.data, udpConntrack := maps.udpConntrack }
      | some flow =>
          { nat := some flow.dnat
            data := apply flow.dnat
            udpConntrack := record maps.udpConntrack kernel.ktimeGetCoarseNs
              flow.dkey flow.dnat flow.skey flow.snat }

def processUdp (flag : Flags) (kernel : Kernel) (maps : Maps) (ctx : XdpContext)
    (srcIp dstIp : UInt32) (eth ipv4 udp : Nat) : Processed :=
  match flag with
  | .snat => processUdpSnat kernel maps ctx srcIp dstIp eth ipv4 udp
  | .dnat => processUdpDnat kernel maps ctx srcIp dstIp eth ipv4 udp

/-- A pointer is an offset into the frame, and the frame begins at 0. -/
def eth : Nat := 0
def ipv4 : Nat := EthHdr.len
def udp : Nat := EthHdr.len + Ipv4Hdr.len

/-- The early exits of `try_xdp_redirect`: source and destination address of a
frame that reaches the UDP processing. -/
def parseUdp (data : List UInt8) : Option (UInt32 × UInt32) :=
  if EthHdr.len + Ipv4Hdr.len > data.length then none
  else if loadU16 data (EthHdr.etherType eth) ≠ EtherType.ipv4 then none
  else
    let proto := IpProto.ofByte (byteAt data (Ipv4Hdr.proto ipv4))
    if ¬ (proto = .udp ∨ proto = .tcp ∨ proto = .icmp) then none
    else if byteAt data (Ipv4Hdr.vihl ipv4) &&& 0x0F ≠ 5 then none
    else if swap16 (loadU16 data (Ipv4Hdr.frags ipv4)) &&& (ipMf ||| ipOffset) ≠ 0 then none
    else
      let dstIp := swap32 (loadU32 data (Ipv4Hdr.dstAddr ipv4))
      let srcIp := swap32 (loadU32 data (Ipv4Hdr.srcAddr ipv4))
      if proto ≠ .udp then none
      else if EthHdr.len + Ipv4Hdr.len + UdpHdr.len > data.length then none
      else some (srcIp, dstIp)

structure Verdict where
  action : XdpAction
  /-- The key handed to `bpf_redirect_map`, when the program gets that far. -/
  devmapKey : Option UInt32
  data : List UInt8
  udpConntrack : Conntrack

def tryXdpRedirect (kernel : Kernel) (maps : Maps) (ctx : XdpContext) (flag : Flags) : Verdict :=
  match parseUdp ctx.data with
  | none =>
      { action := .pass, devmapKey := none, data := ctx.data, udpConntrack := maps.udpConntrack }
  | some (srcIp, dstIp) =>
      let processed := processUdp flag kernel maps ctx srcIp dstIp eth ipv4 udp
      match processed.nat with
      | none =>
          { action := .pass, devmapKey := none, data := processed.data
            udpConntrack := processed.udpConntrack }
      | some nat =>
          let action := match maps.redirectMap.redirect nat.devmapKey .pass with
            | .ok code => code
            | .error code => code
          { action
            devmapKey := some nat.devmapKey
            data := rewriteMacs (EthHdr.srcAddr eth) (EthHdr.dstAddr eth) nat.fibMacs processed.data
            udpConntrack := processed.udpConntrack }

def xdpRedirectContainers (kernel : Kernel) (maps : Maps) (ctx : XdpContext) : Verdict :=
  tryXdpRedirect kernel maps ctx .snat

def xdpRedirectHost (kernel : Kernel) (maps : Maps) (ctx : XdpContext) : Verdict :=
  tryXdpRedirect kernel maps ctx .dnat

end XdpNatd.Ebpf
