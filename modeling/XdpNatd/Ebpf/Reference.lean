import XdpNatd.Ebpf.Rewrite
import XdpNatd.Testbed

namespace XdpNatd.Ebpf

open XdpNatd.Data

structure IsNatOf (flag : Flags) (nat : NATData) (before after : List UInt8) : Prop where
  addr : swap32 (loadU32 after (addrPtr flag)) = nat.natAddr
  port : swap16 (loadU16 after (portPtr flag)) = nat.natPort
  srcMac : loadArray 6 after (EthHdr.srcAddr eth) = nat.fibMacs.fibSmac
  dstMac : loadArray 6 after (EthHdr.dstAddr eth) = nat.fibMacs.fibDmac
  length : after.length = before.length
  preserved : ∀ offset, Preserved flag offset → after[offset]? = before[offset]?

/-- The port that the maps assign to a frame with this tuple: the one stored with
its flow; for a new flow its own source port on the way out, and the exposed
container port on the way in. -/
def assignedPort (flag : Flags) (maps : Maps) (key : ConnectionTuple) : Option UInt16 :=
  match maps.udpConntrack.get key with
  | some state => some state.nat.natPort
  | none =>
      match flag with
      | .snat => some key.srcPort
      | .dnat => (maps.exposeMap.get key.dstPort).map ContainerInfo.containerPort

/-- A program can write the port that the maps assign to the frame: the frame has
a UDP checksum, or has that port already. -/
def CarriesPort (flag : Flags) (maps : Maps) (data : List UInt8) (key : ConnectionTuple) : Prop :=
  loadU16 data (UdpHdr.check udp) ≠ 0 ∨ assignedPort flag maps key = some (ownPort flag key)

instance (flag : Flags) (maps : Maps) (data : List UInt8) (key : ConnectionTuple) :
    Decidable (CarriesPort flag maps data key) :=
  inferInstanceAs (Decidable (_ ∨ _))

section

variable {flag : Flags} {kernel : Kernel} {maps : Maps} {ctx : XdpContext} {nat : NATData}
variable {data : List UInt8} {key : ConnectionTuple}

theorem natPort_eq_assignedPort (tuple : frameTuple ctx.data = some key)
    (translated : translation flag kernel maps ctx = some nat) :
    assignedPort flag maps key = some nat.natPort := by
  rcases translation_cases translated with
    ⟨hitKey, state, hits, hitTuple, found, rfl⟩ | ⟨flow, opens, opened, flowTuple, missed, rfl⟩
  · cases hitTuple.symm.trans tuple
    simp only [assignedPort, found]
  · cases flowTuple.symm.trans tuple
    cases flag with
    | snat =>
        obtain ⟨_, samePort, _⟩ := snatFlow_spec opened
        simp only [assignedPort, missed]
        exact congrArg some samePort.symm
    | dnat =>
        obtain ⟨info, exposed, _, containerPort, _⟩ := dnatFlow_spec opened
        simp only [assignedPort, missed]
        change (maps.exposeMap.get flow.dkey.dstPort).map _ = _
        rw [exposed]
        exact congrArg some containerPort.symm

theorem translated_tuple_iff_carriesPort (tuple : frameTuple ctx.data = some key)
    (translated : translation flag kernel maps ctx = some nat) :
    frameTuple (tryXdpRedirect kernel maps ctx flag).data = some (translateTuple flag nat key) ↔
      CarriesPort flag maps ctx.data key := by
  rw [translated_tuple_iff tuple translated, CarriesPort, natPort_eq_assignedPort tuple translated,
    Option.some.injEq]

theorem ownPort_frame (tuple : frameTuple data = some key) :
    ownPort flag key = swap16 (loadU16 data (portPtr flag)) := by
  rw [frameTuple_accepted (accepted_of_frameTuple tuple)] at tuple
  cases tuple
  cases flag <;> rfl

theorem isNatOf_translateFrame_iff (accepted : Accepted data) :
    IsNatOf flag nat data (translateFrame flag nat data) ↔
      swap16 (loadU16 (translateFrame flag nat data) (portPtr flag)) = nat.natPort := by
  refine ⟨fun reference => reference.port, fun port => ⟨?_, port, ?_, ?_, translateFrame_length, ?_⟩⟩
  · rw [translateFrame_addr accepted, swap32_swap32]
  · exact (translateFrame_macs accepted).1
  · exact (translateFrame_macs accepted).2
  · exact fun offset preserved => translateFrame_preserved preserved

/-- A translated frame is the reference NAT of the input exactly when the input
carries a UDP checksum, or when there is no port to rewrite. -/
theorem translated_frame_is_reference_nat_iff
    (tuple : frameTuple ctx.data = some key)
    (translated : translation flag kernel maps ctx = some nat) :
    IsNatOf flag nat ctx.data (tryXdpRedirect kernel maps ctx flag).data ↔
      loadU16 ctx.data (UdpHdr.check udp) ≠ 0 ∨
        assignedPort flag maps key = some (ownPort flag key) := by
  have accepted := accepted_of_frameTuple tuple
  rw [tryXdpRedirect_data, translated]
  dsimp only
  rw [isNatOf_translateFrame_iff accepted, translateFrame_port accepted,
    natPort_eq_assignedPort tuple translated, ownPort_frame tuple]
  by_cases checked : loadU16 ctx.data (UdpHdr.check udp) = 0
  · simp only [checked, ne_eq, not_true_eq_false, if_false, false_or, Option.some.injEq]
    exact eq_comm
  · simp [checked]

end

open Testbed in
theorem checked_datagram_is_reference_nat :
    IsNatOf .dnat ⟨nodeB, 5201, ⟨hostMac, containerMac 20⟩, nodeB⟩
      (fromNic ⟨remote, hostIp, 4000, 10000⟩ 0x1234).data
      (tryXdpRedirect (kernelAt 0) exposing.maps (fromNic ⟨remote, hostIp, 4000, 10000⟩ 0x1234)
        .dnat).data := by
  have tuple : frameTuple (fromNic ⟨remote, hostIp, 4000, 10000⟩ 0x1234).data =
      some ⟨remote, hostIp, 4000, 10000⟩ := frameTuple_fromNic _ _
  have translated : translation .dnat (kernelAt 0) exposing.maps
      (fromNic ⟨remote, hostIp, 4000, 10000⟩ 0x1234) =
        some ⟨nodeB, 5201, ⟨hostMac, containerMac 20⟩, nodeB⟩ := by decide +kernel
  exact (translated_frame_is_reference_nat_iff tuple translated).mpr (Or.inl (by decide +kernel))

open Testbed in
/-- The same datagram without a checksum keeps the host port: the container gets
it on port 10000 instead of 5201. -/
theorem unchecked_datagram_is_not_reference_nat :
    ¬ ∀ (flag : Flags) (kernel : Kernel) (maps : Maps) (ctx : XdpContext) (nat : NATData),
      translation flag kernel maps ctx = some nat →
        IsNatOf flag nat ctx.data (tryXdpRedirect kernel maps ctx flag).data := by
  intro always
  have reference := always .dnat (kernelAt 0) exposing.maps
    (fromNic ⟨remote, hostIp, 4000, 10000⟩ 0)
    ⟨nodeB, 5201, ⟨hostMac, containerMac 20⟩, nodeB⟩ (by decide +kernel)
  exact absurd reference.port (by decide +kernel)

end XdpNatd.Ebpf
