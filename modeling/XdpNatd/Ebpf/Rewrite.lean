import XdpNatd.Ebpf.Effects

namespace XdpNatd.Ebpf

open XdpNatd.Data

section Apply

variable {nat : NATData} {ipCheck udpCheck addrPtr portPtr offset : Nat} {data : List UInt8}

/-- The four words that `applyIp` may write, in the order of the headers. -/
structure Layout (ipCheck udpCheck addrPtr portPtr length : Nat) : Prop where
  address : ipCheck + 2 ≤ addrPtr
  port : addrPtr + 4 ≤ portPtr
  check : portPtr + 2 ≤ udpCheck
  room : udpCheck + 2 ≤ length

def Untouched (ipCheck udpCheck addrPtr portPtr offset : Nat) : Prop :=
  (offset < ipCheck ∨ ipCheck + 2 ≤ offset) ∧ (offset < addrPtr ∨ addrPtr + 4 ≤ offset) ∧
    (offset < portPtr ∨ portPtr + 2 ≤ offset) ∧ (offset < udpCheck ∨ udpCheck + 2 ≤ offset)

instance : Decidable (Untouched ipCheck udpCheck addrPtr portPtr offset) :=
  inferInstanceAs (Decidable ((_ ∨ _) ∧ (_ ∨ _) ∧ (_ ∨ _) ∧ (_ ∨ _)))

/-- The UDP checksum after the update; a computed 0 is sent as 0xFFFF. -/
def updatedUdpCheck (nat : NATData) (check port : UInt16) (addr : UInt32) : UInt16 :=
  let first := csumReplace4 check.toUInt32 port.toUInt32 (swap16 nat.natPort).toUInt32
  let second := csumReplace4 first.toUInt32 addr (swap32 nat.natAddr)
  if second = 0 then 0xFFFF else second

@[simp] theorem applyUdp_length : (applyUdp nat udpCheck addrPtr portPtr data).length = data.length := by
  unfold applyUdp
  split
  · dsimp only
    split <;> simp
  · rfl

@[simp] theorem applyIp_length :
    (applyIp nat ipCheck udpCheck addrPtr portPtr data).length = data.length := by
  simp [applyIp]

private theorem applyUdp_outside
    (port : offset < portPtr ∨ portPtr + 2 ≤ offset)
    (check : offset < udpCheck ∨ udpCheck + 2 ≤ offset) :
    (applyUdp nat udpCheck addrPtr portPtr data)[offset]? = data[offset]? := by
  have word (other : Nat) (value : UInt16) (buffer : List UInt8)
      (outside : offset < other ∨ other + 2 ≤ offset) :
      (storeU16 buffer other value)[offset]? = buffer[offset]? :=
    storeBytes_getElem?_outside outside
  unfold applyUdp
  split
  · dsimp only
    split
    · rw [word _ _ _ check, word _ _ _ check, word _ _ _ port, word _ _ _ check]
    · rw [word _ _ _ check, word _ _ _ port, word _ _ _ check]
  · rfl

theorem applyIp_untouched (untouched : Untouched ipCheck udpCheck addrPtr portPtr offset) :
    (applyIp nat ipCheck udpCheck addrPtr portPtr data)[offset]? = data[offset]? := by
  obtain ⟨ip, address, port, check⟩ := untouched
  simp only [applyIp, storeU32, storeU16]
  rw [storeBytes_getElem?_outside address, storeBytes_getElem?_outside ip, applyUdp_outside port check]

private theorem applyUdp_loadU16_outside {other : Nat}
    (port : other + 2 ≤ portPtr ∨ portPtr + 2 ≤ other)
    (check : other + 2 ≤ udpCheck ∨ udpCheck + 2 ≤ other) :
    loadU16 (applyUdp nat udpCheck addrPtr portPtr data) other = loadU16 data other :=
  loadU16_congr fun lane inside => applyUdp_outside (by omega) (by omega)

private theorem applyUdp_loadU32_outside {other : Nat}
    (port : other + 4 ≤ portPtr ∨ portPtr + 2 ≤ other)
    (check : other + 4 ≤ udpCheck ∨ udpCheck + 2 ≤ other) :
    loadU32 (applyUdp nat udpCheck addrPtr portPtr data) other = loadU32 data other :=
  loadU32_congr fun lane inside => applyUdp_outside (by omega) (by omega)

theorem applyIp_addr (layout : Layout ipCheck udpCheck addrPtr portPtr data.length) :
    loadU32 (applyIp nat ipCheck udpCheck addrPtr portPtr data) addrPtr = swap32 nat.natAddr := by
  obtain ⟨address, port, check, room⟩ := layout
  exact loadU32_storeU32 (by simp only [storeU16_length, applyUdp_length]; omega)

theorem applyIp_ipCheck (layout : Layout ipCheck udpCheck addrPtr portPtr data.length) :
    loadU16 (applyIp nat ipCheck udpCheck addrPtr portPtr data) ipCheck =
      csumReplace4 (loadU16 data ipCheck).toUInt32 (loadU32 data addrPtr) (swap32 nat.natAddr) := by
  obtain ⟨address, port, check, room⟩ := layout
  simp only [applyIp, storeU32]
  rw [loadU16_storeBytes_outside (Or.inl address),
    loadU16_storeU16 (by simp only [applyUdp_length]; omega),
    applyUdp_loadU16_outside (by omega) (by omega), applyUdp_loadU32_outside (by omega) (by omega)]

private theorem applyIp_loadU16_udp {other : Nat} (address : addrPtr + 4 ≤ other)
    (ip : ipCheck + 2 ≤ addrPtr) :
    loadU16 (applyIp nat ipCheck udpCheck addrPtr portPtr data) other =
      loadU16 (applyUdp nat udpCheck addrPtr portPtr data) other := by
  simp only [applyIp, storeU32]
  rw [loadU16_storeBytes_outside (Or.inr (by simpa [bytes32] using address)), storeU16,
    loadU16_storeBytes_outside (Or.inr (by simp [bytes16]; omega))]

theorem applyIp_port (layout : Layout ipCheck udpCheck addrPtr portPtr data.length) :
    loadU16 (applyIp nat ipCheck udpCheck addrPtr portPtr data) portPtr =
      if loadU16 data udpCheck ≠ 0 then swap16 nat.natPort else loadU16 data portPtr := by
  obtain ⟨address, port, check, room⟩ := layout
  rw [applyIp_loadU16_udp port address]
  unfold applyUdp
  split
  · dsimp only
    have written (buffer : List UInt8) (value : UInt16) :
        loadU16 (storeU16 buffer udpCheck value) portPtr = loadU16 buffer portPtr :=
      loadU16_storeBytes_outside (Or.inl check)
    split
    · rw [written, written]
      exact loadU16_storeU16 (by simp only [storeU16_length]; omega)
    · rw [written]
      exact loadU16_storeU16 (by simp only [storeU16_length]; omega)
  · rfl

theorem applyIp_udpCheck (layout : Layout ipCheck udpCheck addrPtr portPtr data.length) :
    loadU16 (applyIp nat ipCheck udpCheck addrPtr portPtr data) udpCheck =
      if loadU16 data udpCheck ≠ 0 then
        updatedUdpCheck nat (loadU16 data udpCheck) (loadU16 data portPtr) (loadU32 data addrPtr)
      else 0 := by
  obtain ⟨address, port, check, room⟩ := layout
  rw [applyIp_loadU16_udp (by omega) address]
  have stored (buffer : List UInt8) (value : UInt16) (size : buffer.length = data.length) :
      loadU16 (storeU16 buffer udpCheck value) udpCheck = value := loadU16_storeU16 (by omega)
  have beyond (buffer : List UInt8) (value : UInt16) :
      loadU16 (storeU16 buffer portPtr value) udpCheck = loadU16 buffer udpCheck :=
    loadU16_storeBytes_outside (Or.inr check)
  have below (buffer : List UInt8) (other : Nat) (value : UInt16) (outside : addrPtr + 4 ≤ other) :
      loadU32 (storeU16 buffer other value) addrPtr = loadU32 buffer addrPtr :=
    loadU32_storeBytes_outside (Or.inl outside)
  unfold applyUdp
  split
  · dsimp only
    rw [stored _ _ (by simp), beyond, stored _ _ rfl, below _ _ _ port, below _ _ _ (by omega)]
    unfold updatedUdpCheck
    dsimp only
    split
    · exact stored _ _ (by simp)
    · exact stored _ _ (by simp)
  · next absent => simpa using absent

end Apply

section Parse

variable {data after : List UInt8} {key : ConnectionTuple}

/-- What the early exits of `try_xdp_redirect` let through. -/
structure Accepted (data : List UInt8) : Prop where
  room : EthHdr.len + Ipv4Hdr.len + UdpHdr.len ≤ data.length
  etherType : loadU16 data (EthHdr.etherType eth) = EtherType.ipv4
  proto : IpProto.ofByte (byteAt data (Ipv4Hdr.proto ipv4)) = .udp
  vihl : byteAt data (Ipv4Hdr.vihl ipv4) &&& 0x0F = 5
  frags : swap16 (loadU16 data (Ipv4Hdr.frags ipv4)) &&& (ipMf ||| ipOffset) = 0

theorem parseUdp_eq_some (addresses : UInt32 × UInt32) :
    parseUdp data = some addresses ↔ Accepted data ∧
      addresses = (swap32 (loadU32 data (Ipv4Hdr.srcAddr ipv4)),
        swap32 (loadU32 data (Ipv4Hdr.dstAddr ipv4))) := by
  constructor
  · intro parsed
    unfold parseUdp at parsed
    dsimp only at parsed
    split at parsed
    · cases parsed
    · split at parsed
      · cases parsed
      · next etherType =>
          split at parsed
          · cases parsed
          · split at parsed
            · cases parsed
            · next vihl =>
                split at parsed
                · cases parsed
                · next frags =>
                    split at parsed
                    · cases parsed
                    · next proto =>
                        split at parsed
                        · cases parsed
                        · next room =>
                            exact ⟨⟨Nat.le_of_not_lt room, not_not.mp etherType, not_not.mp proto,
                              not_not.mp vihl, not_not.mp frags⟩, (Option.some.inj parsed).symm⟩
  · rintro ⟨⟨room, etherType, proto, vihl, frags⟩, rfl⟩
    have first : ¬ EthHdr.len + Ipv4Hdr.len > data.length := by
      simp only [EthHdr.len, Ipv4Hdr.len, UdpHdr.len] at *
      omega
    simp [parseUdp, first, etherType, proto, vihl, frags, Nat.not_lt.mpr room]

theorem accepted_of_frameTuple (tuple : frameTuple data = some key) : Accepted data := by
  obtain ⟨addresses, parsed, _⟩ := Option.map_eq_some_iff.mp tuple
  exact ((parseUdp_eq_some addresses).mp parsed).1

theorem frameTuple_accepted (accepted : Accepted data) :
    frameTuple data = some ⟨swap32 (loadU32 data (Ipv4Hdr.srcAddr ipv4)),
      swap32 (loadU32 data (Ipv4Hdr.dstAddr ipv4)), udpSrcPort data udp, udpDstPort data udp⟩ := by
  rw [frameTuple, (parseUdp_eq_some _).mpr ⟨accepted, rfl⟩]
  rfl

theorem Accepted.congr (accepted : Accepted data) (size : after.length = data.length)
    (same : ∀ offset, 12 ≤ offset → offset < 24 → after[offset]? = data[offset]?) :
    Accepted after := by
  have byte (offset : Nat) (lower : 12 ≤ offset) (upper : offset < 24) :
      byteAt after offset = byteAt data offset := byteAt_congr (same offset lower upper)
  refine ⟨size ▸ accepted.room, ?_, ?_, ?_, ?_⟩
  · rw [loadU16, byte _ (by decide) (by decide), byte _ (by decide) (by decide)]
    exact accepted.etherType
  · rw [byte _ (by decide) (by decide)]
    exact accepted.proto
  · rw [byte _ (by decide) (by decide)]
    exact accepted.vihl
  · rw [loadU16, byte _ (by decide) (by decide), byte _ (by decide) (by decide)]
    exact accepted.frags

end Parse

section Output

variable {flag : Flags} {nat : NATData} {data : List UInt8} {key : ConnectionTuple}
variable {kernel : Kernel} {maps : Maps} {ctx : XdpContext} {offset : Nat}

def addrPtr : Flags → Nat
  | .snat => Ipv4Hdr.srcAddr ipv4
  | .dnat => Ipv4Hdr.dstAddr ipv4

def portPtr : Flags → Nat
  | .snat => UdpHdr.src udp
  | .dnat => UdpHdr.dst udp

def translateFrame (flag : Flags) (nat : NATData) (data : List UInt8) : List UInt8 :=
  rewriteMacs (EthHdr.srcAddr eth) (EthHdr.dstAddr eth) nat.fibMacs
    (applyIp nat (Ipv4Hdr.check ipv4) (UdpHdr.check udp) (addrPtr flag) (portPtr flag) data)

def ownPort (flag : Flags) (key : ConnectionTuple) : UInt16 :=
  match flag with
  | .snat => key.srcPort
  | .dnat => key.dstPort

/-- The tuple of a frame whose own endpoint is replaced by that of the NAT data. -/
def translateTuple (flag : Flags) (nat : NATData) (key : ConnectionTuple) : ConnectionTuple :=
  match flag with
  | .snat => { key with srcAddr := nat.natAddr, srcPort := nat.natPort }
  | .dnat => { key with dstAddr := nat.natAddr, dstPort := nat.natPort }

theorem processUdp_data (srcIp dstIp : UInt32) :
    (processUdp flag kernel maps ctx srcIp dstIp eth ipv4 udp).data =
      match (processUdp flag kernel maps ctx srcIp dstIp eth ipv4 udp).nat with
      | none => ctx.data
      | some nat => applyIp nat (Ipv4Hdr.check ipv4) (UdpHdr.check udp) (addrPtr flag)
          (portPtr flag) ctx.data := by
  cases flag with
  | snat =>
      simp only [processUdp, processUdpSnat]
      split
      · rfl
      · split <;> rfl
  | dnat =>
      simp only [processUdp, processUdpDnat]
      split
      · rfl
      · split <;> rfl

theorem tryXdpRedirect_data :
    (tryXdpRedirect kernel maps ctx flag).data =
      match translation flag kernel maps ctx with
      | none => ctx.data
      | some nat => translateFrame flag nat ctx.data := by
  cases parsed : parseUdp ctx.data with
  | none => simp [tryXdpRedirect, translation, parsed]
  | some addresses =>
      obtain ⟨srcIp, dstIp⟩ := addresses
      have written : (processUdp flag kernel maps ctx srcIp dstIp eth ipv4 udp).data = _ :=
        processUdp_data srcIp dstIp
      simp only [tryXdpRedirect, translation, parsed, Option.bind_some]
      cases found : (processUdp flag kernel maps ctx srcIp dstIp eth ipv4 udp).nat with
      | none =>
          rw [found] at written
          exact written
      | some nat =>
          rw [found] at written
          simp only [written, translateFrame]

theorem tryXdpRedirect_devmapKey :
    (tryXdpRedirect kernel maps ctx flag).devmapKey =
      (translation flag kernel maps ctx).map NATData.devmapKey := by
  cases parsed : parseUdp ctx.data with
  | none => simp [tryXdpRedirect, translation, parsed]
  | some addresses =>
      obtain ⟨srcIp, dstIp⟩ := addresses
      simp only [tryXdpRedirect, translation, parsed, Option.bind_some]
      cases (processUdp flag kernel maps ctx srcIp dstIp eth ipv4 udp).nat <;> rfl

theorem tryXdpRedirect_action :
    (tryXdpRedirect kernel maps ctx flag).action =
      match translation flag kernel maps ctx with
      | none => .pass
      | some nat => if (maps.redirectMap.get nat.devmapKey).isSome then .redirect else .pass := by
  cases parsed : parseUdp ctx.data with
  | none => simp [tryXdpRedirect, translation, parsed]
  | some addresses =>
      obtain ⟨srcIp, dstIp⟩ := addresses
      simp only [tryXdpRedirect, translation, parsed, Option.bind_some]
      cases (processUdp flag kernel maps ctx srcIp dstIp eth ipv4 udp).nat with
      | none => rfl
      | some nat =>
          cases target : maps.redirectMap.get nat.devmapKey <;>
            simp [DevMapHash.redirect, target]

theorem layout_of_room (room : EthHdr.len + Ipv4Hdr.len + UdpHdr.len ≤ data.length) :
    Layout (Ipv4Hdr.check ipv4) (UdpHdr.check udp) (addrPtr flag) (portPtr flag) data.length := by
  cases flag <;> exact ⟨by decide, by decide, by decide, room⟩

@[simp] theorem translateFrame_length : (translateFrame flag nat data).length = data.length := by
  simp [translateFrame, rewriteMacs]

private theorem translateFrame_beyond (beyond : 12 ≤ offset) :
    (translateFrame flag nat data)[offset]? =
      (applyIp nat (Ipv4Hdr.check ipv4) (UdpHdr.check udp) (addrPtr flag) (portPtr flag) data)[offset]? := by
  simp only [translateFrame, rewriteMacs, storeArray]
  rw [storeBytes_getElem?_outside (Or.inr (by simpa [EthHdr.dstAddr, eth] using by omega)),
    storeBytes_getElem?_outside (Or.inr (by simpa [EthHdr.srcAddr, eth] using by omega))]

private theorem translateFrame_loadU16 (beyond : 12 ≤ offset) :
    loadU16 (translateFrame flag nat data) offset =
      loadU16 (applyIp nat (Ipv4Hdr.check ipv4) (UdpHdr.check udp) (addrPtr flag) (portPtr flag) data)
        offset :=
  loadU16_congr fun _ _ => translateFrame_beyond (Nat.le_add_right_of_le beyond)

private theorem translateFrame_loadU32 (beyond : 12 ≤ offset) :
    loadU32 (translateFrame flag nat data) offset =
      loadU32 (applyIp nat (Ipv4Hdr.check ipv4) (UdpHdr.check udp) (addrPtr flag) (portPtr flag) data)
        offset :=
  loadU32_congr fun _ _ => translateFrame_beyond (Nat.le_add_right_of_le beyond)

theorem translateFrame_addr (accepted : Accepted data) :
    loadU32 (translateFrame flag nat data) (addrPtr flag) = swap32 nat.natAddr := by
  rw [translateFrame_loadU32 (by cases flag <;> decide)]
  exact applyIp_addr (layout_of_room accepted.room)

theorem translateFrame_port (accepted : Accepted data) :
    loadU16 (translateFrame flag nat data) (portPtr flag) =
      if loadU16 data (UdpHdr.check udp) ≠ 0 then swap16 nat.natPort
      else loadU16 data (portPtr flag) := by
  rw [translateFrame_loadU16 (by cases flag <;> decide)]
  exact applyIp_port (layout_of_room accepted.room)

theorem translateFrame_ipCheck (accepted : Accepted data) :
    loadU16 (translateFrame flag nat data) (Ipv4Hdr.check ipv4) =
      csumReplace4 (loadU16 data (Ipv4Hdr.check ipv4)).toUInt32 (loadU32 data (addrPtr flag))
        (swap32 nat.natAddr) := by
  rw [translateFrame_loadU16 (by decide)]
  exact applyIp_ipCheck (layout_of_room accepted.room)

theorem translateFrame_udpCheck (accepted : Accepted data) :
    loadU16 (translateFrame flag nat data) (UdpHdr.check udp) =
      if loadU16 data (UdpHdr.check udp) ≠ 0 then
        updatedUdpCheck nat (loadU16 data (UdpHdr.check udp)) (loadU16 data (portPtr flag))
          (loadU32 data (addrPtr flag))
      else 0 := by
  rw [translateFrame_loadU16 (by decide)]
  exact applyIp_udpCheck (layout_of_room accepted.room)

theorem translateFrame_macs (accepted : Accepted data) :
    loadArray 6 (translateFrame flag nat data) (EthHdr.srcAddr eth) = nat.fibMacs.fibSmac ∧
      loadArray 6 (translateFrame flag nat data) (EthHdr.dstAddr eth) = nat.fibMacs.fibDmac := by
  have room := accepted.room
  simp only [EthHdr.len, Ipv4Hdr.len, UdpHdr.len] at room
  constructor
  · simp only [translateFrame, rewriteMacs]
    rw [storeArray, loadArray_storeBytes_outside (Or.inr (by simp [EthHdr.srcAddr, EthHdr.dstAddr]))]
    exact loadArray_storeArray (by simp only [applyIp_length, EthHdr.srcAddr, eth]; omega)
  · exact loadArray_storeArray (by simp only [storeArray_length, applyIp_length, EthHdr.dstAddr, eth]; omega)

/-- An offset outside of the MAC addresses, the rewritten address and port and
the two checksums. -/
def Preserved (flag : Flags) (offset : Nat) : Prop :=
  12 ≤ offset ∧
    Untouched (Ipv4Hdr.check ipv4) (UdpHdr.check udp) (addrPtr flag) (portPtr flag) offset

instance : Decidable (Preserved flag offset) :=
  inferInstanceAs (Decidable (12 ≤ offset ∧ Untouched _ _ _ _ offset))

theorem translateFrame_preserved (preserved : Preserved flag offset) :
    (translateFrame flag nat data)[offset]? = data[offset]? := by
  rw [translateFrame_beyond preserved.1, applyIp_untouched preserved.2]

private theorem translateFrame_loadU16_other (preserved : ∀ lane < 2, Preserved flag (offset + lane)) :
    loadU16 (translateFrame flag nat data) offset = loadU16 data offset :=
  loadU16_congr fun lane inside => translateFrame_preserved (preserved lane inside)

private theorem translateFrame_loadU32_other (preserved : ∀ lane < 4, Preserved flag (offset + lane)) :
    loadU32 (translateFrame flag nat data) offset = loadU32 data offset :=
  loadU32_congr fun lane inside => translateFrame_preserved (preserved lane inside)

/-- The tuple of a translated frame: the address is the one of the NAT data; the
port too, unless the frame came without a UDP checksum. -/
theorem frameTuple_translateFrame (tuple : frameTuple data = some key) :
    frameTuple (translateFrame flag nat data) =
      let checked := loadU16 data (UdpHdr.check udp) ≠ 0
      some (match flag with
        | .snat => { key with
            srcAddr := nat.natAddr, srcPort := if checked then nat.natPort else key.srcPort }
        | .dnat => { key with
            dstAddr := nat.natAddr, dstPort := if checked then nat.natPort else key.dstPort }) := by
  have accepted := accepted_of_frameTuple tuple
  have early (offset : Nat) (lower : 12 ≤ offset) (upper : offset < 24) : Preserved flag offset := by
    cases flag <;> simp [Preserved, Untouched, addrPtr, portPtr, Ipv4Hdr.check, UdpHdr.check, ipv4,
      udp, EthHdr.len, Ipv4Hdr.len, Ipv4Hdr.srcAddr, Ipv4Hdr.dstAddr, UdpHdr.src, UdpHdr.dst] <;> omega
  have outAccepted : Accepted (translateFrame flag nat data) :=
    accepted.congr translateFrame_length fun offset lower upper =>
      translateFrame_preserved (early offset lower upper)
  have address : loadU32 (translateFrame flag nat data) (addrPtr flag) = _ :=
    translateFrame_addr accepted
  have port : loadU16 (translateFrame flag nat data) (portPtr flag) = _ :=
    translateFrame_port accepted
  rw [frameTuple_accepted accepted, Option.some.injEq] at tuple
  subst key
  rw [frameTuple_accepted outAccepted]
  cases flag with
  | snat =>
      have peer : loadU32 (translateFrame .snat nat data) (Ipv4Hdr.dstAddr ipv4) = _ :=
        translateFrame_loadU32_other (by decide)
      have peerPort : loadU16 (translateFrame .snat nat data) (udp + 2) = _ :=
        translateFrame_loadU16_other (by decide)
      simp only [addrPtr, portPtr, UdpHdr.src] at address port
      simp only [udpSrcPort, udpDstPort, address, port, peer, peerPort, swap32_swap32, apply_ite swap16,
        swap16_swap16]
  | dnat =>
      have peer : loadU32 (translateFrame .dnat nat data) (Ipv4Hdr.srcAddr ipv4) = _ :=
        translateFrame_loadU32_other (by decide)
      have peerPort : loadU16 (translateFrame .dnat nat data) udp = _ :=
        translateFrame_loadU16_other (by decide)
      simp only [addrPtr, portPtr, UdpHdr.dst] at address port
      simp only [udpSrcPort, udpDstPort, address, port, peer, peerPort, swap32_swap32, apply_ite swap16,
        swap16_swap16]

/-- A translated frame carries the endpoint of its NAT data exactly when it came
with a UDP checksum, or with that port. -/
theorem translated_tuple_iff (tuple : frameTuple ctx.data = some key)
    (translated : translation flag kernel maps ctx = some nat) :
    frameTuple (tryXdpRedirect kernel maps ctx flag).data = some (translateTuple flag nat key) ↔
      loadU16 ctx.data (UdpHdr.check udp) ≠ 0 ∨ nat.natPort = ownPort flag key := by
  rw [tryXdpRedirect_data, translated]
  dsimp only
  rw [frameTuple_translateFrame tuple]
  by_cases checked : loadU16 ctx.data (UdpHdr.check udp) = 0 <;> cases flag <;>
    simp [checked, translateTuple, ownPort, eq_comm]

end Output

end XdpNatd.Ebpf
