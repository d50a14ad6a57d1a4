import XdpNatd.Ebpf.Checksums
import XdpNatd.Testbed

namespace XdpNatd.Ebpf

open XdpNatd.Data

section Datagram

variable {data : List UInt8}

/-- A whole IPv4 datagram without options that carries UDP, byte by byte. -/
structure UdpDatagram (data : List UInt8) : Prop where
  room : 42 ≤ data.length
  etherType : byteAt data 12 = 0x08 ∧ byteAt data 13 = 0x00
  headerLength : byteAt data 14 % 16 = 5
  moreFragments : byteAt data 20 &&& 0x20 = 0
  fragmentOffset : byteAt data 20 &&& 0x1F = 0 ∧ byteAt data 21 = 0
  proto : byteAt data 23 = 17

private theorem frags_eq_zero_iff (high low : UInt8) :
    swap16 (le16 high low) &&& (ipMf ||| ipOffset) = 0 ↔
      high &&& 0x20 = 0 ∧ high &&& 0x1F = 0 ∧ low = 0 := by
  rw [swap16_le16]
  have masked : (le16 low high &&& (ipMf ||| ipOffset)).toNat =
      (low.toNat + 256 * high.toNat) % 16384 := by
    rw [UInt16.toNat_and, le16_toNat]
    exact Nat.and_two_pow_sub_one_eq_mod _ 14
  have bits : ∀ byte : Fin 256, byte.val % 64 = 0 ↔ byte.val &&& 32 = 0 ∧ byte.val &&& 31 = 0 := by
    decide +kernel
  have bound := low.toNat_lt
  rw [← UInt16.toNat_inj, masked, ← UInt8.toNat_inj, ← UInt8.toNat_inj, ← UInt8.toNat_inj,
    UInt8.toNat_and, UInt8.toNat_and, ← and_assoc]
  refine Iff.trans ?_ (and_congr_left' (bits ⟨high.toNat, high.toNat_lt⟩))
  change (low.toNat + 256 * high.toNat) % 16384 = 0 ↔ high.toNat % 64 = 0 ∧ low.toNat = 0
  omega

private theorem headerLength_eq (vihl : UInt8) : vihl &&& 0x0F = vihl % 16 := by
  rw [← UInt8.toNat_inj, UInt8.toNat_and, UInt8.toNat_mod]
  exact Nat.and_two_pow_sub_one_eq_mod vihl.toNat 4

private theorem proto_iff (number : UInt8) : IpProto.ofByte number = .udp ↔ number = 17 := by
  unfold IpProto.ofByte
  by_cases icmp : number = 1
  · simp [icmp]
  · by_cases tcp : number = 6 <;> simp [icmp, tcp]

private theorem etherType_iff (first second : UInt8) :
    le16 first second = EtherType.ipv4 ↔ first = 0x08 ∧ second = 0x00 := by
  have written : EtherType.ipv4 = le16 0x08 0x00 := by decide
  rw [written]
  exact ⟨le16_inj, fun ⟨high, low⟩ => by rw [high, low]⟩

theorem accepted_iff_udpDatagram : Accepted data ↔ UdpDatagram data := by
  constructor
  · intro accepted
    obtain ⟨room, etherType, udpProto, vihl, frags⟩ := accepted
    obtain ⟨more, offset, low⟩ := (frags_eq_zero_iff _ _).mp frags
    exact ⟨room, (etherType_iff _ _).mp etherType, headerLength_eq _ ▸ vihl, more, ⟨offset, low⟩,
      (proto_iff _).mp udpProto⟩
  · intro datagram
    obtain ⟨room, etherType, vihl, more, ⟨offset, low⟩, udpProto⟩ := datagram
    exact ⟨room, (etherType_iff _ _).mpr etherType, (proto_iff _).mpr udpProto, headerLength_eq _ ▸ vihl,
      (frags_eq_zero_iff _ _).mpr ⟨more, offset, low⟩⟩

end Datagram

section Frame

variable {flag : Flags} {kernel : Kernel} {maps : Maps} {ctx : XdpContext}
variable {key : ConnectionTuple} {nat : NATData}

/-- The NAT data that the maps and the route assign to a frame with this tuple. -/
def assigned (flag : Flags) (kernel : Kernel) (maps : Maps) (ctx : XdpContext)
    (key : ConnectionTuple) : Option NATData :=
  match maps.udpConntrack.get key with
  | some state => some state.nat
  | none => (newFlow flag kernel maps ctx).map fun flow => flow.nat flag

/-- A hit that is not due for a refresh, or a miss in a full table. -/
def Settled (time : UInt64) (conntrack : Conntrack) (key : ConnectionTuple) : Prop :=
  match conntrack.get key with
  | some state => refresh time state = none
  | none => ¬ conntrack.size < 65536

theorem translation_eq_assigned (tuple : frameTuple ctx.data = some key) :
    translation flag kernel maps ctx = assigned flag kernel maps ctx key := by
  rw [translation_eq]
  cases found : maps.udpConntrack.get key with
  | some state =>
      rw [outcome_hits tuple found]
      simp [assigned, found, Outcome.nat]
  | none =>
      rw [outcome_missed tuple found]
      cases opened : newFlow flag kernel maps ctx <;> simp [assigned, found, opened, Outcome.nat]

theorem translation_untupled (untupled : frameTuple ctx.data = none) :
    translation flag kernel maps ctx = none := by
  rw [translation_eq]
  simp [outcome, untupled, Outcome.nat]

/-- Without NAT data the frame is passed, and nothing has been written. -/
theorem verdict_untranslated (untranslated : translation flag kernel maps ctx = none) :
    let verdict := tryXdpRedirect kernel maps ctx flag
    verdict.action = .pass ∧ verdict.data = ctx.data ∧ verdict.udpConntrack = maps.udpConntrack := by
  dsimp only
  rw [tryXdpRedirect_action, tryXdpRedirect_data, tryXdpRedirect_conntrack, untranslated]
  refine ⟨rfl, rfl, ?_⟩
  rw [translation_eq] at untranslated
  cases reached : outcome flag kernel maps ctx with
  | passes => rfl
  | hits | opens =>
      rw [reached] at untranslated
      cases untranslated

theorem conntrack_eq_self_iff (tuple : frameTuple ctx.data = some key)
    (translated : translation flag kernel maps ctx = some nat) :
    (tryXdpRedirect kernel maps ctx flag).udpConntrack = maps.udpConntrack ↔
      Settled kernel.ktimeGetCoarseNs maps.udpConntrack key := by
  rw [tryXdpRedirect_conntrack]
  rcases translation_cases translated with
    ⟨hitKey, state, hits, hitTuple, found, _⟩ | ⟨flow, opens, _, flowTuple, missed, _⟩
  · cases hitTuple.symm.trans tuple
    rw [hits]
    simp only [Settled, found]
    exact touch_eq_self_iff found
  · cases flowTuple.symm.trans tuple
    rw [opens]
    simp only [Settled, missed]
    exact record_eq_self_iff missed

/-- Only UDP datagrams without options and fragmentation are touched, and every
other frame is passed. -/
theorem touched_frames_are_udp (flag : Flags) (kernel : Kernel) (maps : Maps) (ctx : XdpContext) :
    let verdict := tryXdpRedirect kernel maps ctx flag
    (verdict.data ≠ ctx.data ∨ verdict.udpConntrack ≠ maps.udpConntrack → UdpDatagram ctx.data) ∧
    (¬ UdpDatagram ctx.data →
      verdict.action = .pass ∧ verdict.data = ctx.data ∧ verdict.udpConntrack = maps.udpConntrack) := by
  have passed : ¬ UdpDatagram ctx.data →
      (tryXdpRedirect kernel maps ctx flag).action = .pass ∧
      (tryXdpRedirect kernel maps ctx flag).data = ctx.data ∧
      (tryXdpRedirect kernel maps ctx flag).udpConntrack = maps.udpConntrack := by
    intro other
    have untupled : frameTuple ctx.data = none := by
      cases tuple : frameTuple ctx.data with
      | none => rfl
      | some key => exact absurd (accepted_iff_udpDatagram.mp (accepted_of_frameTuple tuple)) other
    exact verdict_untranslated (translation_untupled untupled)
  refine ⟨?_, passed⟩
  intro touched
  by_contra other
  obtain ⟨_, data, conntrack⟩ := passed other
  rcases touched with dataTouched | conntrackTouched
  · exact dataTouched data
  · exact conntrackTouched conntrack

end Frame

open Testbed in
/-- A datagram that ends with its IPv4 header: the eight bytes of padding behind
it get a new port. So does a frame that calls itself version 6. -/
theorem padding_is_rewritten_as_udp :
    let frame := (fromNic ⟨remote, hostIp, 7000, 10000⟩ 0x1234).data
    let padded : XdpContext := { data := frame.set 17 20, ingressIfindex := 2 }
    let versionSix : XdpContext := { data := frame.set 14 0x65, ingressIfindex := 2 }
    (swap16 (loadU16 padded.data (Ipv4Hdr.totLen ipv4)) = 20 ∧
      udpDstPort padded.data udp = 10000 ∧
      udpDstPort (tryXdpRedirect (kernelAt 0) exposing.maps padded .dnat).data udp = 5201) ∧
    (byteAt versionSix.data (Ipv4Hdr.vihl ipv4) / 16 = 6 ∧
      udpDstPort versionSix.data udp = 10000 ∧
      udpDstPort (tryXdpRedirect (kernelAt 0) exposing.maps versionSix .dnat).data udp = 5201) := by
  decide +kernel

section Same

variable {flag : Flags} {nat : NATData} {data : List UInt8} {offset : Nat}

/-- The frame carries all that a rewriting with the NAT data would write. -/
structure AlreadyTranslated (flag : Flags) (nat : NATData) (data : List UInt8) : Prop where
  addr : loadU32 data (addrPtr flag) = swap32 nat.natAddr
  port : loadU16 data (UdpHdr.check udp) ≠ 0 → loadU16 data (portPtr flag) = swap16 nat.natPort
  srcMac : loadArray 6 data (EthHdr.srcAddr eth) = nat.fibMacs.fibSmac
  dstMac : loadArray 6 data (EthHdr.dstAddr eth) = nat.fibMacs.fibDmac
  ipCheck : loadU16 data (Ipv4Hdr.check ipv4) ≠ 0xFFFF

theorem updatedUdpCheck_self {check port : UInt16} {addr : UInt32}
    (sent : check ≠ 0) (samePort : port = swap16 nat.natPort) (sameAddr : addr = swap32 nat.natAddr) :
    updatedUdpCheck nat check port addr = check := by
  subst samePort sameAddr
  unfold updatedUdpCheck
  dsimp only
  rw [csumReplace4_self, csumReplace4_self]
  by_cases long : check = 0xFFFF
  · subst long
    rfl
  · rw [if_neg long, if_neg long, if_neg sent]

theorem window_of_not_preserved (rewritten : ¬ Preserved flag offset) :
    (∃ lane < 6, offset = EthHdr.srcAddr eth + lane) ∨ (∃ lane < 6, offset = EthHdr.dstAddr eth + lane) ∨
    (∃ lane < 2, offset = Ipv4Hdr.check ipv4 + lane) ∨ (∃ lane < 4, offset = addrPtr flag + lane) ∨
    (∃ lane < 2, offset = portPtr flag + lane) ∨ ∃ lane < 2, offset = UdpHdr.check udp + lane := by
  have within (base count : Nat) (lower : base ≤ offset) (upper : offset < base + count) :
      ∃ lane < count, offset = base + lane := ⟨offset - base, by omega, by omega⟩
  simp only [Preserved, Untouched, not_and_or, not_or, not_lt, not_le] at rewritten
  rcases rewritten with mac | ip | address | port | check
  · by_cases first : offset < 6
    · exact Or.inr (Or.inl (within _ _ (Nat.zero_le _) (by simpa [EthHdr.dstAddr, eth] using first)))
    · exact Or.inl (within _ _ (by simpa [EthHdr.srcAddr, eth] using first)
        (by simpa [EthHdr.srcAddr, eth] using mac))
  · exact Or.inr (Or.inr (Or.inl (within _ _ ip.1 ip.2)))
  · exact Or.inr (Or.inr (Or.inr (Or.inl (within _ _ address.1 address.2))))
  · exact Or.inr (Or.inr (Or.inr (Or.inr (Or.inl (within _ _ port.1 port.2)))))
  · exact Or.inr (Or.inr (Or.inr (Or.inr (Or.inr (within _ _ check.1 check.2)))))

theorem translateFrame_eq_self_iff (accepted : Accepted data) :
    translateFrame flag nat data = data ↔ AlreadyTranslated flag nat data := by
  have addr := @translateFrame_addr flag nat data accepted
  have port := @translateFrame_port flag nat data accepted
  have macs := @translateFrame_macs flag nat data accepted
  have ipCheck := @translateFrame_ipCheck flag nat data accepted
  have udpCheck := @translateFrame_udpCheck flag nat data accepted
  constructor
  · intro same
    rw [same] at addr port macs ipCheck
    refine ⟨addr, fun checked => ?_, macs.1, macs.2, fun long => ?_⟩
    · rw [if_pos checked] at port
      exact port
    · rw [addr, csumReplace4_self, if_pos long, long] at ipCheck
      cases ipCheck
  · intro already
    obtain ⟨sameAddr, samePort, srcMac, dstMac, short⟩ := already
    rw [sameAddr, csumReplace4_self, if_neg short] at ipCheck
    have samePort' : loadU16 (translateFrame flag nat data) (portPtr flag) =
        loadU16 data (portPtr flag) := by
      rw [port]
      split
      · next checked => exact (samePort checked).symm
      · rfl
    have sameCheck : loadU16 (translateFrame flag nat data) (UdpHdr.check udp) =
        loadU16 data (UdpHdr.check udp) := by
      rw [udpCheck]
      split
      · next checked => exact updatedUdpCheck_self checked (samePort checked) sameAddr
      · next unchecked => exact (not_not.mp unchecked).symm
    refine eq_of_byteAt translateFrame_length fun offset => ?_
    by_cases preserved : Preserved flag offset
    · exact byteAt_congr (translateFrame_preserved preserved)
    · rcases window_of_not_preserved preserved with
        ⟨lane, inside, rfl⟩ | ⟨lane, inside, rfl⟩ | ⟨lane, inside, rfl⟩ | ⟨lane, inside, rfl⟩ |
        ⟨lane, inside, rfl⟩ | ⟨lane, inside, rfl⟩
      · exact byteAt_of_loadArray (macs.1.trans srcMac.symm) inside
      · exact byteAt_of_loadArray (macs.2.trans dstMac.symm) inside
      · exact byteAt_of_loadU16 ipCheck inside
      · exact byteAt_of_loadU32 (addr.trans sameAddr.symm) inside
      · exact byteAt_of_loadU16 samePort' inside
      · exact byteAt_of_loadU16 sameCheck inside

end Same

section Pass

variable {flag : Flags} {kernel : Kernel} {maps : Maps} {ctx : XdpContext}

def PassesUntouched (flag : Flags) (kernel : Kernel) (maps : Maps) (ctx : XdpContext) : Prop :=
  let verdict := tryXdpRedirect kernel maps ctx flag
  verdict.action = .pass → verdict.data = ctx.data ∧ verdict.udpConntrack = maps.udpConntrack

/-- Wherever the maps assign NAT data to the frame, its target is in
`REDIRECT_MAP`, or neither the frame nor the table has anything to change. -/
def PassHarmless (flag : Flags) (kernel : Kernel) (maps : Maps) (ctx : XdpContext) : Prop :=
  ∀ key ∈ frameTuple ctx.data, ∀ nat ∈ assigned flag kernel maps ctx key,
    (maps.redirectMap.get nat.devmapKey).isSome ∨
      AlreadyTranslated flag nat ctx.data ∧ Settled kernel.ktimeGetCoarseNs maps.udpConntrack key

theorem passesUntouched_of_untranslated (untranslated : translation flag kernel maps ctx = none) :
    PassesUntouched flag kernel maps ctx :=
  fun _ => (verdict_untranslated untranslated).2

/-- `XDP_PASS` leaves frame and table as they were exactly when every frame that
is translated has its target in `REDIRECT_MAP`, or had nothing to change. -/
theorem pass_untouched_iff (flag : Flags) (kernel : Kernel) (maps : Maps) (ctx : XdpContext) :
    PassesUntouched flag kernel maps ctx ↔ PassHarmless flag kernel maps ctx := by
  cases tuple : frameTuple ctx.data with
  | none =>
      refine iff_of_true (passesUntouched_of_untranslated (translation_untupled tuple)) ?_
      intro key member
      cases tuple.symm.trans member
  | some key =>
      have translated := @translation_eq_assigned flag kernel maps ctx key tuple
      cases found : assigned flag kernel maps ctx key with
      | none =>
          refine iff_of_true (passesUntouched_of_untranslated (translated.trans found)) ?_
          intro other member nat assignedOther
          cases tuple.symm.trans member
          cases found.symm.trans assignedOther
      | some nat =>
          rw [found] at translated
          have harmless : PassHarmless flag kernel maps ctx ↔
              (maps.redirectMap.get nat.devmapKey).isSome ∨ AlreadyTranslated flag nat ctx.data ∧
                Settled kernel.ktimeGetCoarseNs maps.udpConntrack key := by
            constructor
            · exact fun harmless => harmless key tuple nat found
            · intro either other member otherNat assignedOther
              cases tuple.symm.trans member
              cases found.symm.trans assignedOther
              exact either
          rw [harmless, PassesUntouched, tryXdpRedirect_action, tryXdpRedirect_data, translated]
          dsimp only
          rw [conntrack_eq_self_iff tuple translated,
            translateFrame_eq_self_iff (accepted_of_frameTuple tuple)]
          by_cases target : (maps.redirectMap.get nat.devmapKey).isSome <;> simp [target]

open Testbed in
/-- A container that sends from an address that is not in `REDIRECT_MAP` gets no
answer: the answer is rewritten for it and then passed to the host's own stack. -/
theorem answer_is_passed_rewritten :
    let sent := host.step (.frame .snat (fromContainer 10 ⟨0xAC140063, remote, 4000, 53⟩ 0x1234)
      (kernelAt 0))
    let answer := fromNic ⟨remote, hostIp, 53, 4000⟩ 0x1234
    let verdict := tryXdpRedirect (kernelAt 1) sent.maps answer .dnat
    verdict.action = .pass ∧ verdict.data ≠ answer.data ∧
      verdict.udpConntrack.get ⟨remote, hostIp, 53, 4000⟩ ≠
        sent.udpConntrack.get ⟨remote, hostIp, 53, 4000⟩ ∧
      ¬ PassesUntouched .dnat (kernelAt 1) sent.maps answer := by
  have rewritten : let sent := host.step (.frame .snat
        (fromContainer 10 ⟨0xAC140063, remote, 4000, 53⟩ 0x1234) (kernelAt 0))
      let answer := fromNic ⟨remote, hostIp, 53, 4000⟩ 0x1234
      let verdict := tryXdpRedirect (kernelAt 1) sent.maps answer .dnat
      verdict.action = .pass ∧ verdict.data ≠ answer.data ∧
        verdict.udpConntrack.get ⟨remote, hostIp, 53, 4000⟩ ≠
          sent.udpConntrack.get ⟨remote, hostIp, 53, 4000⟩ := by
    decide +kernel
  obtain ⟨passed, changed, written⟩ := rewritten
  exact ⟨passed, changed, written, fun untouched => changed (untouched passed).1⟩

end Pass

end XdpNatd.Ebpf
