import XdpNatd.Data.OnesComplement
import XdpNatd.Ebpf.Rewrite

namespace XdpNatd.Ebpf

open XdpNatd.Data

section Csum

variable {csum addend old new : UInt32}

theorem csumAdd_toNat (csum addend : UInt32) :
    (csumAdd csum addend).toNat =
      if csum.toNat + addend.toNat < 4294967296 then csum.toNat + addend.toNat
      else csum.toNat + addend.toNat - 4294967295 := by
  have csumBound := csum.toNat_lt
  have addendBound := addend.toNat_lt
  unfold csumAdd
  dsimp only
  by_cases carry : csum + addend < addend
  · rw [if_pos carry]
    rw [UInt32.lt_iff_toNat_lt, UInt32.toNat_add] at carry
    rw [UInt32.toNat_add, UInt32.toNat_add, UInt32.toNat_one]
    split <;> omega
  · rw [if_neg carry]
    rw [UInt32.lt_iff_toNat_lt, UInt32.toNat_add] at carry
    rw [UInt32.toNat_add, UInt32.toNat_add, UInt32.toNat_zero]
    split <;> omega

private theorem fold_twice (word : Nat) (bound : word < 4294967296) :
    let once := word % 65536 + word / 65536
    once % 65536 + once / 65536 = canonical word := by
  intro once
  have carries : once + 65535 * (word / 65536) = word := by omega
  have small : once < 131071 := by omega
  have zero : once = 0 ↔ word = 0 := by omega
  clear_value once
  have folded : once % 65536 + once / 65536 + 65535 * (once / 65536 + word / 65536) = word := by omega
  have short : once % 65536 + once / 65536 ≤ 65535 := by omega
  have nonzero : once % 65536 + once / 65536 = 0 ↔ once = 0 := by omega
  rw [canonical]
  split <;> omega

theorem csumFold_toNat (csum : UInt32) :
    (csumFold csum).toNat = 65535 - canonical csum.toNat := by
  have bound := csum.toNat_lt
  have once (word : UInt32) : ((word &&& (0xffff : UInt32)) + (word >>> (16 : UInt32))).toNat =
      word.toNat % 65536 + word.toNat / 65536 := by
    have wordBound := word.toNat_lt
    rw [UInt32.toNat_add, UInt32.toNat_and, UInt32.toNat_shiftRight]
    have mask : word.toNat &&& (0xffff : UInt32).toNat = word.toNat % 65536 :=
      Nat.and_two_pow_sub_one_eq_mod word.toNat 16
    have shift : word.toNat >>> ((16 : UInt32).toNat % 32) = word.toNat / 65536 := by
      rw [Nat.shiftRight_eq_div_pow]
      rfl
    rw [mask, shift]
    omega
  unfold csumFold
  dsimp only
  have short : canonical csum.toNat ≤ 65535 := by rw [canonical]; split <;> omega
  rw [UInt16.toNat_not, UInt32.toNat_toUInt16, once, once, fold_twice _ bound, UInt16.size]
  omega

/-- The update trades the old word for the new one, and its result is the short
representative. -/
theorem csumReplace4_spec (csum : UInt16) (old new : UInt32) :
    (csumReplace4 csum.toUInt32 old new).toNat < 65535 ∧
      (csumReplace4 csum.toUInt32 old new).toNat + new.toNat ≡
        csum.toNat + old.toNat [MOD 65535] := by
  have csumBound := csum.toNat_lt
  have oldBound := old.toNat_lt
  have newBound := new.toNat_lt
  rw [csumReplace4, csumFold_toNat, csumAdd_toNat, csumAdd_toNat, UInt32.toNat_not,
    UInt32.toNat_not, UInt16.toNat_toUInt32, canonical, Nat.ModEq, UInt32.size]
  constructor
  · split <;> split <;> split <;> omega
  · split <;> split <;> split <;> omega

/-- Trading a word for itself only replaces the long representative. -/
theorem csumReplace4_self (csum : UInt16) (word : UInt32) :
    csumReplace4 csum.toUInt32 word word = if csum = 0xFFFF then 0 else csum := by
  obtain ⟨short, kept⟩ := csumReplace4_spec csum word word
  have congruent := Nat.ModEq.add_right_cancel' word.toNat kept
  have bound := csum.toNat_lt
  apply UInt16.toNat_inj.mp
  rw [Nat.ModEq, Nat.mod_eq_of_lt short] at congruent
  rw [congruent]
  split
  · next long =>
      rw [long]
      rfl
  · next shortCsum =>
      have different : csum.toNat ≠ 65535 := fun same => shortCsum (UInt16.toNat_inj.mp same)
      exact Nat.mod_eq_of_lt (by omega)

end Csum

/-- `apply_ip_snat` and `apply_ip_dnat` as `try_xdp_redirect` points them to the
headers of a frame. -/
def rewriteHeaders (flag : Flags) (nat : NATData) (data : List UInt8) : List UInt8 :=
  match flag with
  | .snat => applyIpSnat nat (Ipv4Hdr.check ipv4) (UdpHdr.check udp) (Ipv4Hdr.srcAddr ipv4)
      (UdpHdr.src udp) data
  | .dnat => applyIpDnat nat (Ipv4Hdr.check ipv4) (UdpHdr.check udp) (Ipv4Hdr.dstAddr ipv4)
      (UdpHdr.dst udp) data

def ipHeader (data : List UInt8) : List UInt8 := window data ipv4 Ipv4Hdr.len

/-- The pseudo-header of RFC 768: both addresses, zero, the protocol and the
length field of the UDP header. -/
def pseudoHeader (data : List UInt8) : List UInt8 :=
  window data (Ipv4Hdr.srcAddr ipv4) 4 ++ (window data (Ipv4Hdr.dstAddr ipv4) 4 ++
    ([0, IpProto.udp.toByte] ++ window data (udp + 4) 2))

/-- What the UDP checksum of a datagram with `payload` bytes after its header covers. -/
def udpCovered (data : List UInt8) (payload : Nat) : List UInt8 :=
  pseudoHeader data ++ window data udp (UdpHdr.len + payload)

/-- The IPv4 checksum from scratch, with the checksum field taken as zero. -/
def ipChecksum (data : List UInt8) : Nat :=
  checksum (ipHeader (storeU16 data (Ipv4Hdr.check ipv4) 0))

/-- The UDP checksum from scratch; a computed 0 is sent as 0xFFFF. -/
def udpChecksum (data : List UInt8) (payload : Nat) : Nat :=
  let computed := checksum (udpCovered (storeU16 data (UdpHdr.check udp) 0) payload)
  if computed = 0 then 0xFFFF else computed

section Sums

variable {data : List UInt8} {payload : Nat}

def ipRest (data : List UInt8) : Nat :=
  wordSum (window data ipv4 10) +
    (wordSum (window data (Ipv4Hdr.srcAddr ipv4) 4) + wordSum (window data (Ipv4Hdr.dstAddr ipv4) 4))

/-- The words under the UDP checksum that no translation changes. -/
def udpFixed (data : List UInt8) (payload : Nat) : Nat :=
  17 + 2 * wordSum (window data (udp + 4) 2) + wordSum (window data (udp + 8) payload)

def udpRest (data : List UInt8) (payload : Nat) : Nat :=
  udpFixed data payload +
    (wordSum (window data (Ipv4Hdr.srcAddr ipv4) 4) + wordSum (window data (Ipv4Hdr.dstAddr ipv4) 4)) +
    (wordSum (window data (UdpHdr.src udp) 2) + wordSum (window data (UdpHdr.dst udp) 2))

theorem wordSum_ipHeader :
    wordSum (ipHeader data) = ipRest data + (swap16 (loadU16 data (Ipv4Hdr.check ipv4))).toNat := by
  have parts : ipHeader data = window data ipv4 10 ++ (window data (Ipv4Hdr.check ipv4) 2 ++
      (window data (Ipv4Hdr.srcAddr ipv4) 4 ++ window data (Ipv4Hdr.dstAddr ipv4) 4)) := by
    change window data ipv4 (10 + (2 + (4 + 4))) = _
    rw [window_add, window_add, window_add]
    rfl
  rw [parts, wordSum_append (by simp), wordSum_append (by simp), wordSum_append (by simp),
    wordSum_window_two, ipRest]
  omega

theorem wordSum_udpCovered :
    wordSum (udpCovered data payload) =
      udpRest data payload + (swap16 (loadU16 data (UdpHdr.check udp))).toNat := by
  have parts : window data udp (UdpHdr.len + payload) = window data (UdpHdr.src udp) 2 ++
      (window data (UdpHdr.dst udp) 2 ++ (window data (udp + 4) 2 ++
        (window data (UdpHdr.check udp) 2 ++ window data (udp + 8) payload))) := by
    have size : UdpHdr.len + payload = 2 + (2 + (2 + (2 + payload))) := by
      rw [UdpHdr.len]
      omega
    rw [size, window_add, window_add, window_add, window_add]
    rfl
  have fixed : wordSum [0, IpProto.udp.toByte] = 17 := by decide
  rw [udpCovered, pseudoHeader, parts]
  simp only [List.append_assoc]
  rw [wordSum_append (by simp), wordSum_append (by simp), wordSum_append (by simp),
    wordSum_append (by simp), wordSum_append (by simp), wordSum_append (by simp),
    wordSum_append (by simp), wordSum_append (by simp), fixed,
    wordSum_window_two data (UdpHdr.check udp), udpRest, udpFixed]
  omega

theorem wordSum_ipHeader_zeroed (room : Ipv4Hdr.check ipv4 + 2 ≤ data.length) :
    wordSum (ipHeader (storeU16 data (Ipv4Hdr.check ipv4) 0)) = ipRest data := by
  have zero : loadU16 (storeU16 data (Ipv4Hdr.check ipv4) 0) (Ipv4Hdr.check ipv4) = 0 :=
    loadU16_storeU16 room
  rw [wordSum_ipHeader, zero]
  simp only [ipRest, storeU16]
  rw [window_storeBytes_outside (Or.inl (by decide)), window_storeBytes_outside (Or.inr (by decide)),
    window_storeBytes_outside (Or.inr (by decide))]
  rfl

theorem wordSum_udpCovered_zeroed (room : UdpHdr.check udp + 2 ≤ data.length) :
    wordSum (udpCovered (storeU16 data (UdpHdr.check udp) 0) payload) = udpRest data payload := by
  have zero : loadU16 (storeU16 data (UdpHdr.check udp) 0) (UdpHdr.check udp) = 0 :=
    loadU16_storeU16 room
  rw [wordSum_udpCovered, zero]
  simp only [udpRest, udpFixed, storeU16]
  rw [window_storeBytes_outside (Or.inl (by decide)), window_storeBytes_outside (Or.inr (by decide)),
    window_storeBytes_outside (Or.inl (by decide)), window_storeBytes_outside (Or.inl (by decide)),
    window_storeBytes_outside (Or.inl (by decide)), window_storeBytes_outside (Or.inl (by decide))]
  rfl

end Sums

section Update

variable {flag : Flags} {nat : NATData} {data : List UInt8} {payload : Nat}

theorem rewriteHeaders_eq : rewriteHeaders flag nat data =
    applyIp nat (Ipv4Hdr.check ipv4) (UdpHdr.check udp) (addrPtr flag) (portPtr flag) data := by
  cases flag <;> rfl

@[simp] theorem rewriteHeaders_length : (rewriteHeaders flag nat data).length = data.length := by
  rw [rewriteHeaders_eq, applyIp_length]

private theorem window_rewriteHeaders {offset count : Nat}
    (untouched : ∀ lane < count, Untouched (Ipv4Hdr.check ipv4) (UdpHdr.check udp) (addrPtr flag)
      (portPtr flag) (offset + lane)) :
    window (rewriteHeaders flag nat data) offset count = window data offset count := by
  rw [rewriteHeaders_eq]
  exact window_congr fun lane inside => applyIp_untouched (untouched lane inside)

private theorem window_peer :
    window (rewriteHeaders flag nat data) (addrPtr flag.other) 4 =
        window data (addrPtr flag.other) 4 ∧
      window (rewriteHeaders flag nat data) (portPtr flag.other) 2 =
        window data (portPtr flag.other) 2 := by
  cases flag <;> exact ⟨window_rewriteHeaders (by decide), window_rewriteHeaders (by decide)⟩

private theorem udpFixed_rewriteHeaders :
    udpFixed (rewriteHeaders flag nat data) payload = udpFixed data payload := by
  have beyond : window (rewriteHeaders flag nat data) (udp + 8) payload =
      window data (udp + 8) payload := by
    refine window_rewriteHeaders fun lane _ => ?_
    cases flag <;> simp [Untouched, addrPtr, portPtr, Ipv4Hdr.check, UdpHdr.check, Ipv4Hdr.srcAddr,
      Ipv4Hdr.dstAddr, UdpHdr.src, UdpHdr.dst, udp, ipv4, EthHdr.len, Ipv4Hdr.len] <;> omega
  have length : window (rewriteHeaders flag nat data) (udp + 4) 2 = window data (udp + 4) 2 := by
    cases flag <;> exact window_rewriteHeaders (by decide)
  rw [udpFixed, udpFixed, beyond, length]

private theorem addresses_sum (flag : Flags) (data : List UInt8) :
    wordSum (window data (Ipv4Hdr.srcAddr ipv4) 4) + wordSum (window data (Ipv4Hdr.dstAddr ipv4) 4) =
      wordSum (window data (addrPtr flag) 4) + wordSum (window data (addrPtr flag.other) 4) := by
  cases flag with
  | snat => rfl
  | dnat => exact Nat.add_comm _ _

private theorem ports_sum (flag : Flags) (data : List UInt8) :
    wordSum (window data (UdpHdr.src udp) 2) + wordSum (window data (UdpHdr.dst udp) 2) =
      wordSum (window data (portPtr flag) 2) + wordSum (window data (portPtr flag.other) 2) := by
  cases flag with
  | snat => rfl
  | dnat => exact Nat.add_comm _ _

theorem ipCheck_update (room : UdpHdr.check udp + 2 ≤ data.length) :
    (loadU16 (rewriteHeaders flag nat data) (Ipv4Hdr.check ipv4)).toNat < 65535 ∧
      wordSum (ipHeader (rewriteHeaders flag nat data)) ≡ wordSum (ipHeader data) [MOD 65535] := by
  have layout : Layout _ _ (addrPtr flag) (portPtr flag) data.length := layout_of_room room
  have check := @applyIp_ipCheck nat _ _ _ _ _ layout
  rw [← rewriteHeaders_eq] at check
  have addr : loadU32 (rewriteHeaders flag nat data) (addrPtr flag) = swap32 nat.natAddr := by
    rw [rewriteHeaders_eq]
    exact applyIp_addr layout
  obtain ⟨short, balance⟩ := csumReplace4_spec (loadU16 data (Ipv4Hdr.check ipv4))
    (loadU32 data (addrPtr flag)) (swap32 nat.natAddr)
  rw [← check] at short balance
  have early : window (rewriteHeaders flag nat data) ipv4 10 = window data ipv4 10 := by
    cases flag <;> exact window_rewriteHeaders (by decide)
  have oldAddr := wordSum_window_four data (addrPtr flag)
  have newAddr := wordSum_window_four (rewriteHeaders flag nat data) (addrPtr flag)
  have oldCheck := swap16_modEq (loadU16 data (Ipv4Hdr.check ipv4))
  have newCheck := swap16_modEq (loadU16 (rewriteHeaders flag nat data) (Ipv4Hdr.check ipv4))
  rw [addr] at newAddr
  refine ⟨short, ?_⟩
  rw [wordSum_ipHeader, wordSum_ipHeader, ipRest, ipRest, addresses_sum flag,
    addresses_sum flag, window_peer.1, early]
  simp only [Nat.ModEq] at *
  omega

/-- The update of a UDP checksum keeps the class of the sum that it covers; its
result is the short representative, or 65535 in place of 0. -/
theorem udpCheck_update (room : UdpHdr.check udp + 2 ≤ data.length)
    (checked : loadU16 data (UdpHdr.check udp) ≠ 0) :
    (∃ short : UInt16, short.toNat < 65535 ∧
      loadU16 (rewriteHeaders flag nat data) (UdpHdr.check udp) =
        if short = 0 then 0xFFFF else short) ∧
    wordSum (udpCovered (rewriteHeaders flag nat data) payload) ≡
      wordSum (udpCovered data payload) [MOD 65535] := by
  have layout : Layout _ _ (addrPtr flag) (portPtr flag) data.length := layout_of_room room
  have check := @applyIp_udpCheck nat _ _ _ _ _ layout
  rw [← rewriteHeaders_eq, if_pos checked, updatedUdpCheck] at check
  have addr : loadU32 (rewriteHeaders flag nat data) (addrPtr flag) = swap32 nat.natAddr := by
    rw [rewriteHeaders_eq]
    exact applyIp_addr layout
  have port : loadU16 (rewriteHeaders flag nat data) (portPtr flag) = swap16 nat.natPort := by
    rw [rewriteHeaders_eq, applyIp_port layout, if_pos checked]
  obtain ⟨_, portBalance⟩ := csumReplace4_spec (loadU16 data (UdpHdr.check udp))
    (loadU16 data (portPtr flag)).toUInt32 (swap16 nat.natPort).toUInt32
  generalize csumReplace4 (loadU16 data (UdpHdr.check udp)).toUInt32
    (loadU16 data (portPtr flag)).toUInt32 (swap16 nat.natPort).toUInt32 = first at *
  obtain ⟨short, addrBalance⟩ := csumReplace4_spec first (loadU32 data (addrPtr flag))
    (swap32 nat.natAddr)
  generalize csumReplace4 first.toUInt32 (loadU32 data (addrPtr flag)) (swap32 nat.natAddr) =
    second at *
  refine ⟨⟨second, short, check⟩, ?_⟩
  have final : (loadU16 (rewriteHeaders flag nat data) (UdpHdr.check udp)).toNat ≡
      second.toNat [MOD 65535] := by
    rw [check]
    split
    · next zero => rw [zero]; rfl
    · rfl
  have oldAddr := wordSum_window_four data (addrPtr flag)
  have newAddr := wordSum_window_four (rewriteHeaders flag nat data) (addrPtr flag)
  have oldPort := swap16_modEq (loadU16 data (portPtr flag))
  have newPort := swap16_modEq (loadU16 (rewriteHeaders flag nat data) (portPtr flag))
  have oldCheck := swap16_modEq (loadU16 data (UdpHdr.check udp))
  have newCheck := swap16_modEq (loadU16 (rewriteHeaders flag nat data) (UdpHdr.check udp))
  rw [addr] at newAddr
  rw [port] at newPort
  rw [wordSum_udpCovered, wordSum_udpCovered, udpRest, udpRest, addresses_sum flag,
    addresses_sum flag, ports_sum flag, ports_sum flag,
    window_peer.1, window_peer.2, udpFixed_rewriteHeaders, wordSum_window_two data (portPtr flag),
    wordSum_window_two _ (portPtr flag), port]
  simp only [Nat.ModEq, UInt16.toNat_toUInt32] at *
  omega

private theorem udpRest_positive : 0 < udpRest data payload := by
  rw [udpRest, udpFixed]
  omega

/-- The version and the length of an IPv4 header make its sum positive. -/
private theorem ipRest_positive (ihl : byteAt data (Ipv4Hdr.vihl ipv4) &&& 0x0F = 5) :
    0 < ipRest data := by
  have nonzero : (byteAt data ipv4).toNat ≠ 0 := by
    intro zero
    have byte : byteAt data (Ipv4Hdr.vihl ipv4) = 0 := UInt8.toNat_inj.mp zero
    rw [byte] at ihl
    exact absurd ihl (by decide)
  have first : wordSum (window data ipv4 2) =
      256 * (byteAt data ipv4).toNat + (byteAt data (ipv4 + 1)).toNat := by
    simp [window, wordSum, words, List.range_succ]
  have split : window data ipv4 10 = window data ipv4 2 ++ window data (ipv4 + 2) 8 := window_add 2 8
  rw [ipRest, split, wordSum_append (by simp), first]
  omega

private theorem ihl_rewriteHeaders (ihl : byteAt data (Ipv4Hdr.vihl ipv4) &&& 0x0F = 5) :
    byteAt (rewriteHeaders flag nat data) (Ipv4Hdr.vihl ipv4) &&& 0x0F = 5 := by
  have same : (rewriteHeaders flag nat data)[Ipv4Hdr.vihl ipv4]? = data[Ipv4Hdr.vihl ipv4]? := by
    rw [rewriteHeaders_eq]
    exact applyIp_untouched (by cases flag <;> decide)
  rw [byteAt, List.getD_eq_getElem?_getD, same, ← List.getD_eq_getElem?_getD]
  exact ihl

theorem ipHeader_verifies_iff (room : UdpHdr.check udp + 2 ≤ data.length)
    (ihl : byteAt data (Ipv4Hdr.vihl ipv4) &&& 0x0F = 5) :
    Verifies (ipHeader (rewriteHeaders flag nat data)) ↔ Verifies (ipHeader data) := by
  refine verifies_congr ?_ ?_ (ipCheck_update room).2
  · rw [wordSum_ipHeader]
    exact Nat.add_pos_left (ipRest_positive (ihl_rewriteHeaders ihl)) _
  · rw [wordSum_ipHeader]
    exact Nat.add_pos_left (ipRest_positive ihl) _

theorem udpCovered_verifies_iff (room : UdpHdr.check udp + 2 ≤ data.length)
    (checked : loadU16 data (UdpHdr.check udp) ≠ 0) :
    Verifies (udpCovered (rewriteHeaders flag nat data) payload) ↔
      Verifies (udpCovered data payload) := by
  refine verifies_congr ?_ ?_ (udpCheck_update room checked).2
  · rw [wordSum_udpCovered]
    exact Nat.add_pos_left udpRest_positive _
  · rw [wordSum_udpCovered]
    exact Nat.add_pos_left udpRest_positive _

theorem ipCheck_exact (room : UdpHdr.check udp + 2 ≤ data.length)
    (ihl : byteAt data (Ipv4Hdr.vihl ipv4) &&& 0x0F = 5) (verifies : Verifies (ipHeader data)) :
    (swap16 (loadU16 (rewriteHeaders flag nat data) (Ipv4Hdr.check ipv4))).toNat =
      ipChecksum (rewriteHeaders flag nat data) := by
  have outVerifies : Verifies (ipHeader (rewriteHeaders flag nat data)) :=
    (ipHeader_verifies_iff room ihl).mpr verifies
  have inside : Ipv4Hdr.check ipv4 + 2 ≤ (rewriteHeaders flag nat data).length := by
    rw [rewriteHeaders_length]
    exact le_trans (by decide) room
  have complete := ((verifies_iff _).mp outVerifies).2
  rw [wordSum_ipHeader, ← wordSum_ipHeader_zeroed inside] at complete
  refine eq_checksum ?_ (swap16_short (ipCheck_update room).1) complete
  rw [wordSum_ipHeader_zeroed inside]
  exact ipRest_positive (ihl_rewriteHeaders ihl)

theorem udpCheck_exact (room : UdpHdr.check udp + 2 ≤ data.length)
    (checked : loadU16 data (UdpHdr.check udp) ≠ 0) (verifies : Verifies (udpCovered data payload)) :
    (swap16 (loadU16 (rewriteHeaders flag nat data) (UdpHdr.check udp))).toNat =
      udpChecksum (rewriteHeaders flag nat data) payload := by
  have outVerifies : Verifies (udpCovered (rewriteHeaders flag nat data) payload) :=
    (udpCovered_verifies_iff room checked).mpr verifies
  have inside : UdpHdr.check udp + 2 ≤ (rewriteHeaders flag nat data).length := by
    rwa [rewriteHeaders_length]
  obtain ⟨⟨short, bound, check⟩, _⟩ := @udpCheck_update flag nat data payload room checked
  have complete := ((verifies_iff _).mp outVerifies).2
  have positive : 0 < wordSum (udpCovered
      (storeU16 (rewriteHeaders flag nat data) (UdpHdr.check udp) 0) payload) := by
    rw [wordSum_udpCovered_zeroed inside]
    exact udpRest_positive
  rw [wordSum_udpCovered, ← wordSum_udpCovered_zeroed inside, check] at complete
  rw [check, udpChecksum]
  by_cases zero : short = 0
  · -- the two representations of zero: 65535 on the wire, 0 from scratch
    rw [if_pos zero] at complete ⊢
    have fullWord : (swap16 0xFFFF).toNat = 65535 := by decide
    rw [fullWord] at complete ⊢
    have nothing := eq_checksum positive (by decide : 0 < 65535) (by omega)
    rw [if_pos nothing.symm]
  · rw [if_neg zero] at complete ⊢
    have computed := eq_checksum positive (swap16_short bound) complete
    rw [← computed, if_neg]
    intro swapped
    have same : swap16 short = swap16 0 := UInt16.toNat_inj.mp swapped
    exact zero (swap16_inj.mp same)

theorem udpCheck_ne_zero (room : UdpHdr.check udp + 2 ≤ data.length)
    (checked : loadU16 data (UdpHdr.check udp) ≠ 0) :
    loadU16 (rewriteHeaders flag nat data) (UdpHdr.check udp) ≠ 0 := by
  obtain ⟨⟨short, _, check⟩, _⟩ := @udpCheck_update flag nat data 0 room checked
  rw [check]
  by_cases zero : short = 0
  · rw [if_pos zero]
    decide
  · rwa [if_neg zero]

/-- Both routines keep both checksums exact: what verified leaves with the
checksum from scratch, what did not verify does not verify afterwards, and a
datagram without a checksum leaves without one. -/
theorem incremental_checksums_exact
    (room : udp + UdpHdr.len + payload ≤ data.length)
    (ihl : byteAt data (Ipv4Hdr.vihl ipv4) &&& 0x0F = 5) :
    let after := rewriteHeaders flag nat data
    (Verifies (ipHeader data) →
      (swap16 (loadU16 after (Ipv4Hdr.check ipv4))).toNat = ipChecksum after) ∧
    (loadU16 data (UdpHdr.check udp) ≠ 0 → Verifies (udpCovered data payload) →
      (swap16 (loadU16 after (UdpHdr.check udp))).toNat = udpChecksum after payload ∧
        loadU16 after (UdpHdr.check udp) ≠ 0) ∧
    (¬ Verifies (ipHeader data) → ¬ Verifies (ipHeader after)) ∧
    (loadU16 data (UdpHdr.check udp) ≠ 0 → ¬ Verifies (udpCovered data payload) →
      ¬ Verifies (udpCovered after payload)) ∧
    (loadU16 data (UdpHdr.check udp) = 0 → loadU16 after (UdpHdr.check udp) = 0) := by
  have checkRoom : UdpHdr.check udp + 2 ≤ data.length := le_trans (Nat.le_add_right _ payload) room
  refine ⟨ipCheck_exact checkRoom ihl, fun checked verifies =>
    ⟨udpCheck_exact checkRoom checked verifies, udpCheck_ne_zero checkRoom checked⟩, ?_, ?_, ?_⟩
  · rw [ipHeader_verifies_iff checkRoom ihl]
    exact id
  · intro checked
    rw [udpCovered_verifies_iff checkRoom checked]
    exact id
  · intro unchecked
    rw [rewriteHeaders_eq, applyIp_udpCheck (layout_of_room checkRoom)]
    simp [unchecked]

end Update

def oddDatagram : List UInt8 :=
  [82, 84, 0, 0, 0, 1, 82, 84, 0, 0, 0, 2, 8, 0,
    69, 0, 0, 31, 0, 0, 0, 0, 64, 17, 164, 12, 8, 8, 8, 8, 192, 168, 6, 10,
    15, 160, 39, 16, 0, 11, 46, 3, 97, 98, 99]

theorem odd_datagram_checksums_exact :
    let after := rewriteHeaders .dnat ⟨0xAC140014, 5201, ⟨#v[82, 84, 0, 0, 0, 1],
      #v[2, 66, 172, 20, 0, 20]⟩, 0xAC140014⟩ oddDatagram
    (swap16 (loadU16 after (Ipv4Hdr.check ipv4))).toNat = ipChecksum after ∧
      (swap16 (loadU16 after (UdpHdr.check udp))).toNat = udpChecksum after 3 := by
  have exactness := @incremental_checksums_exact .dnat ⟨0xAC140014, 5201,
    ⟨#v[82, 84, 0, 0, 0, 1], #v[2, 66, 172, 20, 0, 20]⟩, 0xAC140014⟩ oddDatagram 3
    (by decide) (by decide)
  have header : Verifies (ipHeader oddDatagram) := by unfold Verifies; decide +kernel
  have datagram : Verifies (udpCovered oddDatagram 3) := by unfold Verifies; decide +kernel
  exact ⟨exactness.1 header, (exactness.2.1 (by decide) datagram).1⟩

end XdpNatd.Ebpf
