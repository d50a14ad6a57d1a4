import XdpNatd.Data.Overwriting
import XdpNatd.Ebpf.Passes

namespace XdpNatd.Ebpf

open XdpNatd.Data

section Csum

variable {csum csum' : UInt16} {old old' new new' : UInt32} {nat nat' : NATData}

/-- An update sees its checksum and the old word only through their sum. -/
theorem csumReplace4_congr
    (same : csum.toNat + old.toNat ≡ csum'.toNat + old'.toNat [MOD 65535]) :
    csumReplace4 csum.toUInt32 old new = csumReplace4 csum'.toUInt32 old' new := by
  obtain ⟨short, sum⟩ := csumReplace4_spec csum old new
  obtain ⟨short', sum'⟩ := csumReplace4_spec csum' old' new
  have congruent := Nat.ModEq.add_right_cancel' new.toNat (sum.trans (same.trans sum'.symm))
  exact UInt16.toNat_inj.mp (congruent.eq_of_lt_of_lt short short')

theorem csumReplace4_absorbs :
    csumReplace4 (csumReplace4 csum.toUInt32 old new).toUInt32 new new' =
      csumReplace4 csum.toUInt32 old new' :=
  csumReplace4_congr (csumReplace4_spec csum old new).2

theorem csumReplace4_commutes :
    csumReplace4 (csumReplace4 csum.toUInt32 old new).toUInt32 old' new' =
      csumReplace4 (csumReplace4 csum.toUInt32 old' new').toUInt32 old new := by
  obtain ⟨_, inner⟩ := csumReplace4_spec csum old new
  obtain ⟨_, inner'⟩ := csumReplace4_spec csum old' new'
  obtain ⟨short, outer⟩ := csumReplace4_spec (csumReplace4 csum.toUInt32 old new) old' new'
  obtain ⟨short', outer'⟩ := csumReplace4_spec (csumReplace4 csum.toUInt32 old' new') old new
  apply UInt16.toNat_inj.mp
  rw [Nat.ModEq] at inner inner' outer outer'
  omega

/-- The update of the UDP checksum trades port and address, and its result is the
representative that is not zero. -/
theorem updatedUdpCheck_spec (nat : NATData) (check port : UInt16) (addr : UInt32) :
    0 < (updatedUdpCheck nat check port addr).toNat ∧
      (updatedUdpCheck nat check port addr).toNat + (swap16 nat.natPort).toNat +
          (swap32 nat.natAddr).toNat ≡
        check.toNat + port.toNat + addr.toNat [MOD 65535] := by
  obtain ⟨_, ports⟩ := csumReplace4_spec check port.toUInt32 (swap16 nat.natPort).toUInt32
  unfold updatedUdpCheck
  dsimp only
  generalize csumReplace4 check.toUInt32 port.toUInt32 (swap16 nat.natPort).toUInt32 = first at ports ⊢
  obtain ⟨_, addrs⟩ := csumReplace4_spec first addr (swap32 nat.natAddr)
  generalize csumReplace4 first.toUInt32 addr (swap32 nat.natAddr) = second at addrs ⊢
  rw [UInt16.toNat_toUInt32, UInt16.toNat_toUInt32] at ports
  rw [Nat.ModEq] at ports addrs ⊢
  split
  · next zero =>
      subst zero
      have long : (0xFFFF : UInt16).toNat = 65535 := rfl
      rw [UInt16.toNat_zero] at addrs
      omega
  · next positive =>
      have nonzero : second.toNat ≠ 0 := fun none => positive (UInt16.toNat_inj.mp none)
      omega

theorem updatedUdpCheck_ne_zero {check port : UInt16} {addr : UInt32} :
    updatedUdpCheck nat check port addr ≠ 0 := by
  intro zero
  have positive := (updatedUdpCheck_spec nat check port addr).1
  rw [zero] at positive
  exact absurd positive (by decide)

theorem eq_of_positive_modEq {left right : UInt16} (positive : 0 < left.toNat)
    (positive' : 0 < right.toNat) (same : left.toNat ≡ right.toNat [MOD 65535]) : left = right := by
  have bound := left.toNat_lt
  have bound' := right.toNat_lt
  apply UInt16.toNat_inj.mp
  rw [Nat.ModEq] at same
  omega

theorem updatedUdpCheck_absorbs {check port : UInt16} {addr : UInt32} :
    updatedUdpCheck nat' (updatedUdpCheck nat check port addr) (swap16 nat.natPort)
      (swap32 nat.natAddr) = updatedUdpCheck nat' check port addr := by
  obtain ⟨_, first⟩ := updatedUdpCheck_spec nat check port addr
  obtain ⟨positive, second⟩ := updatedUdpCheck_spec nat' (updatedUdpCheck nat check port addr)
    (swap16 nat.natPort) (swap32 nat.natAddr)
  obtain ⟨positive', alone⟩ := updatedUdpCheck_spec nat' check port addr
  refine eq_of_positive_modEq positive positive' ?_
  rw [Nat.ModEq] at first second alone ⊢
  omega

theorem updatedUdpCheck_commutes {check port port' : UInt16} {addr addr' : UInt32} :
    updatedUdpCheck nat' (updatedUdpCheck nat check port addr) port' addr' =
      updatedUdpCheck nat (updatedUdpCheck nat' check port' addr') port addr := by
  obtain ⟨_, first⟩ := updatedUdpCheck_spec nat check port addr
  obtain ⟨_, first'⟩ := updatedUdpCheck_spec nat' check port' addr'
  obtain ⟨positive, second⟩ := updatedUdpCheck_spec nat' (updatedUdpCheck nat check port addr) port' addr'
  obtain ⟨positive', second'⟩ := updatedUdpCheck_spec nat (updatedUdpCheck nat' check port' addr') port addr
  refine eq_of_positive_modEq positive positive' ?_
  rw [Nat.ModEq] at first first' second second' ⊢
  omega

end Csum

/-- The two halves of a translation: an endpoint with the checksums, and the MAC
addresses. -/
inductive Rewriting where
  | endpoint (flag : Flags) (nat : NATData)
  | macs (fib : FibMacs)

def Rewriting.kind : Rewriting → Option Flags
  | .endpoint flag _ => some flag
  | .macs _ => none

def Rewriting.apply (data : List UInt8) : Rewriting → List UInt8
  | .endpoint flag nat =>
      applyIp nat (Ipv4Hdr.check ipv4) (UdpHdr.check udp) (addrPtr flag) (portPtr flag) data
  | .macs fib => rewriteMacs (EthHdr.srcAddr eth) (EthHdr.dstAddr eth) fib data

/-- The words of a frame that a translation of some side may write. -/
@[ext] structure FrameWords where
  srcMac : Vector UInt8 6
  dstMac : Vector UInt8 6
  ipCheck : UInt16
  udpCheck : UInt16
  addr : Flags → UInt32
  port : Flags → UInt16

def frameWords (data : List UInt8) : FrameWords where
  srcMac := loadArray 6 data (EthHdr.srcAddr eth)
  dstMac := loadArray 6 data (EthHdr.dstAddr eth)
  ipCheck := loadU16 data (Ipv4Hdr.check ipv4)
  udpCheck := loadU16 data (UdpHdr.check udp)
  addr flag := loadU32 data (addrPtr flag)
  port flag := loadU16 data (portPtr flag)

def FrameWords.write (words : FrameWords) : Rewriting → FrameWords
  | .endpoint flag nat =>
      { words with
        ipCheck := csumReplace4 words.ipCheck.toUInt32 (words.addr flag) (swap32 nat.natAddr)
        udpCheck :=
          if words.udpCheck ≠ 0 then
            updatedUdpCheck nat words.udpCheck (words.port flag) (words.addr flag)
          else 0
        addr := Function.update words.addr flag (swap32 nat.natAddr)
        port :=
          if words.udpCheck ≠ 0 then Function.update words.port flag (swap16 nat.natPort)
          else words.port }
  | .macs fib => { words with srcMac := fib.fibSmac, dstMac := fib.fibDmac }

/-- The frame has in it what the rewriting would write. -/
def FrameWords.Carries (words : FrameWords) : Rewriting → Prop
  | .endpoint flag nat =>
      words.addr flag = swap32 nat.natAddr ∧
        (words.udpCheck ≠ 0 → words.port flag = swap16 nat.natPort) ∧ words.ipCheck ≠ 0xFFFF
  | .macs fib => words.srcMac = fib.fibSmac ∧ words.dstMac = fib.fibDmac

section Words

variable {data left right : List UInt8} {offset : Nat} {flag : Flags} {nat : NATData} {fib : FibMacs}
variable {first later : Rewriting}

theorem FrameWords.write_absorbs {words : FrameWords} (same : later.kind = first.kind) :
    (words.write first).write later = words.write later := by
  cases first with
  | macs fib =>
      cases later with
      | macs fib' => rfl
      | endpoint flag' nat' => cases same
  | endpoint flag nat =>
      cases later with
      | macs fib' => cases same
      | endpoint flag' nat' =>
          cases same
          by_cases checked : words.udpCheck = 0 <;>
            simp [FrameWords.write, checked, updatedUdpCheck_ne_zero, updatedUdpCheck_absorbs,
              csumReplace4_absorbs, Function.update_idem]

theorem FrameWords.write_commutes {words : FrameWords} (different : later.kind ≠ first.kind) :
    (words.write first).write later = (words.write later).write first := by
  cases first with
  | macs fib =>
      cases later with
      | macs fib' => exact absurd rfl different
      | endpoint flag' nat' => rfl
  | endpoint flag nat =>
      cases later with
      | macs fib' => rfl
      | endpoint flag' nat' =>
          have apart : flag' ≠ flag := fun same => different (congrArg some same)
          by_cases checked : words.udpCheck = 0 <;>
            simp [FrameWords.write, checked, updatedUdpCheck_ne_zero, Function.update_of_ne apart,
              Function.update_of_ne apart.symm, csumReplace4_commutes, Function.update_comm apart,
              updatedUdpCheck_commutes]

theorem FrameWords.write_eq_self_iff {words : FrameWords} : words.write first = words ↔ words.Carries first := by
  rw [FrameWords.ext_iff]
  cases first with
  | macs fib => simp [FrameWords.write, FrameWords.Carries, eq_comm]
  | endpoint flag nat =>
      simp only [FrameWords.write, FrameWords.Carries, true_and, Function.update_eq_self_iff]
      constructor
      · intro unchanged
        obtain ⟨ipCheck, _, addr, ports⟩ := unchanged
        refine ⟨addr.symm, fun checked => ?_, fun long => ?_⟩
        · rw [if_pos checked, Function.update_eq_self_iff] at ports
          exact ports.symm
        · rw [← addr, csumReplace4_self, if_pos long, long] at ipCheck
          cases ipCheck
      · intro carries
        obtain ⟨addr, port, short⟩ := carries
        refine ⟨by rw [addr, csumReplace4_self, if_neg short], ?_, addr.symm, ?_⟩
        · split
          · next checked => exact updatedUdpCheck_self checked (port checked) addr
          · next unchecked => exact (not_not.mp unchecked).symm
        · split
          · next checked => exact Function.update_eq_self_iff.mpr (port checked).symm
          · rfl

@[simp] theorem Rewriting.apply_length : (first.apply data).length = data.length := by
  cases first <;> simp [Rewriting.apply, rewriteMacs]

private theorem rewriteMacs_beyond (beyond : 12 ≤ offset) :
    (rewriteMacs (EthHdr.srcAddr eth) (EthHdr.dstAddr eth) fib data)[offset]? = data[offset]? := by
  simp only [rewriteMacs, storeArray]
  rw [storeBytes_getElem?_outside (Or.inr (by simpa [EthHdr.dstAddr, eth] using by omega)),
    storeBytes_getElem?_outside (Or.inr (by simpa [EthHdr.srcAddr, eth] using by omega))]

/-- Nothing else is written. -/
theorem Rewriting.apply_preserved (preserved : ∀ flag, Preserved flag offset) :
    (first.apply data)[offset]? = data[offset]? := by
  cases first with
  | macs fib => exact rewriteMacs_beyond (preserved .snat).1
  | endpoint flag nat => exact applyIp_untouched (preserved flag).2

private theorem words_endpoint (room : EthHdr.len + Ipv4Hdr.len + UdpHdr.len ≤ data.length) :
    frameWords ((Rewriting.endpoint flag nat).apply data) = (frameWords data).write (.endpoint flag nat) := by
  have layout := @layout_of_room flag data room
  have early (offset : Nat) (inside : offset < 12) : ((Rewriting.endpoint flag nat).apply data)[offset]? =
      data[offset]? := by
    apply applyIp_untouched
    cases flag <;> simp [Untouched, addrPtr, portPtr, Ipv4Hdr.check, UdpHdr.check, ipv4, udp,
      EthHdr.len, Ipv4Hdr.len, Ipv4Hdr.srcAddr, Ipv4Hdr.dstAddr, UdpHdr.src, UdpHdr.dst] <;> omega
  have peer (other : Flags) (apart : other ≠ flag) (lane : Nat) :
      (lane < 4 → ((Rewriting.endpoint flag nat).apply data)[addrPtr other + lane]? =
        data[addrPtr other + lane]?) ∧
      (lane < 2 → ((Rewriting.endpoint flag nat).apply data)[portPtr other + lane]? =
        data[portPtr other + lane]?) := by
    refine ⟨fun inside => applyIp_untouched ?_, fun inside => applyIp_untouched ?_⟩ <;>
      cases flag <;> cases other <;> simp [Untouched, addrPtr, portPtr, Ipv4Hdr.check, UdpHdr.check,
        ipv4, udp, EthHdr.len, Ipv4Hdr.len, Ipv4Hdr.srcAddr, Ipv4Hdr.dstAddr, UdpHdr.src,
        UdpHdr.dst] at apart ⊢ <;> omega
  apply FrameWords.ext
  · exact loadArray_congr fun lane inside => early _ (by simp only [EthHdr.srcAddr, eth]; omega)
  · exact loadArray_congr fun lane inside => early _ (by simp only [EthHdr.dstAddr, eth]; omega)
  · exact applyIp_ipCheck layout
  · exact applyIp_udpCheck layout
  · funext other
    by_cases own : other = flag
    · subst own
      refine (applyIp_addr layout).trans ?_
      simp [FrameWords.write]
    · refine (loadU32_congr fun lane => (peer other own lane).1).trans ?_
      simp [frameWords, FrameWords.write, Function.update_of_ne own]
  · funext other
    by_cases own : other = flag
    · subst own
      refine (applyIp_port layout).trans ?_
      by_cases checked : loadU16 data (UdpHdr.check udp) = 0 <;> simp [frameWords, FrameWords.write, checked]
    · refine (loadU16_congr fun lane => (peer other own lane).2).trans ?_
      by_cases checked : loadU16 data (UdpHdr.check udp) = 0 <;>
        simp [frameWords, FrameWords.write, checked, Function.update_of_ne own]

private theorem words_macs (room : EthHdr.len + Ipv4Hdr.len + UdpHdr.len ≤ data.length) :
    frameWords ((Rewriting.macs fib).apply data) = (frameWords data).write (.macs fib) := by
  simp only [EthHdr.len, Ipv4Hdr.len, UdpHdr.len] at room
  have later (offset : Nat) (beyond : 12 ≤ offset) :
      ((Rewriting.macs fib).apply data)[offset]? = data[offset]? := rewriteMacs_beyond beyond
  apply FrameWords.ext
  · change loadArray 6 (storeArray (storeArray data _ _) _ _) _ = _
    rw [storeArray, loadArray_storeBytes_outside (Or.inr (by simp [EthHdr.srcAddr, EthHdr.dstAddr]))]
    exact loadArray_storeArray (by simp only [EthHdr.srcAddr, eth]; omega)
  · exact loadArray_storeArray (by simp only [storeArray_length, EthHdr.dstAddr, eth]; omega)
  · exact loadU16_congr fun lane _ => later _ (Nat.le_add_right_of_le (by decide))
  · exact loadU16_congr fun lane _ => later _ (Nat.le_add_right_of_le (by decide))
  · funext flag
    exact loadU32_congr fun lane _ => later _ (Nat.le_add_right_of_le (by cases flag <;> decide))
  · funext flag
    exact loadU16_congr fun lane _ => later _ (Nat.le_add_right_of_le (by cases flag <;> decide))

/-- What a rewriting does to a frame is what it does to the words of the frame. -/
theorem words_apply (room : EthHdr.len + Ipv4Hdr.len + UdpHdr.len ≤ data.length) :
    frameWords (first.apply data) = (frameWords data).write first := by
  cases first with
  | macs fib => exact words_macs room
  | endpoint flag nat => exact words_endpoint room

theorem eq_of_words (size : left.length = right.length) (same : frameWords left = frameWords right)
    (outside : ∀ offset, (∀ flag, Preserved flag offset) → left[offset]? = right[offset]?) :
    left = right := by
  have addr (flag : Flags) : loadU32 left (addrPtr flag) = loadU32 right (addrPtr flag) :=
    congrFun (congrArg FrameWords.addr same) flag
  have port (flag : Flags) : loadU16 left (portPtr flag) = loadU16 right (portPtr flag) :=
    congrFun (congrArg FrameWords.port same) flag
  refine eq_of_byteAt size fun offset => ?_
  by_cases preserved : ∀ flag, Preserved flag offset
  · exact byteAt_congr (outside offset preserved)
  · obtain ⟨flag, rewritten⟩ := not_forall.mp preserved
    rcases window_of_not_preserved rewritten with
      ⟨lane, inside, rfl⟩ | ⟨lane, inside, rfl⟩ | ⟨lane, inside, rfl⟩ | ⟨lane, inside, rfl⟩ |
      ⟨lane, inside, rfl⟩ | ⟨lane, inside, rfl⟩
    · exact byteAt_of_loadArray (congrArg FrameWords.srcMac same) inside
    · exact byteAt_of_loadArray (congrArg FrameWords.dstMac same) inside
    · exact byteAt_of_loadU16 (congrArg FrameWords.ipCheck same) inside
    · exact byteAt_of_loadU32 (addr flag) inside
    · exact byteAt_of_loadU16 (port flag) inside
    · exact byteAt_of_loadU16 (congrArg FrameWords.udpCheck same) inside

/-- Rewritings overwrite each other: the checksums agree as well. -/
def rewritings : Overwriting (Option Flags) Rewriting (List UInt8) where
  kind := Rewriting.kind
  write := Rewriting.apply
  Legal data := EthHdr.len + Ipv4Hdr.len + UdpHdr.len ≤ data.length
  legal data next room := by simpa using room
  absorbs data first later room same := by
    refine eq_of_words (by simp) ?_ fun offset preserved => ?_
    · rw [words_apply (by simpa using room), words_apply room, words_apply room,
        FrameWords.write_absorbs same]
    · simp only [Rewriting.apply_preserved preserved]
  commutes data first later room different := by
    refine eq_of_words (by simp) ?_ fun offset preserved => ?_
    · rw [words_apply (by simpa using room), words_apply room, words_apply (by simpa using room),
        words_apply room, FrameWords.write_commutes different]
    · simp only [Rewriting.apply_preserved preserved]

theorem words_inj (size : left.length = right.length)
    (outside : ∀ offset, (∀ flag, Preserved flag offset) → left[offset]? = right[offset]?) :
    frameWords left = frameWords right ↔ left = right :=
  ⟨fun same => eq_of_words size same outside, fun same => same ▸ rfl⟩

theorem apply_eq_self_iff (room : EthHdr.len + Ipv4Hdr.len + UdpHdr.len ≤ data.length) :
    first.apply data = data ↔ (frameWords data).Carries first := by
  rw [← words_inj Rewriting.apply_length fun _ preserved => Rewriting.apply_preserved preserved,
    words_apply room, FrameWords.write_eq_self_iff]

end Words

/-- A program that sees the datagram, on a host with these maps. -/
structure Crossing where
  flag : Flags
  kernel : Kernel
  maps : Maps
  ingressIfindex : UInt32

section Path

variable {data : List UInt8} {crossing : Crossing} {path : List Crossing}

namespace Crossing

def ctx (crossing : Crossing) (data : List UInt8) : XdpContext :=
  { data, ingressIfindex := crossing.ingressIfindex }

/-- The frame that comes out of the program. -/
def out (data : List UInt8) (crossing : Crossing) : List UInt8 :=
  (tryXdpRedirect crossing.kernel crossing.maps (crossing.ctx data) crossing.flag).data

/-- The rewritings that the program makes. -/
def rewrites (data : List UInt8) (crossing : Crossing) : List Rewriting :=
  match translation crossing.flag crossing.kernel crossing.maps (crossing.ctx data) with
  | none => []
  | some nat => [.endpoint crossing.flag nat, .macs nat.fibMacs]

theorem out_eq : crossing.out data = run Rewriting.apply data (crossing.rewrites data) := by
  have written : crossing.out data = _ := tryXdpRedirect_data
  rw [written]
  unfold rewrites
  cases translation crossing.flag crossing.kernel crossing.maps (crossing.ctx data) <;> rfl

theorem rewrites_short (short : ¬ EthHdr.len + Ipv4Hdr.len + UdpHdr.len ≤ data.length) :
    crossing.rewrites data = [] := by
  unfold rewrites
  cases translated : translation crossing.flag crossing.kernel crossing.maps (crossing.ctx data) with
  | none => rfl
  | some nat =>
      have accepted : Accepted (crossing.ctx data).data := by
        rcases translation_cases translated with ⟨_, _, _, tuple, _⟩ | ⟨_, _, _, tuple, _⟩ <;>
          exact accepted_of_frameTuple tuple
      exact absurd accepted.room short

end Crossing

/-- The rewritings that a datagram meets along a path. -/
def rewritesAlong (data : List UInt8) (path : List Crossing) : List Rewriting :=
  trace Crossing.out (fun data crossing => crossing.rewrites data) data path

theorem run_out : run Crossing.out data path = run Rewriting.apply data (rewritesAlong data path) := by
  induction path generalizing data with
  | nil => rfl
  | cons crossing path ih =>
      have split : rewritesAlong data (crossing :: path) =
          crossing.rewrites data ++ rewritesAlong (crossing.out data) path := rfl
      rw [run_cons, split, run_append, ← Crossing.out_eq]
      exact ih

theorem rewritesAlong_short (short : ¬ EthHdr.len + Ipv4Hdr.len + UdpHdr.len ≤ data.length) :
    rewritesAlong data path = [] := by
  induction path with
  | nil => rfl
  | cons crossing path ih =>
      have none := @Crossing.rewrites_short data crossing short
      have kept : crossing.out data = data := by rw [Crossing.out_eq, none, run_nil]
      have split : rewritesAlong data (crossing :: path) =
          crossing.rewrites data ++ rewritesAlong (crossing.out data) path := rfl
      rw [split, none, kept, ih, List.nil_append]

/-- However many programs a datagram crosses, on whatever hosts, it comes out as if
the last rewriting of each kind had been made alone: the last translation of its
source, the last one of its destination, and the last MAC addresses. -/
theorem last_translations_decide (data : List UInt8) (path : List Crossing) :
    run Crossing.out data path =
      run Rewriting.apply data (rewritings.latest (rewritesAlong data path)) := by
  rw [run_out]
  by_cases room : EthHdr.len + Ipv4Hdr.len + UdpHdr.len ≤ data.length
  · exact @Overwriting.run_latest _ _ _ rewritings data _ _ room
  · rw [rewritesAlong_short room]
    rfl

/-- A datagram comes back to its first bytes exactly when the last translations
write what it had at first, and it had not the IPv4 checksum 0xFFFF, which every
update replaces by 0. -/
theorem restored_iff (data : List UInt8) (path : List Crossing) :
    run Crossing.out data path = data ↔
      ∀ rewriting ∈ rewritings.latest (rewritesAlong data path), (frameWords data).Carries rewriting := by
  rw [run_out]
  by_cases room : EthHdr.len + Ipv4Hdr.len + UdpHdr.len ≤ data.length
  · refine (@Overwriting.run_eq_self_iff _ _ _ rewritings data _ _ room).trans ?_
    exact forall₂_congr fun rewriting _ => apply_eq_self_iff room
  · rw [rewritesAlong_short room]
    simp [Overwriting.latest]

/-- The checksums of the one frame are as good as those of the other. -/
structure ChecksAlike (payload : Nat) (before after : List UInt8) : Prop where
  header : Verifies (ipHeader after) ↔ Verifies (ipHeader before)
  unchecked : loadU16 after (UdpHdr.check udp) = 0 ↔ loadU16 before (UdpHdr.check udp) = 0
  datagram : loadU16 before (UdpHdr.check udp) ≠ 0 →
    (Verifies (udpCovered after payload) ↔ Verifies (udpCovered before payload))

section Checks

variable {payload : Nat} {before between after : List UInt8} {flag : Flags} {nat : NATData}

theorem ChecksAlike.refl (data : List UInt8) : ChecksAlike payload data data :=
  ⟨Iff.rfl, Iff.rfl, fun _ => Iff.rfl⟩

theorem ChecksAlike.trans (first : ChecksAlike payload before between)
    (second : ChecksAlike payload between after) : ChecksAlike payload before after where
  header := second.header.trans first.header
  unchecked := second.unchecked.trans first.unchecked
  datagram checked :=
    (second.datagram fun none => checked (first.unchecked.mp none)).trans (first.datagram checked)

private theorem window_translateFrame {offset count : Nat} (beyond : 12 ≤ offset) :
    window (translateFrame flag nat data) offset count =
      window (rewriteHeaders flag nat data) offset count := by
  rw [rewriteHeaders_eq]
  exact window_congr fun lane _ => rewriteMacs_beyond (Nat.le_add_right_of_le beyond)

/-- A translation keeps good checksums good, and mends no bad one. -/
theorem checksAlike_translateFrame (accepted : Accepted data) :
    ChecksAlike payload data (translateFrame flag nat data) := by
  have room : UdpHdr.check udp + 2 ≤ data.length := accepted.room
  have check : loadU16 (translateFrame flag nat data) (UdpHdr.check udp) =
      loadU16 (rewriteHeaders flag nat data) (UdpHdr.check udp) := by
    rw [rewriteHeaders_eq]
    exact loadU16_congr fun lane _ => rewriteMacs_beyond (Nat.le_add_right_of_le (by decide))
  have header : ipHeader (translateFrame flag nat data) = ipHeader (rewriteHeaders flag nat data) :=
    window_translateFrame (by decide)
  have covered : udpCovered (translateFrame flag nat data) payload =
      udpCovered (rewriteHeaders flag nat data) payload := by
    simp only [udpCovered, pseudoHeader]
    rw [window_translateFrame (by decide), window_translateFrame (by decide),
      window_translateFrame (by decide), window_translateFrame (by decide)]
  refine ⟨?_, ?_, fun checked => ?_⟩
  · rw [header]
    exact ipHeader_verifies_iff room accepted.vihl
  · rw [check]
    by_cases unchecked : loadU16 data (UdpHdr.check udp) = 0
    · rw [rewriteHeaders_eq, applyIp_udpCheck (layout_of_room room)]
      simp [unchecked]
    · exact iff_of_false (udpCheck_ne_zero room unchecked) unchecked
  · rw [covered]
    exact udpCovered_verifies_iff room checked

theorem checksAlike_out (data : List UInt8) (crossing : Crossing) :
    ChecksAlike payload data (crossing.out data) := by
  have written : crossing.out data = _ := tryXdpRedirect_data
  rw [written]
  cases translated : translation crossing.flag crossing.kernel crossing.maps (crossing.ctx data) with
  | none => exact .refl data
  | some nat =>
      refine checksAlike_translateFrame ?_
      rcases translation_cases translated with ⟨_, _, _, tuple, _⟩ | ⟨_, _, _, tuple, _⟩ <;>
        exact accepted_of_frameTuple tuple

/-- However many programs a datagram crosses, each checksum verifies at the end
exactly when it did at first, and a datagram without a UDP checksum stays without. -/
theorem checksums_along_path (data : List UInt8) (path : List Crossing) (payload : Nat) :
    ChecksAlike payload data (run Crossing.out data path) := by
  induction path generalizing data with
  | nil => exact .refl data
  | cons crossing path ih => exact (checksAlike_out data crossing).trans (ih (crossing.out data))

end Checks

end Path

end XdpNatd.Ebpf
