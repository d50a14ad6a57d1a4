import Mathlib.Data.Finset.Option
import XdpNatd.Data.Footprint
import XdpNatd.Ebpf.Passes

namespace XdpNatd.Ebpf

open XdpNatd.Data

def Outcome.keys (flag : Flags) : Outcome → Finset ConnectionTuple
  | .passes => ∅
  | .hits key state => {key, reverseKey flag key state.nat}
  | .opens flow => {flow.key flag, flow.key flag.other}

/-- The keys that a frame reads and writes: its own, and the reverse key of the entry
that it hits or the second key of the flow that it opens. -/
def footprint (flag : Flags) (kernel : Kernel) (maps : Maps) (ctx : XdpContext) :
    Finset ConnectionTuple :=
  (frameTuple ctx.data).toFinset ∪ (outcome flag kernel maps ctx).keys flag

def Maps.withConntrack (maps : Maps) (udpConntrack : Conntrack) : Maps := { maps with udpConntrack }

/-- What a frame gets back: verdict, redirect target and the frame handed on. -/
def Verdict.answer (verdict : Verdict) : XdpAction × Option UInt32 × List UInt8 :=
  (verdict.action, verdict.devmapKey, verdict.data)

def process (flag : Flags) (kernel : Kernel) (maps : Maps) (ctx : XdpContext) (conntrack : Conntrack) :
    Conntrack × XdpAction × Option UInt32 × List UInt8 :=
  let verdict := tryXdpRedirect kernel (maps.withConntrack conntrack) ctx flag
  (verdict.udpConntrack, verdict.answer)

section Tables

variable {left right : Conntrack} {time : UInt64} {key reverse other origKey replyKey : ConnectionTuple}
variable {origNat replyNat : NATData} {state : FlowState}

theorem touch_congr (leftFound : left.get key = some state) (rightFound : right.get key = some state)
    (same : left.get reverse = right.get reverse) (within : other = key ∨ other = reverse) :
    (touch left time key reverse state).get other = (touch right time key reverse state).get other := by
  cases refreshed : refresh time state with
  | none =>
      rw [touch_unrefreshed refreshed, touch_unrefreshed refreshed]
      rcases within with rfl | rfl
      · rw [leftFound, rightFound]
      · exact same
  | some written =>
      by_cases own : other = key
      · subst own
        rw [get_touch_key leftFound refreshed, get_touch_key rightFound refreshed]
      · have isReverse := within.resolve_left own
        subst isReverse
        rw [(get_touch leftFound own refreshed).2, (get_touch rightFound own refreshed).2, same]

theorem record_congr (leftMissed : left.get origKey = none) (rightMissed : right.get origKey = none)
    (same : left.get replyKey = right.get replyKey) (leftRoom : left.size + 2 ≤ 65536)
    (rightRoom : right.size + 2 ≤ 65536) (within : other = origKey ∨ other = replyKey) :
    (record left time origKey origNat replyKey replyNat).get other =
      (record right time origKey origNat replyKey replyNat).get other := by
  by_cases own : other = origKey
  · subst own
    rw [record_forward leftMissed (by omega), record_forward rightMissed (by omega)]
  · have isReply := within.resolve_left own
    subst isReply
    cases found : left.get other with
    | some state =>
        rw [record_present found, record_present (same.symm.trans found)]
    | none =>
        rw [record_backward leftMissed found own (by omega),
          record_backward rightMissed (same.symm.trans found) own (by omega)]

end Tables

section Frame

variable {flag : Flags} {kernel : Kernel} {maps : Maps} {ctx : XdpContext} {conntrack : Conntrack}

theorem newFlow_withConntrack :
    newFlow flag kernel (maps.withConntrack conntrack) ctx = newFlow flag kernel maps ctx := by
  cases flag <;> rfl

theorem outcome_congr
    (same : ∀ key ∈ frameTuple ctx.data, conntrack.get key = maps.udpConntrack.get key) :
    outcome flag kernel (maps.withConntrack conntrack) ctx = outcome flag kernel maps ctx := by
  cases tuple : frameTuple ctx.data with
  | none => simp only [outcome, tuple]
  | some key =>
      have lookups : (maps.withConntrack conntrack).udpConntrack.get key = maps.udpConntrack.get key :=
        same key tuple
      simp only [outcome, tuple, lookups, newFlow_withConntrack]

theorem tuple_mem_footprint {key : ConnectionTuple} (tuple : frameTuple ctx.data = some key) :
    key ∈ footprint flag kernel maps ctx :=
  Finset.mem_union_left _ (Option.mem_toFinset.mpr tuple)

theorem size_tryXdpRedirect_le :
    (tryXdpRedirect kernel maps ctx flag).udpConntrack.size ≤ maps.udpConntrack.size + 2 := by
  rw [tryXdpRedirect_conntrack]
  cases outcome flag kernel maps ctx with
  | passes => exact Nat.le_add_right _ 2
  | hits key state => exact size_touch.le.trans (Nat.le_add_right _ 2)
  | opens flow => exact size_record_le

theorem answer_congr (same : outcome flag kernel (maps.withConntrack conntrack) ctx =
      outcome flag kernel maps ctx) :
    (tryXdpRedirect kernel (maps.withConntrack conntrack) ctx flag).answer =
      (tryXdpRedirect kernel maps ctx flag).answer := by
  have translations : translation flag kernel (maps.withConntrack conntrack) ctx =
      translation flag kernel maps ctx := by
    rw [translation_eq, translation_eq, same]
  simp only [Verdict.answer, tryXdpRedirect_action, tryXdpRedirect_devmapKey, tryXdpRedirect_data,
    translations]
  rfl

theorem footprint_of_hit {key : ConnectionTuple} {state : FlowState}
    (tuple : frameTuple ctx.data = some key) (hits : outcome flag kernel maps ctx = .hits key state) :
    footprint flag kernel maps ctx = {key, reverseKey flag key state.nat} := by
  ext candidate
  simp only [footprint, tuple, hits, Outcome.keys, Option.toFinset_some, Finset.mem_union,
    Finset.mem_singleton, Finset.mem_insert]
  tauto

theorem footprint_of_flow {flow : NewFlow} (tuple : frameTuple ctx.data = some (flow.key flag))
    (opens : outcome flag kernel maps ctx = .opens flow) :
    footprint flag kernel maps ctx = {flow.key flag, flow.key flag.other} := by
  ext candidate
  simp only [footprint, tuple, opens, Outcome.keys, Option.toFinset_some, Finset.mem_union,
    Finset.mem_singleton, Finset.mem_insert]
  tauto

/-- A program is local to the footprint of its frame, in tables with room for
the two entries that it may insert. -/
theorem process_local (flag : Flags) (kernel : Kernel) (maps : Maps) (ctx : XdpContext)
    (room : maps.udpConntrack.size + 2 ≤ 65536) :
    LocalAt BoundedMap.get (fun conntrack : Conntrack => conntrack.size + 2 ≤ 65536)
      (footprint flag kernel maps ctx : Set ConnectionTuple) (process flag kernel maps ctx)
      maps.udpConntrack := by
  have outcomes : ∀ conntrack : Conntrack,
      AgreeOn BoundedMap.get (footprint flag kernel maps ctx : Set ConnectionTuple) conntrack
        maps.udpConntrack →
      outcome flag kernel (maps.withConntrack conntrack) ctx = outcome flag kernel maps ctx :=
    fun conntrack agree => outcome_congr fun key tuple => agree key (tuple_mem_footprint tuple)
  have tables : ∀ conntrack : Conntrack,
      AgreeOn BoundedMap.get (footprint flag kernel maps ctx : Set ConnectionTuple) conntrack
        maps.udpConntrack →
      (process flag kernel maps ctx conntrack).1 =
        (outcome flag kernel maps ctx).conntrack flag conntrack kernel.ktimeGetCoarseNs := by
    intro conntrack agree
    rw [← outcomes conntrack agree]
    exact tryXdpRedirect_conntrack
  refine ⟨?_, ?_, fun conntrack _ agree => answer_congr (outcomes conntrack agree)⟩
  · intro conntrack _ agree key outside
    rw [tables conntrack agree]
    rcases outcome_cases flag kernel maps ctx with
      passes | ⟨hitKey, state, hits, tuple, _⟩ | ⟨flow, opens, _, tuple, _⟩
    · rw [passes]
      rfl
    · rw [Finset.mem_coe, footprint_of_hit tuple hits, Finset.mem_insert, Finset.mem_singleton,
        not_or] at outside
      rw [hits]
      exact get_touch_other outside.1 outside.2
    · rw [Finset.mem_coe, footprint_of_flow tuple opens, Finset.mem_insert, Finset.mem_singleton,
        not_or] at outside
      rw [opens]
      exact get_record_other outside.1 outside.2
  · intro conntrack roomAfter agree key inside
    change (process flag kernel maps ctx conntrack).1.get key =
      (process flag kernel maps ctx maps.udpConntrack).1.get key
    rw [tables conntrack agree, tables maps.udpConntrack (.refl _)]
    have lookups := agree
    rcases outcome_cases flag kernel maps ctx with
      passes | ⟨hitKey, state, hits, tuple, found⟩ | ⟨flow, opens, _, tuple, missed⟩
    · rw [passes]
      exact agree key inside
    · rw [footprint_of_hit tuple hits] at inside lookups
      rw [hits]
      simp only [Finset.coe_insert, Finset.coe_singleton, Set.mem_insert_iff,
        Set.mem_singleton_iff] at inside
      exact touch_congr ((lookups hitKey (by simp)).trans found) found (lookups _ (by simp)) inside
    · rw [footprint_of_flow tuple opens] at inside lookups
      rw [opens]
      simp only [Finset.coe_insert, Finset.coe_singleton, Set.mem_insert_iff,
        Set.mem_singleton_iff] at inside
      exact record_congr ((lookups _ (by simp)).trans missed) missed (lookups _ (by simp))
        roomAfter room inside

end Frame

/-- Frames with disjoint footprints commute: verdicts, frames and table are the
same in either order. -/
theorem independent_frames_commute {leftFlag rightFlag : Flags} {leftKernel rightKernel : Kernel}
    {leftCtx rightCtx : XdpContext} {maps : Maps} (room : maps.udpConntrack.size + 4 ≤ 65536)
    (independent : Disjoint (footprint leftFlag leftKernel maps leftCtx)
      (footprint rightFlag rightKernel maps rightCtx)) :
    let left := tryXdpRedirect leftKernel maps leftCtx leftFlag
    let right := tryXdpRedirect rightKernel maps rightCtx rightFlag
    let rightSecond := tryXdpRedirect rightKernel (maps.withConntrack left.udpConntrack) rightCtx rightFlag
    let leftSecond := tryXdpRedirect leftKernel (maps.withConntrack right.udpConntrack) leftCtx leftFlag
    rightSecond.answer = right.answer ∧ leftSecond.answer = left.answer ∧
      rightSecond.udpConntrack = leftSecond.udpConntrack := by
  intro left right rightSecond leftSecond
  have leftSize : left.udpConntrack.size ≤ maps.udpConntrack.size + 2 := size_tryXdpRedirect_le
  have rightSize : right.udpConntrack.size ≤ maps.udpConntrack.size + 2 := size_tryXdpRedirect_le
  obtain ⟨rightAnswer, leftAnswer, tables⟩ :=
    (process_local leftFlag leftKernel maps leftCtx (by omega)).commute
      (process_local rightFlag rightKernel maps rightCtx (by omega))
      (fun key left right => Finset.disjoint_left.mp independent left right) (by omega) (by omega)
      (Nat.add_le_add_right rightSize 2 |>.trans room) (Nat.add_le_add_right leftSize 2 |>.trans room)
  exact ⟨rightAnswer, leftAnswer, BoundedMap.ext_get tables⟩

open Testbed in
/-- An answer to node A and a first datagram for node B. -/
theorem answer_and_request_commute :
    let maps := (exposing.step
      (.frame .snat (fromContainer 10 ⟨nodeA, remote, 4000, 53⟩ 0x1234) (kernelAt 0))).maps
    let answer := fromNic ⟨remote, hostIp, 53, 4000⟩ 0x1234
    let request := fromNic ⟨remote, hostIp, 7000, 10000⟩ 0x1234
    let answered := (tryXdpRedirect (kernelAt 1) maps answer .dnat).udpConntrack
    let requested := (tryXdpRedirect (kernelAt 2) maps request .dnat).udpConntrack
    (tryXdpRedirect (kernelAt 2) (maps.withConntrack answered) request .dnat).udpConntrack =
      (tryXdpRedirect (kernelAt 1) (maps.withConntrack requested) answer .dnat).udpConntrack :=
  (@independent_frames_commute .dnat .dnat (kernelAt 1) (kernelAt 2)
    (fromNic ⟨remote, hostIp, 53, 4000⟩ 0x1234) (fromNic ⟨remote, hostIp, 7000, 10000⟩ 0x1234)
    (exposing.step (.frame .snat (fromContainer 10 ⟨nodeA, remote, 4000, 53⟩ 0x1234)
      (kernelAt 0))).maps (by decide +kernel) (by decide +kernel)).2.2

end XdpNatd.Ebpf
