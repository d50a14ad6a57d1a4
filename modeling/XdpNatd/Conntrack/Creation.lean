import XdpNatd.Ebpf.Rewrite
import XdpNatd.Testbed

namespace XdpNatd

open XdpNatd.Data XdpNatd.Ebpf

section

variable {flag : Flags} {kernel : Kernel} {maps : Maps} {ctx : XdpContext} {key : ConnectionTuple}

/-- Both halves of the flow are in the table and the frame was translated, or the
table is as before and the kernel gets the frame as it came. -/
def AllOrNothing (flag : Flags) (kernel : Kernel) (maps : Maps) (ctx : XdpContext) : Prop :=
  let verdict := tryXdpRedirect kernel maps ctx flag
  (∃ flow ∈ newFlow flag kernel maps ctx,
    translation flag kernel maps ctx = some (flow.nat flag) ∧
    natAt verdict.udpConntrack (flow.key flag) = some (flow.nat flag) ∧
    natAt verdict.udpConntrack (flow.key flag.other) = some (flow.nat flag.other)) ∨
  (translation flag kernel maps ctx = none ∧ verdict.udpConntrack = maps.udpConntrack ∧
    verdict.data = ctx.data ∧ verdict.action = .pass)

/-- The table has a slot for the forward entry of the flow that the frame would
open, if it would open one; and for the reply entry it has a free key and a
second slot, or this very NAT data, under the reply key or about to come there
because the two keys coincide. -/
def FlowFits (flag : Flags) (kernel : Kernel) (maps : Maps) (ctx : XdpContext) : Prop :=
  ∀ flow ∈ newFlow flag kernel maps ctx,
    maps.udpConntrack.size < 65536 ∧
    ((maps.udpConntrack.get (flow.key flag.other) = none ∧ maps.udpConntrack.size + 1 < 65536 ∧
        flow.key flag.other ≠ flow.key flag) ∨
      natAt maps.udpConntrack (flow.key flag.other) = some (flow.nat flag.other) ∨
      (flow.key flag.other = flow.key flag ∧ flow.nat flag.other = flow.nat flag))

instance : Decidable (FlowFits flag kernel maps ctx) :=
  inferInstanceAs (Decidable (∀ flow ∈ newFlow flag kernel maps ctx, _ ∧ (_ ∨ _ ∨ _)))

theorem passed_of_untranslated (untranslated : translation flag kernel maps ctx = none) :
    (tryXdpRedirect kernel maps ctx flag).data = ctx.data ∧
      (tryXdpRedirect kernel maps ctx flag).action = .pass := by
  refine ⟨by rw [tryXdpRedirect_data, untranslated], ?_⟩
  cases parsed : parseUdp ctx.data with
  | none => simp only [tryXdpRedirect, parsed]
  | some addresses =>
      obtain ⟨srcIp, dstIp⟩ := addresses
      simp only [translation, parsed, Option.bind_some] at untranslated
      simp only [tryXdpRedirect, parsed, untranslated]

/-- With a slot for the forward entry, the reply entry is in the table after the
flow was recorded exactly when the table had a place for it or held it. -/
theorem record_reply_iff {conntrack : Conntrack} {time : UInt64} {origKey replyKey : ConnectionTuple}
    {origNat replyNat : NATData} (missed : conntrack.get origKey = none)
    (room : conntrack.size < 65536) :
    natAt (record conntrack time origKey origNat replyKey replyNat) replyKey = some replyNat ↔
      (conntrack.get replyKey = none ∧ conntrack.size + 1 < 65536 ∧ replyKey ≠ origKey) ∨
        natAt conntrack replyKey = some replyNat ∨ (replyKey = origKey ∧ replyNat = origNat) := by
  have forward : natAt (record conntrack time origKey origNat replyKey replyNat) origKey =
      some origNat := natAt_eq_some.mpr ⟨_, record_forward missed room, rfl⟩
  by_cases same : replyKey = origKey
  · subst same
    simp [forward, natAt_eq_none.mpr missed, eq_comm]
  cases taken : conntrack.get replyKey with
  | some state =>
      have kept : (record conntrack time origKey origNat replyKey replyNat).get replyKey = some state :=
        record_present taken
      simp [same, natAt, kept, taken]
  | none =>
      by_cases second : conntrack.size + 1 < 65536
      · have backward : natAt (record conntrack time origKey origNat replyKey replyNat) replyKey =
            some replyNat := natAt_eq_some.mpr ⟨_, record_backward missed taken same second, rfl⟩
        simp [same, backward, second]
      · have refused : (record conntrack time origKey origNat replyKey replyNat).get replyKey = _ :=
          record_no_slot missed same room second
        simp [same, natAt, refused, taken, second]

/-- A frame that misses the table leaves all of a flow behind, or nothing,
exactly when the flow that it would open fits into the table. -/
theorem flow_creation_all_or_nothing_iff (tuple : frameTuple ctx.data = some key)
    (missed : maps.udpConntrack.get key = none) :
    AllOrNothing flag kernel maps ctx ↔ FlowFits flag kernel maps ctx := by
  have shape : outcome flag kernel maps ctx = _ := outcome_missed tuple missed
  cases opened : newFlow flag kernel maps ctx with
  | none =>
      simp only [opened] at shape
      have untranslated : translation flag kernel maps ctx = none := by
        rw [translation_eq, shape]
        rfl
      have unchanged : (tryXdpRedirect kernel maps ctx flag).udpConntrack = maps.udpConntrack := by
        rw [tryXdpRedirect_conntrack, shape]
        rfl
      refine iff_of_true (Or.inr ⟨untranslated, unchanged, passed_of_untranslated untranslated⟩) ?_
      simp [FlowFits, opened]
  | some flow =>
      simp only [opened] at shape
      have free := (opens_spec shape).2
      have translated : translation flag kernel maps ctx = some (flow.nat flag) := by
        rw [translation_eq, shape]
        rfl
      simp only [AllOrNothing, FlowFits, opened, Option.mem_some_iff, exists_eq_left', forall_eq',
        translated, opens_conntrack shape, true_and, reduceCtorEq, false_and, or_false]
      by_cases room : maps.udpConntrack.size < 65536
      · rw [record_reply_iff free room]
        have forward : natAt (record maps.udpConntrack kernel.ktimeGetCoarseNs (flow.key flag)
            (flow.nat flag) (flow.key flag.other) (flow.nat flag.other)) (flow.key flag) =
              some (flow.nat flag) := natAt_eq_some.mpr ⟨_, record_forward free room, rfl⟩
        simp [forward, room]
      · -- both insertions are refused, and the frame is translated all the same
        rw [record_full room]
        simp [natAt_eq_none.mpr free, room]

end

open Testbed in
theorem first_datagram_all_or_nothing :
    AllOrNothing .snat (kernelAt 0) host.maps (fromContainer 10 ⟨nodeA, remote, 4000, 53⟩ 0x1234) :=
  (flow_creation_all_or_nothing_iff (frameTuple_fromContainer _ _ _) rfl).mpr (by decide +kernel)

open Testbed in
/-- Node B opens a flow from the port that node A has already taken: its reply
entry is refused, its forward entry stays, and its datagram leaves translated. -/
theorem shared_port_leaves_half_a_flow :
    ¬ ∀ (flag : Flags) (kernel : Kernel) (maps : Maps) (ctx : XdpContext) (key : ConnectionTuple),
      frameTuple ctx.data = some key → maps.udpConntrack.get key = none →
        AllOrNothing flag kernel maps ctx := by
  intro always
  let taken := (host.step
    (.frame .snat (fromContainer 10 ⟨nodeA, remote, 4000, 53⟩ 0x1234) (kernelAt 0))).maps
  let ctx := fromContainer 20 ⟨nodeB, remote, 4000, 53⟩ 0x1234
  rcases always .snat (kernelAt 1) taken ctx _ (frameTuple_fromContainer _ _ _) (by decide +kernel) with
    ⟨flow, opened, _, _, reply⟩ | ⟨untranslated, _⟩
  · have refused : ∀ flow ∈ newFlow .snat (kernelAt 1) taken ctx,
        natAt (tryXdpRedirect (kernelAt 1) taken ctx .snat).udpConntrack flow.dkey ≠ some flow.dnat := by
      decide +kernel
    exact refused flow opened reply
  · have translated : (translation .snat (kernelAt 1) taken ctx).isSome := by decide +kernel
    rw [untranslated] at translated
    cases translated

end XdpNatd
