import XdpNatd.Ebpf.Program

namespace XdpNatd.Daemon

open XdpNatd.Data XdpNatd.Ebpf

/-! The expiry task of `setup_pnic`, one step at a time. A sweep first iterates
over the table and collects the keys whose timeout has passed, reading the clock
once for each entry, and then removes the collected keys. -/

inductive Expiry where
  /-- Waiting for the next tick. -/
  | idle
  /-- Iterating: the keys that the iteration must still reach, those that it has
  examined, and `to_remove` so far. -/
  | scanning (pending visited : Finset ConnectionTuple) (toRemove : List ConnectionTuple)
  /-- Removing: the keys of `to_remove` that are left. -/
  | removing (toRemove : List ConnectionTuple)
deriving DecidableEq

/-- The removal loop is over when no key is left. -/
def Expiry.remaining : List ConnectionTuple → Expiry
  | [] => .idle
  | toRemove => .removing toRemove

/-- The filter `v.timeout <= get_nsecs()`. -/
def expired (state : FlowState) (now : UInt64) : Bool := state.timeout ≤ now

def beginSweep (conntrack : Conntrack) : Expiry → Expiry
  | .idle => .scanning conntrack.keys ∅ []
  | expiry => expiry

/-- The iterator yields an entry that it has not yielded before. -/
def examine (conntrack : Conntrack) (key : ConnectionTuple) (now : UInt64) : Expiry → Expiry
  | .scanning pending visited toRemove =>
      match conntrack.get key with
      | some state =>
          if key ∈ visited then .scanning pending visited toRemove
          else .scanning (pending.erase key) (insert key visited)
            (if expired state now then toRemove ++ [key] else toRemove)
      | none => .scanning pending visited toRemove
  | expiry => expiry

/-- The iteration ends once it has reached every entry that was there from the
start; entries that came later may have been reached or not. -/
def endScan : Expiry → Expiry
  | .scanning pending visited toRemove =>
      if pending = ∅ then .remaining toRemove else .scanning pending visited toRemove
  | expiry => expiry

def removeNext (conntrack : Conntrack) : Expiry → Conntrack × Expiry
  | .removing (key :: toRemove) => (conntrack.remove key, .remaining toRemove)
  | expiry => (conntrack, expiry)

/-- A whole sweep in one step at one clock reading. -/
def sweepAtOnce (conntrack : Conntrack) (now : UInt64) : Conntrack :=
  conntrack.retain fun state => !expired state now

theorem get_sweepAtOnce {conntrack : Conntrack} {now : UInt64} {key : ConnectionTuple}
    {state : FlowState} :
    (sweepAtOnce conntrack now).get key = some state ↔
      conntrack.get key = some state ∧ expired state now = false := by
  rw [sweepAtOnce, BoundedMap.get_retain, Option.filter_eq_some_iff, Bool.not_eq_true']

end XdpNatd.Daemon
