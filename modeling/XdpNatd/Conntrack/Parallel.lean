import XdpNatd.Ebpf.Execution
import XdpNatd.Ebpf.Rewrite
import XdpNatd.System.Steps
import XdpNatd.Testbed

namespace XdpNatd

open XdpNatd.Data XdpNatd.Ebpf XdpNatd.Daemon

/-! # Any number of CPUs

Executions of both programs share the table, and the accesses of one fall between
the accesses of others.  Timeouts can then be lost; NAT data cannot.  While
nothing is removed, an execution takes effect for good at one access: at its lookup if
that hits, and when it builds its flow if not.  In the order of these accesses the
same frames, taken one at a time, are translated alike and leave the same NAT data,
as long as no two different flows that are being opened meet under a key.
-/

structure Execution where
  flag : Flags
  ctx : XdpContext
  kernel : Kernel
  phase : Phase

/-- The host with the executions so far, in the order of their arrival. -/
structure Parallel where
  system : System
  executions : List Execution

inductive Move where
  /-- A frame arrives and starts an execution. -/
  | arrives (flag : Flags) (ctx : XdpContext) (kernel : Kernel)
  /-- An execution makes its next access. -/
  | advances (index : Nat)
  /-- Anything else than a frame happens to the host. -/
  | other (event : Event)

namespace Execution

def event (execution : Execution) : Event := .frame execution.flag execution.ctx execution.kernel

def next (system : System) (execution : Execution) : Conntrack × Phase :=
  advance execution.kernel system.maps execution.ctx execution.flag execution.phase

/-- The clock reading of the next access, if that is one. -/
def reading (execution : Execution) : Option UInt64 :=
  match execution.phase with
  | .clocksHit _ | .clocksFlow _ => some execution.kernel.ktimeGetCoarseNs
  | _ => none

/-- What the execution has yet to insert. -/
def pending (execution : Execution) : List (ConnectionTuple × NATData) :=
  match execution.phase with
  | .clocksFlow flow | .records flow =>
      [(flow.key execution.flag, flow.nat execution.flag),
        (flow.key execution.flag.other, flow.nat execution.flag.other)]
  | .answers flow => [(flow.key execution.flag.other, flow.nat execution.flag.other)]
  | _ => []

/-- How the frame is translated, once that is settled: from a hit on, with the
data of the entry that the pointer goes to. -/
def result (conntrack : Conntrack) (execution : Execution) : Option (Option NATData) :=
  match execution.phase with
  | .looksUp | .opens => none
  | .clocksHit key | .reads key | .compares key _ | .marks key _ | .renews key _ | .loads key _ =>
      (natAt conntrack key).map some
  | .turns _ nat | .fetchesSeen _ _ nat | .storesSeen _ _ nat _ | .fetchesTimeout _ _ nat
  | .storesTimeout _ nat _ => some (some nat)
  | .clocksFlow flow | .records flow | .answers flow => some (some (flow.nat execution.flag))
  | .done nat => some nat

def decided (execution : Execution) : Bool :=
  match execution.phase with
  | .looksUp | .opens => false
  | _ => true

def finished (execution : Execution) : Option (Option NATData) :=
  match execution.phase with
  | .done nat => some nat
  | _ => none

/-- Whether the next access settles how the frame is translated. -/
def settles (system : System) (execution : Execution) : Bool :=
  match execution.phase with
  | .looksUp =>
      match frameTuple execution.ctx.data with
      | none => true
      | some key => (system.udpConntrack.get key).isSome
  | .opens => true
  | _ => false

end Execution

def Parallel.step (parallel : Parallel) : Move → Parallel
  | .arrives flag ctx kernel =>
      { parallel with executions := parallel.executions ++ [{ flag, ctx, kernel, phase := .looksUp }] }
  | .advances index =>
      match parallel.executions[index]? with
      | none => parallel
      | some execution =>
          let next := execution.next parallel.system
          { system := { parallel.system with
              udpConntrack := next.1
              clock := laterReading parallel.system.clock execution.reading }
            executions := parallel.executions.set index { execution with phase := next.2 } }
  | .other event => { parallel with system := parallel.system.step event }

/-- An event of the host, and the execution that it is the effect of. -/
structure Effect where
  execution : Option Nat
  event : Event

def Parallel.effects (parallel : Parallel) : Move → List Effect
  | .arrives .. => []
  | .advances index =>
      match parallel.executions[index]? with
      | none => []
      | some execution =>
          if execution.settles parallel.system then [⟨some index, execution.event⟩] else []
  | .other event => [⟨none, event⟩]

/-- The host after the events of the effects, one at a time. -/
def serial (start : System) (order : List Effect) : System :=
  run System.step start (order.map Effect.event)

/-- What is in the table under a key, or will be. -/
def Parallel.Files (parallel : Parallel) (key : ConnectionTuple) (nat : NATData) : Prop :=
  natAt parallel.system.udpConntrack key = some nat ∨
    ∃ execution ∈ parallel.executions, (key, nat) ∈ execution.pending

def Parallel.keys (parallel : Parallel) : Finset ConnectionTuple :=
  parallel.system.udpConntrack.keys ∪
    (parallel.executions.flatMap fun execution => execution.pending.map Prod.fst).toFinset

/-- A flow that is filed already, or that is new and that there is room for. -/
def Parallel.Admits (parallel : Parallel) (flow : NewFlow) : Prop :=
  (parallel.Files flow.skey flow.snat ∧ parallel.Files flow.dkey flow.dnat) ∨
    (flow.skey ∉ parallel.keys ∧ flow.dkey ∉ parallel.keys ∧ flow.skey ≠ flow.dkey ∧
      parallel.keys.card + 2 ≤ 65536)

/-- An execution about to open a flow finds that the flow does not meet another
one, and that its frame belongs to no flow if it opens none. -/
def Parallel.Compatible (parallel : Parallel) (execution : Execution) : Prop :=
  match execution.phase with
  | .opens =>
      match newFlow execution.flag execution.kernel parallel.system.maps execution.ctx with
      | some flow => parallel.Admits flow
      | none => ∀ key ∈ frameTuple execution.ctx.data, key ∉ parallel.keys
  | _ => True

def Event.IsFrame : Event → Prop
  | .frame .. => True
  | _ => False

def Move.Compatible (parallel : Parallel) : Move → Prop
  | .arrives .. => True
  | .advances index => ∀ execution ∈ parallel.executions[index]?, parallel.Compatible execution
  | .other event => event.KeepsEntries ∧ ¬ event.IsFrame

section Decidable

variable {parallel : Parallel}

instance (key : ConnectionTuple) (nat : NATData) : Decidable (parallel.Files key nat) :=
  inferInstanceAs (Decidable (_ ∨ _))

instance (flow : NewFlow) : Decidable (parallel.Admits flow) :=
  inferInstanceAs (Decidable (_ ∨ _))

instance (execution : Execution) : Decidable (parallel.Compatible execution) := by
  unfold Parallel.Compatible
  split
  · split <;> infer_instance
  · infer_instance

instance : DecidablePred Event.IsFrame := fun event =>
  decidable_of_bool (match event with | .frame .. => true | _ => false)
    (by cases event <;> simp [Event.IsFrame])

instance : DecidablePred (Move.Compatible parallel) := fun move =>
  match move with
  | .arrives .. => isTrue trivial
  | .advances index => inferInstanceAs (Decidable (∀ execution ∈ parallel.executions[index]?, _))
  | .other event => inferInstanceAs (Decidable (event.KeepsEntries ∧ ¬ event.IsFrame))

end Decidable

variable {start system : System} {parallel : Parallel} {execution : Execution} {index : Nat}
variable {order : List Effect} {key : ConnectionTuple} {nat : NATData} {moves : List Move}

/-- How an access settles the translation, and what it leaves to be inserted. -/
inductive Settles (system : System) (execution : Execution) :
    Option NATData → List (ConnectionTuple × NATData) → Prop where
  | untracked (tuple : frameTuple execution.ctx.data = none) : Settles system execution none []
  | hits {key : ConnectionTuple} {state : FlowState} (tuple : frameTuple execution.ctx.data = some key)
      (found : system.udpConntrack.get key = some state) : Settles system execution (some state.nat) []
  | declines (phase : execution.phase = .opens)
      (declined : newFlow execution.flag execution.kernel system.maps execution.ctx = none) :
      Settles system execution none []
  | opens {flow : NewFlow} (phase : execution.phase = .opens)
      (opened : newFlow execution.flag execution.kernel system.maps execution.ctx = some flow) :
      Settles system execution (some (flow.nat execution.flag))
        [(flow.key execution.flag, flow.nat execution.flag),
          (flow.key execution.flag.other, flow.nat execution.flag.other)]

/-- What an access does, as far as NAT data goes: nothing, it inserts the first of
what is pending, or it settles the translation. -/
inductive Access (system : System) (execution : Execution) : Conntrack → Execution → Prop where
  | keeps {conntrack : Conntrack} {after : Execution}
      (same : ∀ key, natAt conntrack key = natAt system.udpConntrack key)
      (pending : after.pending = execution.pending)
      (result : after.result conntrack = execution.result system.udpConntrack)
      (decided : after.decided = execution.decided)
      (unsettled : execution.settles system = false) : Access system execution conntrack after
  | inserts {after : Execution} {key : ConnectionTuple} {state : FlowState}
      (pending : execution.pending = (key, state.nat) :: after.pending)
      (result : after.result (system.udpConntrack.tryInsert key state) =
        execution.result system.udpConntrack)
      (decided : after.decided = execution.decided)
      (unsettled : execution.settles system = false) :
      Access system execution (system.udpConntrack.tryInsert key state) after
  | settles {after : Execution} {translated : Option NATData}
      (settling : Settles system execution translated after.pending)
      (undecided : execution.decided = false) (idle : execution.pending = [])
      (result : after.result system.udpConntrack = some translated) (decided : after.decided = true)
      (settles : execution.settles system = true) : Access system execution system.udpConntrack after

theorem natAt_modify {conntrack : Conntrack} {change : FlowState → FlowState} {other : ConnectionTuple}
    (keeps : ∀ state, (change state).nat = state.nat) :
    natAt (conntrack.modify key change) other = natAt conntrack other := by
  by_cases same : other = key
  · subst same
    rw [natAt, BoundedMap.get_modify_self, Option.map_map, natAt]
    exact Option.map_congr fun state _ => keeps state
  · rw [natAt, BoundedMap.get_modify_other same, natAt]

theorem execution_access (system : System) (execution : Execution) :
    Access system execution (execution.next system).1
      { execution with phase := (execution.next system).2 } := by
  obtain ⟨flag, ctx, kernel, phase⟩ := execution
  unfold Execution.next
  cases phase with
  | looksUp =>
      simp only [advance]
      cases tuple : frameTuple ctx.data with
      | none =>
          have settles : Execution.settles system ⟨flag, ctx, kernel, .looksUp⟩ = true := by
            simp only [Execution.settles, tuple]
          exact .settles (.untracked tuple) rfl rfl rfl rfl settles
      | some key =>
          cases found : system.udpConntrack.get key with
          | some state =>
              have settles : Execution.settles system ⟨flag, ctx, kernel, .looksUp⟩ = true := by
                simp only [Execution.settles, tuple, found, Option.isSome_some]
              have stored : natAt system.udpConntrack key = some state.nat := by
                rw [natAt, found]
                rfl
              simp only [System.maps, found]
              exact .settles (.hits tuple found) rfl rfl (congrArg (Option.map some) stored) rfl settles
          | none =>
              have unsettled : Execution.settles system ⟨flag, ctx, kernel, .looksUp⟩ = false := by
                simp only [Execution.settles, tuple, found, Option.isSome_none]
              simp only [System.maps, found]
              exact .keeps (fun _ => rfl) rfl rfl rfl unsettled
  | opens =>
      simp only [advance]
      cases opened : newFlow flag kernel system.maps ctx with
      | none => exact .settles (.declines rfl opened) rfl rfl rfl rfl rfl
      | some flow => exact .settles (.opens rfl opened) rfl rfl rfl rfl rfl
  | clocksHit key | clocksFlow flow | done nat => exact .keeps (fun _ => rfl) rfl rfl rfl rfl
  | reads key | fetchesSeen key reverse nat | fetchesTimeout key reverse nat =>
      simp only [advance]
      split <;> exact .keeps (fun _ => rfl) rfl rfl rfl rfl
  | compares key seenReply =>
      simp only [advance]
      split
      · split
        · split <;> exact .keeps (fun _ => rfl) rfl rfl rfl rfl
        · exact .keeps (fun _ => rfl) rfl rfl rfl rfl
      · exact .keeps (fun _ => rfl) rfl rfl rfl rfl
  | marks key timeout | renews key timeout | storesSeen key reverse nat seenReply
  | storesTimeout reverse nat timeout =>
      simp only [advance]
      refine .keeps (fun _ => natAt_modify fun _ => rfl) rfl ?_ rfl rfl
      first
        | rfl
        | exact congrArg (Option.map some) (natAt_modify fun _ => rfl)
  | loads key updateReverse =>
      simp only [advance]
      split
      · next state found =>
          have stored : natAt system.udpConntrack key = some state.nat := by
            rw [natAt, show system.udpConntrack.get key = some state from found]
            rfl
          refine .keeps (fun _ => rfl) ?_ ?_ ?_ rfl
          · cases updateReverse <;> rfl
          · cases updateReverse <;> simp only [Execution.result, stored] <;> rfl
          · cases updateReverse <;> rfl
      · exact .keeps (fun _ => rfl) rfl rfl rfl rfl
  | turns key nat =>
      simp only [advance]
      split <;> exact .keeps (fun _ => rfl) rfl rfl rfl rfl
  | records flow => exact .inserts rfl rfl rfl rfl
  | answers flow => exact .inserts rfl rfl rfl rfl

theorem newFlow_congr {flag : Flags} {kernel : Kernel} {left right : Maps} {ctx : XdpContext}
    (pnic : left.pnicArray = right.pnicArray) (exposures : left.exposeMap = right.exposeMap) :
    newFlow flag kernel left ctx = newFlow flag kernel right ctx := by
  cases flag <;> simp only [newFlow, snatFlow, dnatFlow, pnic, exposures]

theorem natAt_step_passes {flag : Flags} {ctx : XdpContext} {kernel : Kernel}
    (passes : outcome flag kernel system.maps ctx = .passes) :
    natAt (system.step (.frame flag ctx kernel)).udpConntrack key = natAt system.udpConntrack key := by
  rw [step_frame_conntrack, tryXdpRedirect_conntrack, passes]
  rfl

theorem natAt_step_hits {flag : Flags} {ctx : XdpContext} {kernel : Kernel} {hit : ConnectionTuple}
    {state : FlowState} (hits : outcome flag kernel system.maps ctx = .hits hit state) :
    natAt (system.step (.frame flag ctx kernel)).udpConntrack key = natAt system.udpConntrack key := by
  rw [step_frame_conntrack, tryXdpRedirect_conntrack, hits]
  exact natAt_touch (hits_spec hits).2

theorem natAt_step_opens {flag : Flags} {ctx : XdpContext} {kernel : Kernel} {flow : NewFlow}
    (opens : outcome flag kernel system.maps ctx = .opens flow)
    (free : natAt system.udpConntrack (flow.key flag.other) = none)
    (different : flow.key flag.other ≠ flow.key flag)
    (room : system.udpConntrack.size + 2 ≤ 65536) :
    natAt (system.step (.frame flag ctx kernel)).udpConntrack key = some nat ↔
      natAt system.udpConntrack key = some nat ∨
        (key, nat) ∈ [(flow.key flag, flow.nat flag), (flow.key flag.other, flow.nat flag.other)] := by
  have missed : system.udpConntrack.get (flow.key flag) = none := (opens_spec opens).2
  have free : system.udpConntrack.get (flow.key flag.other) = none := natAt_eq_none.mp free
  have written : (system.step (.frame flag ctx kernel)).udpConntrack =
      record system.udpConntrack kernel.ktimeGetCoarseNs (flow.key flag) (flow.nat flag)
        (flow.key flag.other) (flow.nat flag.other) := step_opens_conntrack opens
  rw [written]
  by_cases own : key = flow.key flag
  · subst own
    rw [natAt, record_forward missed (by omega)]
    simp [natAt, missed, different.symm, FlowState.new, eq_comm]
  · by_cases other : key = flow.key flag.other
    · subst other
      rw [natAt, record_backward missed free different (by omega)]
      simp [natAt, free, different, FlowState.new, eq_comm]
    · rw [natAt, get_record_other own other]
      simp [natAt, own, other]

/-- Apart from frames and removals, nothing writes the table. -/
theorem step_table {event : Event} (keeps : event.KeepsEntries) (notFrame : ¬ event.IsFrame) :
    (system.step event).udpConntrack = system.udpConntrack := by
  cases event with
  | frame => exact absurd trivial notFrame
  | sweepAtOnce | removeNext => exact keeps.elim
  | exposePort | unexposePort | writeExposeMap | writePnic | beginSweep | examine | endScan => rfl

/-- The serial host translates the frame of the execution like this, where the
execution took effect. -/
def Places (start : System) (order : List Effect) (index : Nat) (execution : Execution)
    (translated : Option NATData) : Prop :=
  ∃ before after, order = before ++ ⟨some index, execution.event⟩ :: after ∧
    translation execution.flag execution.kernel (serial start before).maps execution.ctx = translated

structure Serializes (start : System) (order : List Effect) (parallel : Parallel) : Prop where
  pnicArray : (serial start order).pnicArray = parallel.system.pnicArray
  control : (serial start order).control = parallel.system.control
  redirectMap : (serial start order).redirectMap = parallel.system.redirectMap
  filed : ∀ key nat, natAt (serial start order).udpConntrack key = some nat ↔ parallel.Files key nat
  placed : ∀ index execution, parallel.executions[index]? = some execution → execution.decided = true →
    ∃ translated, execution.result parallel.system.udpConntrack = some translated ∧
      Places start order index execution translated
  decided : ∀ index, index ∈ order.filterMap Effect.execution →
    ∃ execution, parallel.executions[index]? = some execution ∧ execution.decided = true
  once : (order.filterMap Effect.execution).Nodup

theorem serial_concat {effect : Effect} :
    serial start (order ++ [effect]) = (serial start order).step effect.event := by
  simp [serial]

theorem Places.later {effect : Effect} {translated : Option NATData}
    (places : Places start order index execution translated) :
    Places start (order ++ [effect]) index execution translated := by
  obtain ⟨before, after, rfl, same⟩ := places
  exact ⟨before, after ++ [effect], by simp, same⟩

theorem result_kept {before after : Conntrack} {translated : Option NATData}
    (kept : ∀ key nat, natAt before key = some nat → natAt after key = some nat)
    (settled : execution.result before = some translated) :
    execution.result after = some translated := by
  obtain ⟨flag, ctx, kernel, phase⟩ := execution
  cases phase with
  | looksUp | opens => cases settled
  | clocksHit key | reads key | compares key | marks key | renews key | loads key =>
      obtain ⟨nat, stored, rfl⟩ := Option.map_eq_some_iff.mp settled
      exact Option.map_eq_some_iff.mpr ⟨nat, kept key nat stored, rfl⟩
  | turns | fetchesSeen | storesSeen | fetchesTimeout | storesTimeout | clocksFlow | records | answers
  | done => exact settled

private theorem exists_mem_set {α : Type} {list : List α} {position : Nat} {old new : α}
    {property : α → Prop} (present : list[position]? = some old) :
    (∃ item ∈ list.set position new, property item) ↔
      property new ∨ ∃ other item, other ≠ position ∧ list[other]? = some item ∧ property item := by
  obtain ⟨bound, _⟩ := List.getElem?_eq_some_iff.mp present
  constructor
  · intro holds
    obtain ⟨item, member, holds⟩ := holds
    obtain ⟨other, found⟩ := List.mem_iff_getElem?.mp member
    rw [List.getElem?_set] at found
    split at found
    · cases found
      exact Or.inl holds
    · next different => exact Or.inr ⟨other, item, Ne.symm different, found, holds⟩
  · intro holds
    rcases holds with holds | ⟨other, item, different, found, holds⟩
    · exact ⟨new, List.mem_iff_getElem?.mpr ⟨position, List.getElem?_set_self bound⟩, holds⟩
    · refine ⟨item, List.mem_iff_getElem?.mpr ⟨other, ?_⟩, holds⟩
      rw [List.getElem?_set_ne (Ne.symm different), found]

/-- What is filed, with the part of one execution set apart. -/
theorem files_advance {conntrack : Conntrack} {clock : UInt64} {after : Execution}
    (present : parallel.executions[index]? = some execution) :
    Parallel.Files ⟨{ parallel.system with udpConntrack := conntrack, clock },
        parallel.executions.set index after⟩ key nat ↔
      natAt conntrack key = some nat ∨ (key, nat) ∈ after.pending ∨
        ∃ other execution, other ≠ index ∧ parallel.executions[other]? = some execution ∧
          (key, nat) ∈ execution.pending :=
  or_congr Iff.rfl (exists_mem_set present)

theorem files_split (present : parallel.executions[index]? = some execution) :
    parallel.Files key nat ↔
      natAt parallel.system.udpConntrack key = some nat ∨ (key, nat) ∈ execution.pending ∨
        ∃ other execution, other ≠ index ∧ parallel.executions[other]? = some execution ∧
          (key, nat) ∈ execution.pending := by
  obtain ⟨bound, value⟩ := List.getElem?_eq_some_iff.mp present
  have unchanged : parallel.executions.set index execution = parallel.executions := by
    rw [← value, List.set_getElem_self]
  rw [← @exists_mem_set _ _ _ _ execution (fun other => (key, nat) ∈ other.pending) present, unchanged]
  rfl

theorem mem_keys_iff : key ∈ parallel.keys ↔ ∃ nat, parallel.Files key nat := by
  simp only [Parallel.keys, Finset.mem_union, BoundedMap.mem_keys, List.mem_toFinset, List.mem_flatMap,
    List.mem_map, Parallel.Files, natAt_eq_some]
  constructor
  · intro known
    rcases known with ⟨state, stored⟩ | ⟨execution, member, ⟨_, nat⟩, pending, rfl⟩
    · exact ⟨state.nat, Or.inl ⟨state, stored, rfl⟩⟩
    · exact ⟨nat, Or.inr ⟨execution, member, pending⟩⟩
  · intro known
    obtain ⟨nat, ⟨state, stored, _⟩ | ⟨execution, member, pending⟩⟩ := known
    · exact Or.inl ⟨state, stored⟩
    · exact Or.inr ⟨execution, member, (key, nat), pending, rfl⟩

namespace Serializes

theorem size (serializes : Serializes start order parallel) :
    (serial start order).udpConntrack.size = parallel.keys.card := by
  have same : (serial start order).udpConntrack.keys = parallel.keys := by
    ext key
    rw [mem_keys_iff, BoundedMap.mem_keys]
    constructor
    · intro known
      obtain ⟨state, stored⟩ := known
      exact ⟨state.nat, (serializes.filed key _).mp (natAt_eq_some.mpr ⟨state, stored, rfl⟩)⟩
    · intro known
      obtain ⟨nat, filed⟩ := known
      obtain ⟨state, stored, _⟩ := natAt_eq_some.mp ((serializes.filed key nat).mpr filed)
      exact ⟨state, stored⟩
  rw [BoundedMap.size, same]

theorem missed (serializes : Serializes start order parallel) (unknown : key ∉ parallel.keys) :
    natAt (serial start order).udpConntrack key = none := by
  cases stored : natAt (serial start order).udpConntrack key with
  | none => rfl
  | some nat => exact absurd (mem_keys_iff.mpr ⟨nat, (serializes.filed key nat).mp stored⟩) unknown

theorem newFlow (serializes : Serializes start order parallel) (execution : Execution) :
    Ebpf.newFlow execution.flag execution.kernel (serial start order).maps execution.ctx =
      Ebpf.newFlow execution.flag execution.kernel parallel.system.maps execution.ctx := by
  refine newFlow_congr serializes.pnicArray ?_
  change (serial start order).control.state.exposeMap = parallel.system.control.state.exposeMap
  rw [serializes.control]

/-- The serial host does at once what an access settles. -/
theorem settling {translated : Option NATData} {pending : List (ConnectionTuple × NATData)}
    (serializes : Serializes start order parallel)
    (compatible : parallel.Compatible execution)
    (settling : Settles parallel.system execution translated pending) :
    translation execution.flag execution.kernel (serial start order).maps execution.ctx = translated ∧
      ∀ key nat, natAt ((serial start order).step execution.event).udpConntrack key = some nat ↔
        natAt (serial start order).udpConntrack key = some nat ∨ (key, nat) ∈ pending := by
  obtain ⟨flag, ctx, kernel, phase⟩ := execution
  have unchanged : ∀ key nat, natAt (serial start order).udpConntrack key = some nat ↔
      natAt (serial start order).udpConntrack key = some nat ∨
        (key, nat) ∈ ([] : List (ConnectionTuple × NATData)) := by simp
  rw [translation_eq]
  cases settling with
  | untracked tuple =>
      have passes : outcome flag kernel (serial start order).maps ctx = .passes := by
        simp only [outcome, tuple]
      refine ⟨by rw [passes]; rfl, fun key nat => ?_⟩
      rw [Execution.event, natAt_step_passes passes]
      exact unchanged key nat
  | @hits hit state tuple found =>
      have stored : natAt (serial start order).udpConntrack hit = some state.nat :=
        (serializes.filed hit _).mpr (Or.inl (natAt_eq_some.mpr ⟨state, found, rfl⟩))
      obtain ⟨own, serialFound, sameNat⟩ := natAt_eq_some.mp stored
      have hits : outcome flag kernel (serial start order).maps ctx = .hits hit own :=
        outcome_hits tuple serialFound
      refine ⟨by rw [hits]; exact congrArg some sameNat, fun key nat => ?_⟩
      rw [Execution.event, natAt_step_hits hits]
      exact unchanged key nat
  | declines opens declined =>
      cases opens
      simp only [Parallel.Compatible, declined] at compatible
      have passes : outcome flag kernel (serial start order).maps ctx = .passes := by
        cases tuple : frameTuple ctx.data with
        | none => simp only [outcome, tuple]
        | some key =>
            rw [outcome_missed tuple (natAt_eq_none.mp (serializes.missed (compatible key tuple))),
              serializes.newFlow ⟨flag, ctx, kernel, .opens⟩, declined]
      refine ⟨by rw [passes]; rfl, fun key nat => ?_⟩
      rw [Execution.event, natAt_step_passes passes]
      exact unchanged key nat
  | @opens flow opens opened =>
      cases opens
      simp only [Parallel.Compatible, opened] at compatible
      have tuple : frameTuple ctx.data = some (flow.key flag) := newFlow_key opened
      rcases compatible with ⟨snat, dnat⟩ | ⟨snatFree, dnatFree, apart, room⟩
      · -- the serial host has the flow already
        have known (side : Flags) :
            natAt (serial start order).udpConntrack (flow.key side) = some (flow.nat side) := by
          cases side with
          | snat => exact (serializes.filed _ _).mpr snat
          | dnat => exact (serializes.filed _ _).mpr dnat
        obtain ⟨own, serialFound, sameNat⟩ := natAt_eq_some.mp (known flag)
        have hits : outcome flag kernel (serial start order).maps ctx = .hits (flow.key flag) own :=
          outcome_hits tuple serialFound
        refine ⟨by rw [hits]; exact congrArg some sameNat, fun key nat => ?_⟩
        rw [Execution.event, natAt_step_hits hits]
        simp only [List.mem_cons, Prod.mk.injEq, List.not_mem_nil, or_false]
        constructor
        · exact Or.inl
        · intro filed
          rcases filed with stored | ⟨rfl, rfl⟩ | ⟨rfl, rfl⟩
          · exact stored
          · exact known flag
          · exact known flag.other
      · have free (side : Flags) : natAt (serial start order).udpConntrack (flow.key side) = none := by
          cases side with
          | snat => exact serializes.missed snatFree
          | dnat => exact serializes.missed dnatFree
        have different : flow.key flag.other ≠ flow.key flag := by
          cases flag with
          | snat => exact apart.symm
          | dnat => exact apart
        have opens : outcome flag kernel (serial start order).maps ctx = .opens flow := by
          rw [outcome_missed tuple (natAt_eq_none.mp (free flag)),
            serializes.newFlow ⟨flag, ctx, kernel, .opens⟩, opened]
        refine ⟨by rw [opens]; rfl, fun key nat => ?_⟩
        exact natAt_step_opens opens (free flag.other) different (serializes.size ▸ room)

/-- An insertion that is pending goes through, or finds the same NAT data. -/
theorem natAt_inserted {state : FlowState} (serializes : Serializes start order parallel)
    (filed : parallel.Files key state.nat) (other : ConnectionTuple) :
    natAt (parallel.system.udpConntrack.tryInsert key state) other = some nat ↔
      natAt parallel.system.udpConntrack other = some nat ∨ (other, nat) = (key, state.nat) := by
  have kept {held : FlowState} (stored : parallel.system.udpConntrack.get other = some held) :
      (parallel.system.udpConntrack.tryInsert key state).get other = some held :=
    BoundedMap.get_tryInsert_present stored
  by_cases same : other = key
  · subst same
    have due := (serializes.filed other state.nat).mpr filed
    cases stored : parallel.system.udpConntrack.get other with
    | some held =>
        have here : natAt parallel.system.udpConntrack other = some held.nat :=
          natAt_eq_some.mpr ⟨held, stored, rfl⟩
        have agrees : held.nat = state.nat :=
          Option.some.inj (((serializes.filed other held.nat).mpr (Or.inl here)).symm.trans due)
        simp [natAt, kept stored, stored, agrees, eq_comm]
    | none =>
        have smaller : insert other parallel.system.udpConntrack.keys ⊆
            (serial start order).udpConntrack.keys := by
          intro key member
          rw [BoundedMap.mem_keys]
          rcases Finset.mem_insert.mp member with rfl | earlier
          · obtain ⟨held, serialFound, _⟩ := natAt_eq_some.mp due
            exact ⟨held, serialFound⟩
          · obtain ⟨held, found⟩ := BoundedMap.mem_keys.mp earlier
            obtain ⟨serialHeld, serialFound, _⟩ := natAt_eq_some.mp
              ((serializes.filed key held.nat).mpr (Or.inl (natAt_eq_some.mpr ⟨held, found, rfl⟩)))
            exact ⟨serialHeld, serialFound⟩
        have absent : other ∉ parallel.system.udpConntrack.keys := by
          rw [BoundedMap.mem_keys, stored]
          simp
        have room : parallel.system.udpConntrack.size < 65536 := by
          have count := Finset.card_le_card smaller
          rw [Finset.card_insert_of_notMem absent] at count
          exact count.trans (serial start order).udpConntrack.bounded
        have inserted : (parallel.system.udpConntrack.tryInsert other state).get other = some state :=
          BoundedMap.get_tryInsert_self ⟨stored, room⟩
        simp [natAt, inserted, stored, eq_comm]
  · rw [natAt, BoundedMap.get_tryInsert_other same]
    simp [natAt, same]

theorem arrives {flag : Flags} {ctx : XdpContext} {kernel : Kernel}
    (serializes : Serializes start order parallel) :
    Serializes start order (parallel.step (.arrives flag ctx kernel)) where
  pnicArray := serializes.pnicArray
  control := serializes.control
  redirectMap := serializes.redirectMap
  filed key nat := by
    rw [serializes.filed]
    refine or_congr Iff.rfl ?_
    simp [Parallel.step, Execution.pending]
  placed index execution found decided := by
    rw [Parallel.step, List.getElem?_append] at found
    split at found
    · exact serializes.placed index execution found decided
    · cases List.mem_singleton.mp (List.mem_of_getElem? found)
      cases decided
  decided index member := by
    obtain ⟨execution, found, decided⟩ := serializes.decided index member
    obtain ⟨bound, _⟩ := List.getElem?_eq_some_iff.mp found
    exact ⟨execution, (List.getElem?_append_left bound).trans found, decided⟩
  once := serializes.once

theorem other {event : Event} (serializes : Serializes start order parallel)
    (keeps : event.KeepsEntries) (notFrame : ¬ event.IsFrame) :
    Serializes start (order ++ [⟨none, event⟩]) (parallel.step (.other event)) := by
  have parallelSame : natAt (parallel.system.step event).udpConntrack = natAt parallel.system.udpConntrack :=
    congrArg natAt (step_table keeps notFrame)
  have serialSame : natAt ((serial start order).step event).udpConntrack =
      natAt (serial start order).udpConntrack := congrArg natAt (step_table keeps notFrame)
  have agree : ((serial start order).step event).pnicArray = (parallel.system.step event).pnicArray ∧
      ((serial start order).step event).control = (parallel.system.step event).control ∧
      ((serial start order).step event).redirectMap = (parallel.system.step event).redirectMap := by
    obtain ⟨pnicArray, control, redirectMap, _, _, _, _⟩ := serializes
    cases event <;>
      simp only [System.step, System.act, pnicArray, control, redirectMap, and_self]
  have results (execution : Execution) : execution.result (parallel.system.step event).udpConntrack =
      execution.result parallel.system.udpConntrack := by
    simp only [Execution.result, parallelSame]
  have sameIndices : (order ++ [Effect.mk none event]).filterMap Effect.execution =
      order.filterMap Effect.execution := by simp
  constructor
  · rw [serial_concat]
    exact agree.1
  · rw [serial_concat]
    exact agree.2.1
  · rw [serial_concat]
    exact agree.2.2
  · intro key nat
    rw [serial_concat, serialSame, serializes.filed]
    simp only [Parallel.Files, Parallel.step, parallelSame]
  · intro index execution found decided
    obtain ⟨translated, settled, places⟩ := serializes.placed index execution found decided
    exact ⟨translated, (results execution).trans settled, places.later⟩
  · rw [sameIndices]
    exact serializes.decided
  · rw [sameIndices]
    exact serializes.once

/-- A step of one execution that leaves what the serial host knows filed, and the
places of the other executions as they are. -/
theorem advanced {conntrack : Conntrack} {clock : UInt64} {after : Execution} {later : List Effect}
    (serializes : Serializes start order parallel)
    (present : parallel.executions[index]? = some execution)
    (same : (serial start later).pnicArray = (serial start order).pnicArray ∧
      (serial start later).control = (serial start order).control ∧
      (serial start later).redirectMap = (serial start order).redirectMap)
    (kept : ∀ key nat, natAt parallel.system.udpConntrack key = some nat →
      natAt conntrack key = some nat)
    (filed : ∀ key nat, natAt (serial start later).udpConntrack key = some nat ↔
      natAt conntrack key = some nat ∨ (key, nat) ∈ after.pending ∨
        ∃ other execution, other ≠ index ∧ parallel.executions[other]? = some execution ∧
          (key, nat) ∈ execution.pending)
    (own : after.decided = true → ∃ translated, after.result conntrack = some translated ∧
      Places start later index after translated)
    (others : ∀ index execution translated, Places start order index execution translated →
      Places start later index execution translated)
    (decided : ∀ other, other ∈ later.filterMap Effect.execution →
      other ∈ order.filterMap Effect.execution ∨ other = index)
    (ownDecided : index ∈ later.filterMap Effect.execution → after.decided = true)
    (once : (later.filterMap Effect.execution).Nodup) :
    Serializes start later ⟨{ parallel.system with udpConntrack := conntrack, clock },
      parallel.executions.set index after⟩ := by
  obtain ⟨bound, _⟩ := List.getElem?_eq_some_iff.mp present
  obtain ⟨pnicArray, control, redirectMap⟩ := same
  refine ⟨pnicArray.trans serializes.pnicArray, control.trans serializes.control,
    redirectMap.trans serializes.redirectMap, ?_, ?_, ?_, once⟩
  · intro key nat
    rw [filed, files_advance present]
  · intro other execution found isDecided
    rw [List.getElem?_set] at found
    split at found
    · next same =>
        subst same
        cases found
        exact own isDecided
    · obtain ⟨translated, settled, places⟩ := serializes.placed other execution found isDecided
      exact ⟨translated, result_kept kept settled, others other execution translated places⟩
  · intro other member
    by_cases isIndex : other = index
    · subst isIndex
      exact ⟨after, List.getElem?_set_self bound, ownDecided member⟩
    · obtain ⟨execution, found, isDecided⟩ :=
        serializes.decided other ((decided other member).resolve_right isIndex)
      exact ⟨execution, (List.getElem?_set_ne (Ne.symm isIndex)).trans found, isDecided⟩

theorem advances (serializes : Serializes start order parallel)
    (present : parallel.executions[index]? = some execution)
    (compatible : parallel.Compatible execution) :
    Serializes start (order ++ parallel.effects (.advances index)) (parallel.step (.advances index)) := by
  have access := execution_access parallel.system execution
  have ownPlace : execution.decided = true → ∃ translated,
      execution.result parallel.system.udpConntrack = some translated ∧
        Places start order index execution translated := serializes.placed index execution present
  have split {key : ConnectionTuple} {nat : NATData} := @files_split parallel execution index key nat present
  simp only [Parallel.step, Parallel.effects, present]
  generalize afterShape : ({ execution with phase := (execution.next parallel.system).2 } : Execution) =
    after at access ⊢
  generalize (execution.next parallel.system).1 = conntrack at access ⊢
  have sameFrame : ∀ order translated, Places start order index execution translated →
      Places start order index after translated := by
    intro order translated places
    rw [← afterShape]
    exact places
  cases access with
  | keeps same pending result decided unsettled =>
      rw [unsettled, if_neg Bool.false_ne_true, List.append_nil]
      refine serializes.advanced present ⟨rfl, rfl, rfl⟩ ?_ ?_ ?_ (fun _ _ _ places => places)
        (fun _ member => Or.inl member) ?_ serializes.once
      · intro key nat stored
        rw [same, stored]
      · intro key nat
        rw [serializes.filed, split, same, pending]
      · intro isDecided
        obtain ⟨translated, settled, places⟩ := ownPlace (decided.symm.trans isDecided)
        exact ⟨translated, result.trans settled, sameFrame order translated places⟩
      · intro member
        obtain ⟨_, found, isDecided⟩ := serializes.decided index member
        cases present.symm.trans found
        exact decided.trans isDecided
  | @inserts _ key state pending result decided unsettled =>
      have due : parallel.Files key state.nat := by
        rw [split, pending]
        exact Or.inr (Or.inl List.mem_cons_self)
      rw [unsettled, if_neg Bool.false_ne_true, List.append_nil]
      refine serializes.advanced present ⟨rfl, rfl, rfl⟩ ?_ ?_ ?_ (fun _ _ _ places => places)
        (fun _ member => Or.inl member) ?_ serializes.once
      · intro other nat stored
        exact (serializes.natAt_inserted due other).mpr (Or.inl stored)
      · intro other nat
        rw [serializes.filed, split, pending, serializes.natAt_inserted due other, List.mem_cons, or_assoc]
        rw [or_assoc]
      · intro isDecided
        obtain ⟨translated, settled, places⟩ := ownPlace (decided.symm.trans isDecided)
        exact ⟨translated, result.trans settled, sameFrame order translated places⟩
      · intro member
        obtain ⟨_, found, isDecided⟩ := serializes.decided index member
        cases present.symm.trans found
        exact decided.trans isDecided
  | settles settling undecided idle result decided settles =>
      obtain ⟨translates, filed⟩ := serializes.settling compatible settling
      have absent : index ∉ order.filterMap Effect.execution := by
        intro member
        obtain ⟨_, found, isDecided⟩ := serializes.decided index member
        cases present.symm.trans found
        cases undecided.symm.trans isDecided
      have indices : (order ++ [Effect.mk (some index) execution.event]).filterMap Effect.execution =
          order.filterMap Effect.execution ++ [index] := by simp
      rw [settles, if_pos rfl]
      refine serializes.advanced present ?_ (fun _ _ stored => stored) ?_ ?_
        (fun _ _ _ places => places.later) ?_ (fun _ => decided) ?_
      · rw [serial_concat]
        exact ⟨rfl, rfl, rfl⟩
      · intro key nat
        rw [serial_concat, filed, serializes.filed, split, idle]
        simp only [List.not_mem_nil, false_or]
        rw [or_assoc, or_comm (a := ∃ _, _)]
      · intro _
        exact ⟨_, result, sameFrame _ _ ⟨order, [], rfl, translates⟩⟩
      · intro other member
        rw [indices, List.mem_append, List.mem_singleton] at member
        exact member
      · rw [indices]
        exact List.nodup_append.mpr ⟨serializes.once, List.nodup_singleton _, by
          intro other earlier last single
          rw [List.mem_singleton.mp single]
          exact fun same => absent (same ▸ earlier)⟩

end Serializes

theorem serializes_step {move : Move} (serializes : Serializes start order parallel)
    (compatible : move.Compatible parallel) :
    Serializes start (order ++ parallel.effects move) (parallel.step move) := by
  cases move with
  | arrives flag ctx kernel =>
      simp only [Parallel.effects, List.append_nil]
      exact serializes.arrives
  | advances index =>
      cases present : parallel.executions[index]? with
      | none =>
          simp only [Parallel.effects, Parallel.step, present, List.append_nil]
          exact serializes
      | some execution => exact serializes.advances present (compatible execution present)
  | other event => exact serializes.other compatible.1 compatible.2

/-- The host before any frame has arrived. -/
def Parallel.of (system : System) : Parallel := { system, executions := [] }

theorem serializes_run
    (guarded : Guarded Parallel.step (fun parallel move => move.Compatible parallel) (.of start) moves) :
    Serializes start (trace Parallel.step Parallel.effects (.of start) moves)
      (run Parallel.step (.of start) moves) := by
  refine guarded.traced ?_ (fun _ _ _ serializes compatible => serializes_step serializes compatible)
  refine ⟨rfl, rfl, rfl, ?_, ?_, ?_, List.nodup_nil⟩
  · intro key nat
    simp [serial, Parallel.Files, Parallel.of]
  · intro index execution found
    cases found
  · intro index member
    cases member

/-- What the program hands back for the frame of an execution. -/
def Execution.output (redirectMap : DevMapHash) (execution : Execution) :
    Option NATData → XdpAction × List UInt8
  | none => (.pass, execution.ctx.data)
  | some nat =>
      (if (redirectMap.get nat.devmapKey).isSome then .redirect else .pass,
        translateFrame execution.flag nat execution.ctx.data)

theorem verdict_output {flag : Flags} {ctx : XdpContext} {kernel : Kernel} {phase : Phase} :
    ((system.verdict flag ctx kernel).action, (system.verdict flag ctx kernel).data) =
      Execution.output system.redirectMap ⟨flag, ctx, kernel, phase⟩
        (translation flag kernel system.maps ctx) := by
  rw [System.verdict_action, System.verdict_data]
  cases translation flag kernel system.maps ctx <;> rfl

/-- However the accesses of any number of executions fall, the NAT data filed by
then is what the host files that takes the frames one at a time, in the order in
which they took effect; no execution takes effect twice, and each that is through
has translated its frame and handed it on as that host does where it took effect. -/
theorem parallel_serializes
    (guarded : Guarded Parallel.step (fun parallel move => move.Compatible parallel) (.of start) moves) :
    let parallel := run Parallel.step (.of start) moves
    let order := trace Parallel.step Parallel.effects (.of start) moves
    (∀ key nat, parallel.Files key nat ↔
      natAt (serial start order).udpConntrack key = some nat) ∧
    (order.filterMap Effect.execution).Nodup ∧
    (∀ index execution translated, parallel.executions[index]? = some execution →
      execution.finished = some translated →
      ∃ before after, order = before ++ ⟨some index, execution.event⟩ :: after ∧
        translation execution.flag execution.kernel (serial start before).maps execution.ctx =
          translated ∧
        let verdict := (serial start before).verdict execution.flag execution.ctx execution.kernel
        (verdict.action, verdict.data) = execution.output start.redirectMap translated) := by
  have serializes := serializes_run guarded
  refine ⟨fun key nat => (serializes.filed key nat).symm, serializes.once, ?_⟩
  intro index execution translated found finished
  obtain ⟨flag, ctx, kernel, phase⟩ := execution
  cases phase with
  | done nat =>
      cases finished
      obtain ⟨_, settled, before, after, shape, same⟩ := serializes.placed index _ found rfl
      cases settled
      refine ⟨before, after, shape, same, ?_⟩
      have handed := @verdict_output (serial start before) flag ctx kernel (.done translated)
      rw [same, serial, run_redirectMap] at handed
      exact handed
  | _ => cases finished

open Testbed in
/-- Two CPUs open the same flow of node A, access by access in turn. -/
theorem two_cpus_open_one_flow :
    let moves : List Move :=
      [.arrives .snat (fromContainer 10 ⟨nodeA, remote, 4000, 53⟩ 0x1234) (kernelAt 0),
        .arrives .snat (fromContainer 10 ⟨nodeA, remote, 4000, 53⟩ 0x4321) (kernelAt 1),
        .advances 0, .advances 1, .advances 0, .advances 1, .advances 0, .advances 1, .advances 0,
        .advances 1, .advances 0, .advances 1]
    ∃ execution before after,
      trace Parallel.step Parallel.effects (.of host) moves =
        before ++ ⟨some 1, Execution.event execution⟩ :: after ∧
      translation execution.flag execution.kernel (serial host before).maps execution.ctx =
        some ⟨hostIp, 4000, ⟨hostMac, gatewayMac⟩, 0⟩ := by
  intro moves
  have through : ((run Parallel.step (.of host) moves).executions[1]?.bind Execution.finished) =
      some (some ⟨hostIp, 4000, ⟨hostMac, gatewayMac⟩, 0⟩) := by decide +kernel
  obtain ⟨execution, found, finished⟩ := Option.bind_eq_some_iff.mp through
  obtain ⟨before, after, shape, same, _⟩ :=
    (@parallel_serializes host moves (by decide +kernel)).2.2 1 execution _ found finished
  exact ⟨execution, before, after, shape, same⟩

/-- The moves of a host with a single CPU: each frame is through before anything
else happens. `count` is the number of executions so far. -/
def inTurn (count : Nat) : List Event → List Move
  | [] => []
  | .frame flag ctx kernel :: events =>
      .arrives flag ctx kernel :: (List.replicate 12 (.advances count) ++ inTurn (count + 1) events)
  | event :: events => .other event :: inTurn count events

/-- An execution that is the only one to move goes on by itself. -/
theorem run_advances {count : Nat} (present : parallel.executions[index]? = some execution) :
    let alone := advanceAlone execution.kernel parallel.system.maps execution.ctx execution.flag count
      parallel.system.udpConntrack execution.phase
    ∃ clock, run Parallel.step parallel (List.replicate count (.advances index)) =
      { system := { parallel.system with udpConntrack := alone.1, clock }
        executions := parallel.executions.set index { execution with phase := alone.2 } } := by
  induction count generalizing parallel execution with
  | zero =>
      obtain ⟨bound, value⟩ := List.getElem?_eq_some_iff.mp present
      refine ⟨parallel.system.clock, ?_⟩
      change parallel = ⟨parallel.system, parallel.executions.set index execution⟩
      rw [← value, List.set_getElem_self]
  | succ count ih =>
      obtain ⟨bound, _⟩ := List.getElem?_eq_some_iff.mp present
      rw [List.replicate_succ, run_cons]
      have moved : parallel.step (.advances index) =
          { system := { parallel.system with
              udpConntrack := (execution.next parallel.system).1
              clock := laterReading parallel.system.clock execution.reading }
            executions := parallel.executions.set index
              { execution with phase := (execution.next parallel.system).2 } } := by
        simp only [Parallel.step, present]
      obtain ⟨clock, rest⟩ := @ih (parallel.step (.advances index))
        { execution with phase := (execution.next parallel.system).2 }
        (by rw [moved]; exact List.getElem?_set_self bound)
      have maps : (parallel.step (.advances index)).system.maps =
          { parallel.system.maps with udpConntrack := (execution.next parallel.system).1 } := by
        rw [moved]
        rfl
      refine ⟨clock, ?_⟩
      rw [rest, maps, advanceAlone_maps, moved]
      simp only [List.set_set]
      rfl

/-- A frame that is handled without interruption. -/
theorem run_frame_alone {flag : Flags} {ctx : XdpContext} {kernel : Kernel} :
    let after := run Parallel.step parallel
      (.arrives flag ctx kernel :: List.replicate 12 (.advances parallel.executions.length))
    after.executions.length = parallel.executions.length + 1 ∧
      SameButClock after.system (parallel.system.step (.frame flag ctx kernel)) := by
  have present : (parallel.step (.arrives flag ctx kernel)).executions[parallel.executions.length]? =
      some ⟨flag, ctx, kernel, .looksUp⟩ := List.getElem?_concat_length
  have alone : advanceAlone kernel parallel.system.maps ctx flag 12 parallel.system.udpConntrack .looksUp =
      ((parallel.system.step (.frame flag ctx kernel)).udpConntrack,
        .done (translation flag kernel parallel.system.maps ctx)) := by
    rw [step_frame_conntrack]
    exact execution_alone
  obtain ⟨clock, through⟩ := @run_advances _ _ _ 12 present
  rw [run_cons, through]
  refine ⟨?_, ?_⟩
  · simp [Parallel.step]
  · change SameButClock { parallel.system with
      udpConntrack := (advanceAlone kernel parallel.system.maps ctx flag 12
        parallel.system.udpConntrack .looksUp).1
      clock } _
    rw [alone]
    rfl

/-- With a single CPU, the table accessed field by field is at each frame's end the
table of the programs that run in one step, timeouts included. -/
theorem single_cpu_runs_serially (events : List Event) :
    SameButClock (run Parallel.step (.of start) (inTurn 0 events)).system (run System.step start events) := by
  have general : ∀ (events : List Event) (parallel : Parallel) (system : System),
      SameButClock parallel.system system →
      SameButClock (run Parallel.step parallel (inTurn parallel.executions.length events)).system
        (run System.step system events) := by
    intro events
    induction events with
    | nil => exact fun _ _ same => same
    | cons event events ih =>
        intro parallel system same
        cases event with
        | frame flag ctx kernel =>
            obtain ⟨count, through⟩ := @run_frame_alone parallel flag ctx kernel
            have split : inTurn parallel.executions.length (.frame flag ctx kernel :: events) =
                (.arrives flag ctx kernel :: List.replicate 12 (.advances parallel.executions.length)) ++
                  inTurn (parallel.executions.length + 1) events := rfl
            rw [split, run_append, ← count]
            exact ih _ _ (through.trans same.step)
        | exposePort | unexposePort | writeExposeMap | writePnic | sweepAtOnce | beginSweep | examine
        | endScan | removeNext => exact ih _ _ same.step
  exact general events (.of start) start rfl

end XdpNatd
