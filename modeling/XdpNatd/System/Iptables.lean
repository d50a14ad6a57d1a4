import XdpNatd.Data.Text
import XdpNatd.System.Ports

namespace XdpNatd

open XdpNatd.Data XdpNatd.Ebpf XdpNatd.Daemon

/-- The rule specification in `add_iptables_rule` and `remove_iptables_rule`. -/
def Daemon.DnatRule.spec (rule : DnatRule) : List Text :=
  ["-p".toList, "tcp".toList, "--dport".toList, decimal rule.hostPort.toNat, "-j".toList, "DNAT".toList,
    "--to-destination".toList, ipv4Text rule.containerIp ++ ':' :: decimal rule.containerPort.toNat]

def prerouteArgs (command : String) (spec : List Text) : List Text :=
  "-t".toList :: "nat".toList :: command.toList :: "PREROUTING".toList :: spec

/-- The arguments of `clean_up`. -/
def cleanUpArgs : List Text := prerouteArgs "-F" []

/-- The program `iptables`, as far as the chain PREROUTING of the table nat goes: how
it reads the specification of a rule, and what the chain is after a call that
succeeds.  A rule is what the kernel holds for it. -/
structure Iptables (ρ : Type) where
  parse : List Text → ρ
  call : List Text → List ρ → Option (List ρ)

/-- The chain without the first rule that is the same as this one, if there is one. -/
def deleteFirst {ρ : Type} [DecidableEq ρ] (held : ρ) (chain : List ρ) : Option (List ρ) :=
  if held ∈ chain then some (chain.erase held) else none

/-- What iptables(8) says of the calls that the daemon makes: `-A` appends the rule,
`-D` deletes the first rule that is the same and fails without one, `-F` deletes them
all; and what is specified differently in port or destination is not the same. -/
structure Iptables.Documented {ρ : Type} [DecidableEq ρ] (iptables : Iptables ρ) : Prop where
  appends : ∀ (rule : DnatRule) chain, iptables.call (prerouteArgs "-A" rule.spec) chain =
    some (chain ++ [iptables.parse rule.spec])
  deletes : ∀ (rule : DnatRule) chain, iptables.call (prerouteArgs "-D" rule.spec) chain =
    deleteFirst (iptables.parse rule.spec) chain
  flushes : ∀ chain, iptables.call cleanUpArgs chain = some []
  distinguishes : ∀ left right : DnatRule,
    iptables.parse left.spec = iptables.parse right.spec → left.spec = right.spec

/-- A call of `iptables`, with how it ends for reasons of its own. -/
structure IptablesCall where
  args : List Text
  outcome : CommandOutcome

/-- The chain after a call; a call that fails leaves it as it is. -/
def Iptables.apply {ρ : Type} (iptables : Iptables ρ) (chain : List ρ) (call : IptablesCall) : List ρ :=
  match call.outcome with
  | .succeeded => (iptables.call call.args chain).getD chain
  | .notExecuted | .failed => chain

/-- The calls that the handlers make on the way to their answers. -/
def System.iptablesCalls (system : System) : Event → List IptablesCall
  | .exposePort req calls =>
      match system.containers.get req.containerIp with
      | none => []
      | some container =>
          match system.control.state.portAllocator.allocateNext with
          | (none, _) => []
          | (some port, _) =>
              match insertExposure calls system.exposeMap port (exposure container req) with
              | .error _ => []
              | .ok _ => [{
                  args := prerouteArgs "-A" (DnatRule.spec ⟨port, container.ipv4Address, req.containerPort⟩)
                  outcome := calls.iptables }]
  | .unexposePort hostPort calls =>
      match system.exposeMap.get hostPort with
      | some info => [{
          args := prerouteArgs "-D" (DnatRule.spec ⟨hostPort, info.containerIp, info.containerPort⟩)
          outcome := calls.iptables }]
      | none => []
  | _ => []

theorem spec_injective : Function.Injective DnatRule.spec := by
  intro left right same
  obtain ⟨leftPort, leftIp, leftContainerPort⟩ := left
  obtain ⟨rightPort, rightIp, rightContainerPort⟩ := right
  simp only [DnatRule.spec, List.cons.injEq, true_and, and_true] at same
  obtain ⟨ports, destinations⟩ := same
  have plain (address : UInt32) : ':' ∉ ipv4Text address := not_mem_ipv4Text rfl (by decide)
  have halves := congrArg (splitOnce ':') destinations
  rw [splitOnce_separated (plain _), splitOnce_separated (plain _)] at halves
  simp only [Option.some.injEq, Prod.mk.injEq, decimal_inj] at halves ports
  obtain ⟨addresses, containerPorts⟩ := halves
  have parsed := congrArg parseIpv4 addresses
  rw [parseIpv4_ipv4Text, parseIpv4_ipv4Text] at parsed
  cases UInt16.toNat_inj.mp ports
  cases UInt16.toNat_inj.mp containerPorts
  cases parsed
  rfl

section Chain

variable {ρ : Type} [DecidableEq ρ] {iptables : Iptables ρ} {foreign : List ρ}
variable {rule : DnatRule} {rules : List DnatRule} {system : System} {event : Event} {events : List Event}

/-- The rule as `iptables` reads it. -/
def Iptables.held (iptables : Iptables ρ) (rule : DnatRule) : ρ := iptables.parse rule.spec

/-- No rule that the daemon could have written. -/
def Iptables.Foreign (iptables : Iptables ρ) (foreign : List ρ) : Prop :=
  ∀ rule : DnatRule, iptables.held rule ∉ foreign

theorem held_injective (documented : iptables.Documented) : Function.Injective iptables.held :=
  fun left right same => spec_injective (documented.distinguishes left right same)

theorem mem_chain (documented : iptables.Documented) (others : iptables.Foreign foreign) :
    iptables.held rule ∈ foreign ++ rules.map iptables.held ↔ rule ∈ rules := by
  rw [List.mem_append, List.mem_map_of_injective (held_injective documented)]
  exact or_iff_right (others rule)

theorem erase_chain (documented : iptables.Documented) (others : iptables.Foreign foreign) :
    (foreign ++ rules.map iptables.held).erase (iptables.held rule) =
      foreign ++ (rules.erase rule).map iptables.held := by
  rw [List.erase_append_right _ (others rule), List.map_erase (held_injective documented)]

theorem exposePort_chain {req : ExposeRequest} {calls : Calls} (documented : iptables.Documented) :
    (system.iptablesCalls (.exposePort req calls)).foldl iptables.apply
        (foreign ++ system.control.rules.map iptables.held) =
      foreign ++ (system.step (.exposePort req calls)).control.rules.map iptables.held := by
  change _ = foreign ++ (exposePort calls req system.control).2.rules.map iptables.held
  unfold System.iptablesCalls exposePort
  simp only [System.containers, System.exposeMap, exposure]
  cases system.control.state.containerMetas.get req.containerIp with
  | none => rfl
  | some container =>
      dsimp only
      rcases system.control.state.portAllocator.allocateNext with ⟨_ | port, portAllocator⟩
      · rfl
      · dsimp only
        cases insertExposure calls system.control.state.exposeMap port ⟨container.ipv4Address,
            container.macAddress, req.containerPort, container.ifindex⟩ with
        | error => rfl
        | ok exposeMap =>
            cases calls.iptables with
            | notExecuted | failed => rfl
            | succeeded => simp [Iptables.apply, addIptablesRule, documented.appends, Iptables.held]

theorem unexposePort_chain {hostPort : UInt16} {calls : Calls} (documented : iptables.Documented)
    (others : iptables.Foreign foreign) :
    (system.iptablesCalls (.unexposePort hostPort calls)).foldl iptables.apply
        (foreign ++ system.control.rules.map iptables.held) =
      foreign ++ (system.step (.unexposePort hostPort calls)).control.rules.map iptables.held := by
  change _ = foreign ++ (unexposePort calls hostPort system.control).2.rules.map iptables.held
  unfold System.iptablesCalls unexposePort
  simp only [System.exposeMap]
  cases system.control.state.exposeMap.get hostPort with
  | none => rfl
  | some info =>
      cases calls.iptables with
      | notExecuted | failed => rfl
      | succeeded =>
          have member := @mem_chain ρ _ iptables foreign ⟨hostPort, info.containerIp, info.containerPort⟩
            system.control.rules documented others
          have erased := @erase_chain ρ _ iptables foreign ⟨hostPort, info.containerIp, info.containerPort⟩
            system.control.rules documented others
          rw [Iptables.held] at member erased
          simp only [List.foldl_cons, List.foldl_nil, Iptables.apply, documented.deletes, deleteFirst,
            removeIptablesRule, member, erased]
          by_cases ruled : ⟨hostPort, info.containerIp, info.containerPort⟩ ∈ system.control.rules <;>
            simp [ruled]

theorem step_chain (documented : iptables.Documented) (others : iptables.Foreign foreign) :
    (system.iptablesCalls event).foldl iptables.apply
        (foreign ++ system.control.rules.map iptables.held) =
      foreign ++ (system.step event).control.rules.map iptables.held := by
  cases event with
  | exposePort req calls => exact exposePort_chain documented
  | unexposePort hostPort calls => exact unexposePort_chain documented others
  | frame | writeExposeMap | writePnic | sweepAtOnce | beginSweep | examine | endScan | removeNext => rfl

/-- The chain after the calls of any sequence of requests, whichever of them failed
and on whichever side: the rules of others are as they were, behind them stands one
rule for each exposed port and nothing else, and `clean_up` removes them all alike. -/
theorem chain_of_exposures {containers : ContainerMap} {redirectMap : DevMapHash} {nic : NICInfo}
    {lower upper : UInt16} (documented : iptables.Documented) (others : iptables.Foreign foreign)
    (guarded : Guarded System.step (fun _ event => event.KeepsExposures)
      (System.boot containers redirectMap nic lower upper) events) :
    let system := run System.step (System.boot containers redirectMap nic lower upper) events
    let chain := (trace System.step System.iptablesCalls
      (System.boot containers redirectMap nic lower upper) events).foldl iptables.apply foreign
    (∃ own, chain = foreign ++ own ∧ own.Nodup ∧ ∀ held, held ∈ own ↔
      ∃ port info, system.exposeMap.get port = some info ∧
        held = iptables.parse (DnatRule.spec ⟨port, info.containerIp, info.containerPort⟩)) ∧
    iptables.call cleanUpArgs chain = some [] := by
  intro system chain
  have follows : chain = foreign ++ system.control.rules.map iptables.held := by
    refine @Guarded.traced _ _ _ _ _ _ _ System.iptablesCalls (fun calls system =>
      calls.foldl iptables.apply foreign = foreign ++ system.control.rules.map iptables.held)
      (List.append_nil foreign).symm ?_ guarded
    intro calls system event sofar _
    rw [List.foldl_append, sofar, step_chain documented others]
  have balanced : system.control.Balanced lower upper := balanced_run guarded
  refine ⟨⟨_, follows, balanced.rulesNodup.map (held_injective documented), fun held => ?_⟩,
    documented.flushes chain⟩
  rw [List.mem_map]
  constructor
  · intro ruled
    obtain ⟨rule, member, rfl⟩ := ruled
    obtain ⟨info, exposed, shape⟩ := (balanced.rules rule).mp member
    exact ⟨rule.hostPort, info, exposed, congrArg iptables.held shape⟩
  · intro exposed
    obtain ⟨port, info, exposed, rfl⟩ := exposed
    exact ⟨_, (balanced.rules ⟨port, info.containerIp, info.containerPort⟩).mpr ⟨info, exposed, rfl⟩, rfl⟩

end Chain

namespace Testbed

def callIptables (args : List Text) (chain : List (List Text)) : Option (List (List Text)) :=
  match args with
  | option :: table :: command :: name :: spec =>
      if option = "-t".toList ∧ table = "nat".toList ∧ name = "PREROUTING".toList then
        if command = "-A".toList then some (chain ++ [spec])
        else if command = "-D".toList then deleteFirst spec chain
        else if command = "-F".toList ∧ spec = [] then some []
        else none
      else none
  | _ => none

variable {spec : List Text} {chain : List (List Text)}

theorem callIptables_append : callIptables (prerouteArgs "-A" spec) chain = some (chain ++ [spec]) := by
  simp [callIptables, prerouteArgs]

theorem callIptables_delete : callIptables (prerouteArgs "-D" spec) chain = deleteFirst spec chain := by
  simp [callIptables, prerouteArgs]

theorem callIptables_cleanUp : callIptables cleanUpArgs chain = some [] := by
  simp [callIptables, cleanUpArgs, prerouteArgs]

/-- An `iptables` for which a rule is its specification word by word. -/
def iptables : Iptables (List Text) := { parse := fun spec => spec, call := callIptables }

theorem iptables_documented : iptables.Documented where
  appends _ _ := callIptables_append
  deletes _ _ := callIptables_delete
  flushes chain := @callIptables_cleanUp chain
  distinguishes _ _ same := same

/-- The rule that Docker keeps in the chain. -/
def dockerChain : List (List Text) :=
  [["-m".toList, "addrtype".toList, "--dst-type".toList, "LOCAL".toList, "-j".toList, "DOCKER".toList]]

theorem dockerChain_foreign : iptables.Foreign dockerChain := by
  intro rule member
  have lengths := congrArg List.length (List.mem_singleton.mp member)
  change (DnatRule.spec rule).length = _ at lengths
  simp [DnatRule.spec] at lengths

end Testbed

open Testbed in
theorem chain_after_rollbacks :
    let chain := (trace System.step System.iptablesCalls host failingRequests).foldl iptables.apply
      dockerChain
    ∃ own, chain = dockerChain ++ own ∧ DnatRule.spec ⟨10000, nodeB, 5201⟩ ∈ own := by
  intro chain
  obtain ⟨own, shape, _, exact⟩ := (@chain_of_exposures (List Text) _ iptables dockerChain failingRequests
    containers redirectMap ⟨hostIp, 2⟩ portRange.1 portRange.2 iptables_documented dockerChain_foreign
    (by decide)).1
  refine ⟨own, shape, (exact _).mpr ⟨10000, ⟨nodeB, containerMac 20, 5201, 12⟩, ?_, rfl⟩⟩
  decide +kernel

end XdpNatd
