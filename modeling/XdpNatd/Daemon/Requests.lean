import XdpNatd.Daemon.Expose

namespace XdpNatd.Daemon

open XdpNatd.Data XdpNatd.Ebpf

variable {calls : Calls} {req : ExposeRequest} {control : Control} {hostPort : UInt16}

/-- The entry that a successful `expose_port` files for a container. -/
def exposure (container : ContainerMetadata) (req : ExposeRequest) : ContainerInfo :=
  { containerIp := container.ipv4Address
    containerMac := container.macAddress
    containerPort := req.containerPort
    ifindex := container.ifindex }

private theorem allocateNext_exhausted {allocator : PortAllocator} (queue : allocator.ports = []) :
    allocator.allocateNext = (none, allocator) := by
  unfold PortAllocator.allocateNext
  rw [queue]

private theorem insertExposure_ok {exposeMap after : ExposeMap} {info : ContainerInfo}
    (inserted : insertExposure calls exposeMap hostPort info = .ok after) :
    exposeMap.Accepts hostPort ∧ after = exposeMap.tryInsert hostPort info := by
  unfold insertExposure at inserted
  cases stored : exposeMap.insertNew hostPort info with
  | error reason => simp [stored] at inserted
  | ok candidate =>
      have accepts := BoundedMap.insertNew_ok_iff.mp ⟨candidate, stored⟩
      rw [BoundedMap.insertNew_accepted accepts] at stored
      rw [BoundedMap.insertNew_accepted accepts] at inserted
      dsimp only at inserted
      split at inserted
      · exact ⟨accepts, (Except.ok.inj inserted).symm⟩
      · cases inserted

theorem remove_tryInsert {exposeMap : ExposeMap} (info : ContainerInfo)
    (accepts : exposeMap.Accepts hostPort) :
    (exposeMap.tryInsert hostPort info).remove hostPort = exposeMap := by
  apply BoundedMap.ext_get
  intro port
  by_cases same : port = hostPort
  · subst same
    rw [BoundedMap.get_remove_self, accepts.1]
  · rw [BoundedMap.get_remove_other same, BoundedMap.get_tryInsert_other same]

private theorem addIptablesRule_ok {outcome : CommandOutcome} {ip : UInt32} {port : UInt16}
    {rules after : List DnatRule}
    (added : addIptablesRule outcome hostPort ip port rules = .ok after) :
    after = rules ++ [⟨hostPort, ip, port⟩] := by
  cases outcome with
  | notExecuted | failed => cases added
  | succeeded => exact (Except.ok.inj added).symm

private theorem removeIptablesRule_ok {outcome : CommandOutcome} {ip : UInt32} {port : UInt16}
    {rules after : List DnatRule}
    (removed : removeIptablesRule outcome hostPort ip port rules = .ok after) :
    ⟨hostPort, ip, port⟩ ∈ rules ∧ after = rules.erase ⟨hostPort, ip, port⟩ := by
  cases outcome with
  | notExecuted | failed => cases removed
  | succeeded =>
      simp only [removeIptablesRule] at removed
      split at removed
      · exact ⟨‹_›, (Except.ok.inj removed).symm⟩
      · cases removed

theorem exposePort_cases (calls : Calls) (req : ExposeRequest) (control : Control) :
    (∃ error ports, exposePort calls req control = (.error error,
        { control with state := { control.state with portAllocator := ⟨ports⟩ } }) ∧
      ports.Perm control.state.portAllocator.ports) ∨
    (∃ response port ports container, exposePort calls req control = (.ok response,
        { rules := control.rules ++ [⟨port, container.ipv4Address, req.containerPort⟩]
          state := { control.state with
            exposeMap := control.state.exposeMap.tryInsert port (exposure container req)
            portAllocator := ⟨ports⟩ } }) ∧
      control.state.containerMetas.get req.containerIp = some container ∧
      control.state.portAllocator.ports = port :: ports ∧
      control.state.exposeMap.Accepts port) := by
  cases known : control.state.containerMetas.get req.containerIp with
  | none =>
      exact Or.inl ⟨_, control.state.portAllocator.ports,
        by simp only [exposePort, known]; rfl, .refl _⟩
  | some container =>
      cases queue : control.state.portAllocator.ports with
      | nil =>
          exact Or.inl ⟨_, control.state.portAllocator.ports,
            by simp only [exposePort, known, allocateNext_exhausted queue]; rfl, queue ▸ .refl _⟩
      | cons port ports =>
          have rotated : (ports ++ [port]).Perm (port :: ports) := List.perm_append_comm
          -- the source builds the entry in place; `exposure` names it
          have entry : exposure container req = ⟨container.ipv4Address, container.macAddress,
            req.containerPort, container.ifindex⟩ := rfl
          cases inserted : insertExposure calls control.state.exposeMap port
              (exposure container req) with
          | error e =>
              rw [entry] at inserted
              exact Or.inl ⟨_, ports ++ [port],
                by simp only [exposePort, known, PortAllocator.allocateNext, queue, inserted]; rfl,
                rotated⟩
          | ok exposeMap =>
              obtain ⟨accepts, rfl⟩ := insertExposure_ok inserted
              rw [entry] at inserted
              cases added : addIptablesRule calls.iptables port container.ipv4Address
                  req.containerPort control.rules with
              | error e =>
                  have restored := remove_tryInsert (exposure container req) accepts
                  rw [entry] at restored
                  exact Or.inl ⟨_, ports ++ [port],
                    by
                      simp only [exposePort, known, PortAllocator.allocateNext, queue, inserted,
                        added, restored]
                      rfl,
                    rotated⟩
              | ok rules =>
                  cases addIptablesRule_ok added
                  exact Or.inr ⟨_, port, ports, container,
                    by
                      simp only [exposePort, known, PortAllocator.allocateNext, queue, inserted, added]
                      rfl,
                    rfl, rfl, accepts⟩

/-- A success names the port that the container is exposed on. -/
theorem exposePort_response {response : Response} (granted : (exposePort calls req control).1 = .ok response) :
    ∃ port ports, control.state.portAllocator.ports = port :: ports ∧
      response = ⟨200, s!"exposing container port {req.containerPort} on host port {port}"⟩ := by
  cases known : control.state.containerMetas.get req.containerIp with
  | none => simp [exposePort, known] at granted
  | some container =>
      cases queue : control.state.portAllocator.ports with
      | nil => simp [exposePort, known, allocateNext_exhausted queue] at granted
      | cons port ports =>
          simp only [exposePort, known, PortAllocator.allocateNext, queue] at granted
          split at granted
          · cases granted
          · split at granted
            · cases granted
            · exact ⟨port, ports, rfl, (Except.ok.inj granted).symm⟩

theorem unexposePort_granted {info : ContainerInfo}
    (exposed : control.state.exposeMap.get hostPort = some info)
    (ruled : ⟨hostPort, info.containerIp, info.containerPort⟩ ∈ control.rules)
    (deletes : calls.iptables = .succeeded) :
    unexposePort calls hostPort control = (.ok ⟨200, s!"Unexposed host port {hostPort}"⟩,
      { rules := control.rules.erase ⟨hostPort, info.containerIp, info.containerPort⟩
        state := { control.state with
          exposeMap := control.state.exposeMap.remove hostPort
          portAllocator := control.state.portAllocator.deallocate hostPort } }) := by
  simp only [unexposePort, exposed, removeIptablesRule, deletes, if_pos ruled]

/-- The queue of free ports moves on by one port, or does not move. -/
theorem exposePort_ports (calls : Calls) (req : ExposeRequest) (control : Control) :
    (exposePort calls req control).2.state.portAllocator.ports = control.state.portAllocator.ports ∨
    ∃ port ports, control.state.portAllocator.ports = port :: ports ∧
      ((exposePort calls req control).2.state.portAllocator.ports = ports ∨
        (exposePort calls req control).2.state.portAllocator.ports = ports ++ [port]) := by
  cases known : control.state.containerMetas.get req.containerIp with
  | none => exact Or.inl (by simp only [exposePort, known])
  | some container =>
      cases queue : control.state.portAllocator.ports with
      | nil => exact Or.inl (by simp only [exposePort, known, allocateNext_exhausted queue, queue])
      | cons port ports =>
          refine Or.inr ⟨port, ports, rfl, ?_⟩
          simp only [exposePort, known, PortAllocator.allocateNext, queue, PortAllocator.deallocate]
          split
          · exact Or.inr rfl
          · split
            · exact Or.inr rfl
            · exact Or.inl rfl

theorem unexposePort_cases (calls : Calls) (hostPort : UInt16) (control : Control) :
    (∃ error, unexposePort calls hostPort control = (.error error, control)) ∨
    (∃ response info, unexposePort calls hostPort control = (.ok response,
        { rules := control.rules.erase ⟨hostPort, info.containerIp, info.containerPort⟩
          state := { control.state with
            exposeMap := control.state.exposeMap.remove hostPort
            portAllocator := control.state.portAllocator.deallocate hostPort } }) ∧
      control.state.exposeMap.get hostPort = some info ∧
      ⟨hostPort, info.containerIp, info.containerPort⟩ ∈ control.rules) := by
  cases found : control.state.exposeMap.get hostPort with
  | none => exact Or.inl ⟨_, by simp only [unexposePort, found]; rfl⟩
  | some info =>
      cases deleted : removeIptablesRule calls.iptables hostPort info.containerIp
          info.containerPort control.rules with
      | error e => exact Or.inl ⟨_, by simp only [unexposePort, found, deleted]; rfl⟩
      | ok rules =>
          obtain ⟨member, rfl⟩ := removeIptablesRule_ok deleted
          exact Or.inr ⟨_, info, by simp only [unexposePort, found, deleted]; rfl, rfl, member⟩

section Answer

variable {container : ContainerMetadata} {port : UInt16} {ports : List UInt16}

theorem exposePort_exhausted (known : control.state.containerMetas.get req.containerIp = some container)
    (queue : control.state.portAllocator.ports = []) :
    (exposePort calls req control).1 = .error (.capacity "No available host ports left") := by
  simp only [exposePort, known, allocateNext_exhausted queue]

theorem exposePort_granted (known : control.state.containerMetas.get req.containerIp = some container)
    (queue : control.state.portAllocator.ports = port :: ports)
    (accepts : control.state.exposeMap.Accepts port)
    (inserts : calls.mapInsert = true) (adds : calls.iptables = .succeeded) :
    ∃ response, (exposePort calls req control).1 = .ok response := by
  have inserted (info : ContainerInfo) : insertExposure calls control.state.exposeMap port info =
      .ok (control.state.exposeMap.tryInsert port info) := by
    simp only [insertExposure, BoundedMap.insertNew_accepted accepts, inserts, if_true]
  exact ⟨_, by
    simp only [exposePort, known, PortAllocator.allocateNext, queue, inserted, addIptablesRule, adds]
    rfl⟩

theorem exposePort_refused (known : control.state.containerMetas.get req.containerIp = some container)
    (queue : control.state.portAllocator.ports = port :: ports)
    (refused : ¬ control.state.exposeMap.Accepts port) :
    ∃ message, (exposePort calls req control).1 = .error (.internal message) := by
  have failed (info : ContainerInfo) : insertExposure calls control.state.exposeMap port info =
      .error calls.mapError := by
    unfold insertExposure
    cases stored : control.state.exposeMap.insertNew port info with
    | ok after => exact absurd (BoundedMap.insertNew_ok_iff.mp ⟨after, stored⟩) refused
    | error reason => rfl
  exact ⟨_, by
    simp only [exposePort, known, PortAllocator.allocateNext, queue, failed]
    rfl⟩

end Answer

end XdpNatd.Daemon
