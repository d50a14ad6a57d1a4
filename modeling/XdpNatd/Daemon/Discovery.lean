import XdpNatd.Daemon.Expose
import XdpNatd.Data.Keyed
import XdpNatd.Data.Text

namespace XdpNatd.Daemon

open XdpNatd.Data XdpNatd.Ebpf

/-- A container as the inspection of its network lists it. -/
structure NetworkContainer where
  name : Option Text
  macAddress : Option Text
  ipv4Address : Option Text

/-- A piece of what a command prints, decoded. -/
inductive TtyChunk where
  | stdIn (text : Text)
  | stdOut (text : Text)
  | stdErr (text : Text)

/-- An entry of `if_nameindex`. -/
structure Interface where
  index : UInt32
  name : Text
deriving DecidableEq

/-- One container with everything that is asked about it. -/
structure Inquiry where
  container : NetworkContainer
  /-- `container.inspect()`, as far as the process goes. -/
  pid : Except String (Option Int)
  /-- `cat /sys/class/net/eth0/iflink` inside of the container. -/
  output : Except String (List (Except String TtyChunk))
  interfaces : Except String (List Interface)

/-- All of `ContainerMetadata`; the fields that other modules use come as one. -/
structure Discovered where
  metadata : ContainerMetadata
  name : Text
  veth : Text
  pid : Option Int

/-- `network_info.containers`, or the error of the inspection. -/
abbrev NetworkInspection := Except String (Option (List Inquiry))

/-- The loop over the output ends at the first piece of standard output. -/
def firstOutput : List (Except String TtyChunk) → Except String (Option Text)
  | [] => .ok none
  | .error message :: _ => .error message
  | .ok (.stdOut text) :: _ => .ok (some text)
  | .ok (.stdIn _) :: chunks | .ok (.stdErr _) :: chunks => firstOutput chunks

variable (parseMac : Text → Except String Mac)

/-- What is left to do for a container once its `iflink` has been printed. -/
def describe (asked : Inquiry) (pid : Option Int) (output : Text) : Except String Discovered :=
  match parseUnsigned UInt32.size (trim output) with
  | .error _ => .error "Failed to parse iflink"
  | .ok iflink =>
      match asked.interfaces with
      | .error message => .error message
      | .ok interfaces =>
          match under (fun interface => interface.index.toNat) interfaces iflink with
          | none => .error "Matching interface not found on host"
          | some interface =>
              match parseMac (asked.container.macAddress.getD []) with
              | .error message => .error message
              | .ok macAddress =>
                  match asked.container.ipv4Address with
                  | none => .error "Missing or invalid IPv4 address"
                  | some address =>
                      match parseIpv4 (address.takeWhile (· ≠ '/')) with
                      | none => .error "invalid IPv4 address syntax"
                      | some ipv4Address =>
                          .ok {
                            metadata := { ipv4Address, ifindex := .ofNat iflink, macAddress }
                            name := asked.container.name.getD []
                            veth := interface.name
                            pid }

/-- One turn of the loop over the containers. One that prints nothing is left out. -/
def discover (asked : Inquiry) : Except String (Option Discovered) :=
  match asked.pid with
  | .error message => .error message
  | .ok pid =>
      match asked.output with
      | .error message => .error message
      | .ok chunks =>
          match firstOutput chunks with
          | .error message => .error message
          | .ok none => .ok none
          | .ok (some output) =>
              match describe parseMac asked pid output with
              | .error message => .error message
              | .ok container => .ok (some container)

def Discovered.address (container : Discovered) : UInt32 := container.metadata.ipv4Address

/-- The loop, with `container_metas.insert` for each container that is described. -/
def collectContainers (metas : List Discovered) : List Inquiry → Except String (List Discovered)
  | [] => .ok metas
  | asked :: rest =>
      match discover parseMac asked with
      | .error message => .error message
      | .ok none => collectContainers metas rest
      | .ok (some container) => collectContainers (put Discovered.address metas container) rest

def getContainers (network : NetworkInspection) : Except String (List Discovered) :=
  match network with
  | .error message => .error message
  | .ok none => .ok []
  | .ok (some containers) => collectContainers parseMac [] containers

/-- How the calls of `reserve_kernel_ports` on the file end: what it reads, and the
error of writing to it. -/
structure ReservedPortsFile where
  existing : Except String Text
  writeError : Option String

/-- What is returned, and what has been written by then. -/
def reserveKernelPorts (file : ReservedPortsFile) (range : Text) :
    Except String (UInt16 × UInt16) × Option Text :=
  match file.existing with
  | .error message => (.error message, none)
  | .ok existing =>
      let existingTrimmed := trim existing
      let newContent := if existingTrimmed = [] then range else existingTrimmed ++ ',' :: range
      match file.writeError with
      | some message => (.error message, none)
      | none =>
          match splitOnce '-' range with
          | none => (.error "Invalid port range format", some newContent)
          | some (num1, num2) =>
              match parseUnsigned UInt16.size num1, parseUnsigned UInt16.size num2 with
              | .ok lower, .ok upper => (.ok (.ofNat lower, .ofNat upper), some newContent)
              | .error message, _ => (.error message, some newContent)
              | .ok _, .error message => (.error message, some newContent)

variable {parseMac} {metas found : List Discovered} {asked : Inquiry} {inquiries : List Inquiry}
variable {container : Discovered}

/-- What stands behind an entry: the container itself has named an interface that the
host has, and Docker has given its address. -/
structure Inquiry.Names (asked : Inquiry) (container : Discovered) : Prop where
  printed : ∃ chunks output, asked.output = .ok chunks ∧ firstOutput chunks = .ok (some output) ∧
    parseUnsigned UInt32.size (trim output) = .ok container.metadata.ifindex.toNat
  present : ∃ interfaces, asked.interfaces = .ok interfaces ∧
    ⟨container.metadata.ifindex, container.veth⟩ ∈ interfaces
  given : ∃ text, asked.container.ipv4Address = some text ∧
    parseIpv4 (text.takeWhile (· ≠ '/')) = some container.metadata.ipv4Address

theorem describe_ok {pid : Option Int} {output : Text}
    (described : describe parseMac asked pid output = .ok container) :
    parseUnsigned UInt32.size (trim output) = .ok container.metadata.ifindex.toNat ∧
    (∃ interfaces, asked.interfaces = .ok interfaces ∧
      ⟨container.metadata.ifindex, container.veth⟩ ∈ interfaces) ∧
    ∃ text, asked.container.ipv4Address = some text ∧
      parseIpv4 (text.takeWhile (· ≠ '/')) = some container.metadata.ipv4Address := by
  unfold describe at described
  split at described
  · cases described
  next iflink parsed =>
  split at described
  · cases described
  next interfaces listed =>
  split at described
  · cases described
  next interface found =>
  split at described
  · cases described
  split at described
  · cases described
  next text given =>
  split at described
  · cases described
  next ipv4Address address =>
  cases described
  have index : interface.index.toNat = iflink := by simpa using List.find?_some found
  subst index
  refine ⟨?_, ⟨interfaces, listed, ?_⟩, text, given, address⟩
  · rw [parsed, UInt32.ofNat_toNat]
  · rw [UInt32.ofNat_toNat]
    exact List.mem_of_find?_eq_some found

theorem discover_names (named : discover parseMac asked = .ok (some container)) : asked.Names container := by
  unfold discover at named
  split at named
  · cases named
  split at named
  · cases named
  next chunks printed =>
  split at named
  · cases named
  · cases named
  next output first =>
  split at named
  · cases named
  next described =>
  cases named
  obtain ⟨parsed, present, given⟩ := describe_ok described
  exact ⟨⟨chunks, output, printed, first, parsed⟩, present, given⟩

/-- A container that is plugged in, as Docker and the kernels write it down: its
network lists the address with a mask behind it, and its own eth0 gives the number
of the interface at the other end, which the host has once. -/
structure Inquiry.PluggedIn (parseMac : Text → Except String Mac) (asked : Inquiry)
    (container : Discovered) : Prop where
  inspected : asked.pid = .ok container.pid
  printed : ∃ earlier front back later, asked.output =
    .ok (earlier ++ .ok (.stdOut (front ++ decimal container.metadata.ifindex.toNat ++ back)) :: later) ∧
    (∀ chunk ∈ earlier, ∃ text, chunk = .ok (.stdErr text)) ∧
    (∀ char ∈ front, whitespace char) ∧ ∀ char ∈ back, whitespace char
  present : ∃ interfaces, asked.interfaces = .ok interfaces ∧ Keyed Interface.index interfaces ∧
    ⟨container.metadata.ifindex, container.veth⟩ ∈ interfaces
  mac : parseMac (asked.container.macAddress.getD []) = .ok container.metadata.macAddress
  given : ∃ mask, asked.container.ipv4Address = some (ipv4Text container.metadata.ipv4Address ++ '/' :: mask)
  name : asked.container.name.getD [] = container.name

theorem firstOutput_append {earlier later : List (Except String TtyChunk)} {text : Text}
    (errors : ∀ chunk ∈ earlier, ∃ text, chunk = .ok (.stdErr text)) :
    firstOutput (earlier ++ .ok (.stdOut text) :: later) = .ok (some text) := by
  induction earlier with
  | nil => rfl
  | cons chunk rest ih =>
      obtain ⟨⟨_, rfl⟩, others⟩ := List.forall_mem_cons.mp errors
      exact ih others

theorem describe_pluggedIn {front back : Text} (plugged : asked.PluggedIn parseMac container)
    (before : ∀ char ∈ front, whitespace char) (after : ∀ char ∈ back, whitespace char) :
    describe parseMac asked container.pid (front ++ decimal container.metadata.ifindex.toNat ++ back) =
      .ok container := by
  obtain ⟨interfaces, listed, unique, present⟩ := plugged.present
  obtain ⟨mask, given⟩ := plugged.given
  have numbered : Keyed (fun interface => interface.index.toNat) interfaces := by
    have numbers := unique.map (fun _ _ => UInt32.toNat_inj.mp)
    rwa [List.map_map] at numbers
  have found := (under_eq_some numbered).mpr ⟨present, rfl⟩
  have address : (ipv4Text container.metadata.ipv4Address ++ '/' :: mask).takeWhile (· ≠ '/') =
      ipv4Text container.metadata.ipv4Address := takeWhile_separated (not_mem_ipv4Text rfl (by decide))
  unfold describe
  rw [trim_decimal before after, parseUnsigned_decimal container.metadata.ifindex.toNat_lt, listed]
  dsimp only
  rw [found, plugged.mac, given]
  dsimp only
  rw [address, parseIpv4_ipv4Text, plugged.name, UInt32.ofNat_toNat]

theorem discover_pluggedIn (plugged : asked.PluggedIn parseMac container) :
    discover parseMac asked = .ok (some container) := by
  obtain ⟨earlier, front, back, later, printed, errors, before, after⟩ := plugged.printed
  unfold discover
  rw [plugged.inspected, printed]
  dsimp only
  rw [firstOutput_append errors]
  dsimp only
  rw [describe_pluggedIn plugged before after]

/-- What the answers about one container make of it, when there is no error. -/
def Inquiry.named (parseMac : Text → Except String Mac) (asked : Inquiry) : Option Discovered :=
  (discover parseMac asked).toOption.join

theorem Inquiry.named_eq_some :
    asked.named parseMac = some container ↔ discover parseMac asked = .ok (some container) := by
  unfold Inquiry.named
  cases discover parseMac asked with
  | error message => simp [Except.toOption]
  | ok answer => simp [Except.toOption]

theorem collectContainers_ok (collected : collectContainers parseMac metas inquiries = .ok found) :
    (∀ asked ∈ inquiries, ∃ answer, discover parseMac asked = .ok answer) ∧
      found = (inquiries.filterMap (Inquiry.named parseMac)).foldl (put Discovered.address) metas := by
  induction inquiries generalizing metas with
  | nil =>
      cases collected
      exact ⟨nofun, rfl⟩
  | cons asked rest ih =>
      unfold collectContainers at collected
      split at collected
      · cases collected
      · next silent =>
          obtain ⟨answered, rfl⟩ := ih collected
          refine ⟨List.forall_mem_cons.mpr ⟨⟨none, silent⟩, answered⟩, ?_⟩
          have absent : asked.named parseMac = none := by simp [Inquiry.named, silent, Except.toOption]
          rw [List.filterMap_cons_none absent]
      · next container named =>
          obtain ⟨answered, rfl⟩ := ih collected
          refine ⟨List.forall_mem_cons.mpr ⟨⟨some container, named⟩, answered⟩, ?_⟩
          rw [List.filterMap_cons_some (Inquiry.named_eq_some.mpr named), List.foldl_cons]

theorem collectContainers_of_answered
    (answered : ∀ asked ∈ inquiries, ∃ answer, discover parseMac asked = .ok answer) :
    ∃ found, collectContainers parseMac metas inquiries = .ok found := by
  induction inquiries generalizing metas with
  | nil => exact ⟨metas, rfl⟩
  | cons asked rest ih =>
      obtain ⟨⟨answer, answers⟩, answered⟩ := List.forall_mem_cons.mp answered
      unfold collectContainers
      rw [answers]
      cases answer with
      | none => exact ih answered
      | some container => exact ih answered

/-- Of several containers with one address the last one is kept. -/
theorem getContainers_ok (discovered : getContainers parseMac (.ok (some inquiries)) = .ok found) :
    Keyed Discovered.address found ∧ ∀ address, under Discovered.address found address =
      under Discovered.address (inquiries.filterMap (Inquiry.named parseMac)).reverse address := by
  obtain ⟨_, rfl⟩ := collectContainers_ok discovered
  refine ⟨puts_keyed List.nodup_nil, fun address => ?_⟩
  rw [under_puts]
  exact Option.or_none

/-- The format of `ip_local_reserved_ports`: ports and ranges between commas. -/
def Reserves (text : Text) (port : Nat) : Prop :=
  ∃ item ∈ text.splitOn ',', ∃ lower upper, (item = decimal lower ++ '-' :: decimal upper ∨
    item = decimal lower ∧ lower = upper) ∧ lower ≤ port ∧ port ≤ upper

def rangeText (lower upper : UInt16) : Text := decimal lower.toNat ++ '-' :: decimal upper.toNat

variable {lower upper : UInt16} {existing : Text} {port : Nat} {separator : Char}

theorem not_mem_rangeText (separates : separator.isDigit = false) (other : separator ≠ '-') :
    separator ∉ rangeText lower upper := by
  have inside {number : Nat} : separator ∉ decimal number := not_mem_decimal separates
  simp [rangeText, inside, other]

theorem decimal_ne_range {number left right : Nat} : decimal number ≠ decimal left ++ '-' :: decimal right := by
  intro same
  have dash : '-' ∈ decimal number := by simp [same]
  exact not_mem_decimal rfl dash

theorem range_inj {left right left' right' : Nat}
    (same : decimal left ++ '-' :: decimal right = decimal left' ++ '-' :: decimal right') :
    left = left' ∧ right = right' := by
  have halves := congrArg (splitOnce '-') same
  rw [splitOnce_separated (not_mem_decimal rfl), splitOnce_separated (not_mem_decimal rfl)] at halves
  simpa [decimal_inj] using halves

theorem reserves_rangeText : Reserves (rangeText lower upper) port ↔
    lower.toNat ≤ port ∧ port ≤ upper.toNat := by
  have whole : (rangeText lower upper).splitOn ',' = [rangeText lower upper] :=
    List.splitOn_eq_singleton (not_mem_rangeText rfl (by decide))
  constructor
  · intro reserved
    obtain ⟨item, member, left, right, shape, between⟩ := reserved
    rw [whole, List.mem_singleton] at member
    subst member
    rcases shape with range | ⟨single, _⟩
    · obtain ⟨rfl, rfl⟩ := range_inj range
      exact between
    · exact absurd single.symm decimal_ne_range
  · intro between
    exact ⟨_, by rw [whole]; exact List.mem_singleton_self _, _, _, Or.inl rfl, between⟩

theorem reserves_append {text more : Text} :
    Reserves (text ++ ',' :: more) port ↔ Reserves text port ∨ Reserves more port := by
  unfold Reserves
  rw [List.splitOn_append_cons_self]
  simp only [List.mem_append, or_and_right, exists_or]

theorem not_reserves_nil : ¬ Reserves [] port := by
  intro reserved
  obtain ⟨item, member, left, right, shape, _⟩ := reserved
  rw [List.splitOn_nil, List.mem_singleton] at member
  subst member
  rcases shape with range | ⟨single, _⟩
  · simp at range
  · exact Nat.toDigits_ne_nil single.symm

/-- A reservation returns the bounds of its range and keeps what was reserved. -/
theorem reserveKernelPorts_reserves {file : ReservedPortsFile} {bounds : UInt16 × UInt16}
    {written : Option Text} (read : file.existing = .ok existing)
    (reserved : reserveKernelPorts file (rangeText lower upper) = (.ok bounds, written)) :
    bounds = (lower, upper) ∧ ∃ content, written = some content ∧ ∀ port, Reserves content port ↔
      Reserves (trim existing) port ∨ (lower.toNat ≤ port ∧ port ≤ upper.toNat) := by
  have halves : splitOnce '-' (rangeText lower upper) = some (decimal lower.toNat, decimal upper.toNat) :=
    splitOnce_separated (not_mem_decimal rfl)
  unfold reserveKernelPorts at reserved
  rw [read] at reserved
  dsimp only at reserved
  split at reserved
  · cases reserved
  · rw [halves] at reserved
    dsimp only at reserved
    rw [parseUnsigned_decimal lower.toNat_lt, parseUnsigned_decimal upper.toNat_lt] at reserved
    cases reserved
    refine ⟨by simp, _, rfl, fun port => ?_⟩
    split
    · next nothing => simp [nothing, not_reserves_nil, reserves_rangeText]
    · rw [reserves_append, reserves_rangeText]

end XdpNatd.Daemon
