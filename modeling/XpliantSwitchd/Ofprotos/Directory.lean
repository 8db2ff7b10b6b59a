import XpliantSwitchd.Ofprotos.Defs
import XpliantSwitchd.Lib.KeyedList
import XpliantSwitchd.Lib.Transition
import Mathlib.Data.List.Nodup

/-!
# The ports as a directory

To its clients an ofproto is a directory: under each name of a port there are its type and
the number that the switch daemon has given it.  A call adds a name, gives it a number or
takes it away.  The sets, the tables and the map that the plugin keeps answer every
question as the directory does.
-/

namespace XpliantSwitchd
namespace Ofprotos

/-! ## The directory -/

/-- What is known under a name. -/
structure Entry where
  type : NetdevType
  ofpPort : Option Nat
  deriving DecidableEq

/-- The names of the ports of each ofproto. -/
abbrev Directory := Nat → String → Option Entry

/-- Write the entry under a name. -/
def Directory.set (directory : Directory) (ofproto : Nat) (name : String)
    (entry : Option Entry) : Directory :=
  Function.update directory ofproto (Function.update (directory ofproto) name entry)

/-- What a call does to the directory. -/
def Directory.step (directory : Directory) : Call → Directory
  | .add ofproto netdev _ => directory.set ofproto netdev.name (some ⟨netdev.type, none⟩)
  | .construct ofproto ofpPort netdev =>
      directory.set ofproto netdev.name (some ⟨netdev.type, some ofpPort⟩)
  | .destruct ofproto ofport => directory.set ofproto ofport.netdev.name none
  | .del ofproto ofpPort =>
      Function.update directory ofproto fun name =>
        if (directory ofproto name).bind (·.ofpPort) = some ofpPort then none
        else directory ofproto name

/-- No datapath port and no constructed port has a number. -/
def Datapath.Unused (datapath : Datapath) (portNo : Nat) : Prop :=
  ∀ ofproto, (∀ dpPort ∈ (datapath.ofproto ofproto).dpPorts, dpPort.portNo ≠ portNo) ∧
    ∀ ofport ∈ (datapath.ofproto ofproto).ofports, ofport.odpPort ≠ some portNo

/-- A port is added under a name that is free, with a netdev whose port has a number of
its own, it is constructed once, under a number that is free, and it is destroyed once. -/
def Proper (env : Env) (state : Datapath × Directory) : Call → Prop
  | .add ofproto netdev portNum =>
      state.2 ofproto netdev.name = none ∧
      (∀ ofport ∈ (state.1.ofproto ofproto).ofports, ofport.netdev.name ≠ netdev.name) ∧
      (netdev.type = .system →
        dpPortQueryByName env (state.1.ofproto ofproto) netdev.name = none →
          ∃ portNo, dpPortGet env portNum = some portNo ∧ state.1.Unused portNo)
  | .construct ofproto ofpPort netdev =>
      state.2 ofproto netdev.name = some ⟨netdev.type, none⟩ ∧
      ∀ ofport ∈ (state.1.ofproto ofproto).ofports, ofport.ofpPort ≠ ofpPort
  | .destruct ofproto ofport => ofport ∈ (state.1.ofproto ofproto).ofports
  | .del _ _ => True

/-- The plugin and the directory side by side. -/
def sideBySide (env : Env) (state : Datapath × Directory) (call : Call) :
    Datapath × Directory :=
  (step env state.1 call, state.2.step call)

/-! ## One ofproto -/

@[simp] theorem mem_ssetAdd {set : List String} {name other : String} :
    other ∈ ssetAdd set name ↔ other ∈ set ∨ other = name := by
  unfold ssetAdd
  split_ifs with present
  · constructor
    · exact .inl
    · rintro (member | rfl)
      · exact member
      · exact present
  · rw [List.mem_cons, or_comm]

theorem nodup_ssetAdd {set : List String} (nodup : set.Nodup) (name : String) :
    (ssetAdd set name).Nodup := by
  unfold ssetAdd
  split_ifs with present
  · exact nodup
  · exact nodup.cons present

@[simp] theorem mem_ssetDelete {set : List String} {name other : String} :
    other ∈ ssetDelete set name ↔ other ∈ set ∧ other ≠ name := by
  simp [ssetDelete]

theorem nodup_ssetDelete {set : List String} (nodup : set.Nodup) (name : String) :
    (ssetDelete set name).Nodup := nodup.filter _

/-- The tables of an ofproto agree with its entries.  A port of the hardware that has been
deleted has no entry and stays in the set of the ports until it is destroyed; a datapath
port may be left without an entry. -/
structure Agrees (target : OfprotoXpliant) (entries : String → Option Entry) : Prop where
  portsNodup : target.ports.Nodup
  ghostsNodup : target.ghostPorts.Nodup
  ghosts : ∀ name, name ∈ target.ghostPorts ↔
    ∃ entry, entries name = some entry ∧ entry.type ≠ .system
  ports : ∀ name, name ∈ target.ports ↔
    (∃ entry, entries name = some entry ∧ entry.type = .system) ∨
      ∃ ofport ∈ target.ofports, ofport.netdev = ⟨name, .system⟩
  dpSystem : ∀ dpPort ∈ target.dpPorts, dpPort.netdev.type = .system
  dpNames : (target.dpPorts.map (·.netdev.name)).Nodup
  dpPorts : ∀ name ofpPort, entries name = some ⟨.system, ofpPort⟩ →
    ∃ dpPort ∈ target.dpPorts, dpPort.netdev.name = name
  ofports : ∀ ofport ∈ target.ofports,
    entries ofport.netdev.name = some ⟨ofport.netdev.type, some ofport.ofpPort⟩ ∨
      entries ofport.netdev.name = none
  constructed : ∀ name type ofpPort, entries name = some ⟨type, some ofpPort⟩ →
    ∃ ofport ∈ target.ofports, ofport.netdev = ⟨name, type⟩ ∧ ofport.ofpPort = ofpPort
  names : (target.ofports.map (·.netdev.name)).Nodup
  ofpPorts : (target.ofports.map (·.ofpPort)).Nodup
  kinds : ∀ ofport ∈ target.ofports, ofport.odpPort.isSome ↔ ofport.netdev.type = .system
  numbers : ∀ ofport ∈ target.ofports, ∀ dpPort ∈ target.dpPorts,
    dpPort.netdev.name = ofport.netdev.name → ofport.netdev.type = .system →
      ofport.odpPort = some dpPort.portNo
  gone : ∀ ofport ∈ target.ofports, ofport.netdev.type = .system →
    entries ofport.netdev.name = none →
      ∀ dpPort ∈ target.dpPorts, dpPort.netdev.name ≠ ofport.netdev.name

section Local

variable {target : OfprotoXpliant} {entries : String → Option Entry}

/-- A ghost port is added. -/
theorem agrees_ghost {netdev : Netdev} (ghost : netdev.type ≠ .system)
    (free : entries netdev.name = none)
    (absent : ∀ ofport ∈ target.ofports, ofport.netdev.name ≠ netdev.name)
    (agrees : Agrees target entries) :
    Agrees { target with ghostPorts := ssetAdd target.ghostPorts netdev.name }
      (Function.update entries netdev.name (some ⟨netdev.type, none⟩)) where
  portsNodup := agrees.portsNodup
  ghostsNodup := nodup_ssetAdd agrees.ghostsNodup _
  ghosts := by
    intro name
    rw [mem_ssetAdd, agrees.ghosts]
    by_cases same : name = netdev.name
    · simp [same, ghost]
    · simp [same]
  ports := by
    intro name
    rw [agrees.ports]
    by_cases same : name = netdev.name
    · simp [same, free, ghost]
    · simp [same]
  dpSystem := agrees.dpSystem
  dpNames := agrees.dpNames
  dpPorts := by
    have := agrees.dpPorts
    grind
  ofports := by
    have := agrees.ofports
    grind
  constructed := by
    have := agrees.constructed
    grind
  names := agrees.names
  ofpPorts := agrees.ofpPorts
  kinds := agrees.kinds
  numbers := agrees.numbers
  gone := by
    have := agrees.gone
    grind

/-- A port of the hardware is added whose datapath port is there. -/
theorem agrees_port {netdev : Netdev} (system : netdev.type = .system)
    (free : entries netdev.name = none)
    (absent : ∀ ofport ∈ target.ofports, ofport.netdev.name ≠ netdev.name)
    (present : ∃ dpPort ∈ target.dpPorts, dpPort.netdev.name = netdev.name)
    (agrees : Agrees target entries) :
    Agrees { target with ports := ssetAdd target.ports netdev.name }
      (Function.update entries netdev.name (some ⟨netdev.type, none⟩)) where
  portsNodup := nodup_ssetAdd agrees.portsNodup _
  ghostsNodup := agrees.ghostsNodup
  ghosts := by
    intro name
    rw [agrees.ghosts]
    by_cases same : name = netdev.name
    · simp [same, free, system]
    · simp [same]
  ports := by
    intro name
    rw [mem_ssetAdd, agrees.ports]
    by_cases same : name = netdev.name
    · simp [same, system]
    · simp [same]
  dpSystem := agrees.dpSystem
  dpNames := agrees.dpNames
  dpPorts := by
    intro name ofpPort known
    by_cases same : name = netdev.name
    · rw [same]
      exact present
    · rw [Function.update_of_ne same] at known
      exact agrees.dpPorts name ofpPort known
  ofports := by
    have := agrees.ofports
    grind
  constructed := by
    have := agrees.constructed
    grind
  names := agrees.names
  ofpPorts := agrees.ofpPorts
  kinds := agrees.kinds
  numbers := agrees.numbers
  gone := by
    have := agrees.gone
    grind

/-- A datapath port is made, for a name without one and without a port. -/
theorem agrees_dpPort (dpPort : XpOdpPort) (system : dpPort.netdev.type = .system)
    (fresh : ∀ other ∈ target.dpPorts, other.netdev.name ≠ dpPort.netdev.name)
    (absent : ∀ ofport ∈ target.ofports, ofport.netdev.name ≠ dpPort.netdev.name)
    (agrees : Agrees target entries) :
    Agrees { target with dpPorts := dpPort :: target.dpPorts } entries :=
  { agrees with
    dpSystem := by
      have := agrees.dpSystem
      grind
    dpNames := by
      have := agrees.dpNames
      grind
    dpPorts := by
      intro name ofpPort known
      obtain ⟨other, member, here⟩ := agrees.dpPorts name ofpPort known
      exact ⟨other, List.mem_cons_of_mem _ member, here⟩
    numbers := by
      have := agrees.numbers
      grind
    gone := by
      have := agrees.gone
      grind }

/-- A port that was added is constructed, with the number of its datapath port. -/
theorem agrees_construct {ofport : OfportXpliant}
    (added : entries ofport.netdev.name = some ⟨ofport.netdev.type, none⟩)
    (free : ∀ other ∈ target.ofports, other.ofpPort ≠ ofport.ofpPort)
    (kind : ofport.odpPort.isSome ↔ ofport.netdev.type = .system)
    (number : ∀ dpPort ∈ target.dpPorts, dpPort.netdev.name = ofport.netdev.name →
      ofport.netdev.type = .system → ofport.odpPort = some dpPort.portNo)
    (agrees : Agrees target entries) :
    Agrees { target with ofports := ofport :: target.ofports }
      (Function.update entries ofport.netdev.name
        (some ⟨ofport.netdev.type, some ofport.ofpPort⟩)) := by
  have absent : ∀ other ∈ target.ofports, other.netdev.name ≠ ofport.netdev.name := by
    intro other member same
    have := agrees.ofports other member
    grind
  exact
    { portsNodup := agrees.portsNodup
      ghostsNodup := agrees.ghostsNodup
      ghosts := by
        intro name
        rw [agrees.ghosts]
        by_cases same : name = ofport.netdev.name
        · simp [same, added]
        · simp [same]
      ports := by
        intro name
        rw [agrees.ports]
        by_cases same : name = ofport.netdev.name
        · subst same
          simp only [added, Function.update_self]
          have := agrees.ofports
          grind
        · have different : ofport.netdev ≠ ⟨name, .system⟩ := fun equal => same (by rw [equal])
          simp [same, different]
      dpSystem := agrees.dpSystem
      dpNames := agrees.dpNames
      dpPorts := by
        intro name ofpPort known
        by_cases same : name = ofport.netdev.name
        · subst same
          rw [Function.update_self, Option.some.injEq, Entry.mk.injEq] at known
          exact agrees.dpPorts _ none (known.1 ▸ added)
        · rw [Function.update_of_ne same] at known
          exact agrees.dpPorts name ofpPort known
      ofports := by
        have := agrees.ofports
        grind
      constructed := by
        intro name type ofpPort known
        by_cases same : name = ofport.netdev.name
        · subst same
          rw [Function.update_self, Option.some.injEq, Entry.mk.injEq,
            Option.some.injEq] at known
          obtain ⟨rfl, rfl⟩ := known
          exact ⟨ofport, List.mem_cons_self, rfl, rfl⟩
        · rw [Function.update_of_ne same] at known
          obtain ⟨other, member, here⟩ := agrees.constructed name type ofpPort known
          exact ⟨other, List.mem_cons_of_mem _ member, here⟩
      names := by
        have := agrees.names
        grind
      ofpPorts := by
        have := agrees.ofpPorts
        grind
      kinds := by
        have := agrees.kinds
        grind
      numbers := by
        have := agrees.numbers
        grind
      gone := by
        have := agrees.gone
        grind }

/-- A port is destroyed. -/
theorem agrees_destruct {ofport : OfportXpliant} (member : ofport ∈ target.ofports)
    (address : ∀ other ∈ target.ofports, other.address = ofport.address → other = ofport)
    (agrees : Agrees target entries) :
    Agrees
      { target with
        ports := ssetDelete target.ports ofport.netdev.name
        ghostPorts := ssetDelete target.ghostPorts ofport.netdev.name
        ofports := target.ofports.filter (·.address != ofport.address) }
      (Function.update entries ofport.netdev.name none) := by
  have left : ∀ other, other ∈ target.ofports.filter (·.address != ofport.address) ↔
      other ∈ target.ofports ∧ other.netdev.name ≠ ofport.netdev.name := by
    intro other
    rw [List.mem_filter, bne_iff_ne]
    refine and_congr_right fun otherMember => not_congr ⟨?_, ?_⟩
    · intro same
      rw [address other otherMember same]
    · intro same
      rw [List.inj_on_of_nodup_map agrees.names otherMember member same]
  exact
    { portsNodup := nodup_ssetDelete agrees.portsNodup _
      ghostsNodup := nodup_ssetDelete agrees.ghostsNodup _
      ghosts := by
        intro name
        rw [mem_ssetDelete, agrees.ghosts]
        by_cases same : name = ofport.netdev.name
        · simp [same]
        · simp [same]
      ports := by
        intro name
        rw [mem_ssetDelete, agrees.ports]
        simp only [left]
        by_cases same : name = ofport.netdev.name
        · subst same
          simp only [ne_eq, not_true_eq_false, and_false, Function.update_self,
            reduceCtorEq, false_and, exists_false, false_or, false_iff]
          rintro ⟨other, ⟨_, different⟩, equal⟩
          exact different (by rw [equal])
        · simp only [ne_eq, same, not_false_eq_true, and_true, Function.update_of_ne]
          refine or_congr_right ?_
          constructor
          · rintro ⟨other, otherMember, equal⟩
            exact ⟨other, ⟨otherMember, by rw [equal]; exact same⟩, equal⟩
          · rintro ⟨other, ⟨otherMember, _⟩, equal⟩
            exact ⟨other, otherMember, equal⟩
      dpSystem := agrees.dpSystem
      dpNames := agrees.dpNames
      dpPorts := by
        have := agrees.dpPorts
        grind
      ofports := by
        have := agrees.ofports
        grind
      constructed := by
        intro name type ofpPort known
        by_cases same : name = ofport.netdev.name
        · subst same
          rw [Function.update_self] at known
          exact nomatch known
        · rw [Function.update_of_ne same] at known
          obtain ⟨other, otherMember, equal, here⟩ :=
            agrees.constructed name type ofpPort known
          exact ⟨other, (left other).2 ⟨otherMember, by rw [equal]; exact same⟩, equal, here⟩
      names := agrees.names.sublist (List.filter_sublist.map _)
      ofpPorts := agrees.ofpPorts.sublist (List.filter_sublist.map _)
      kinds := fun other otherMember => agrees.kinds other ((left other).1 otherMember).1
      numbers := fun other otherMember =>
        agrees.numbers other ((left other).1 otherMember).1
      gone := by
        intro other otherMember
        obtain ⟨here, different⟩ := (left other).1 otherMember
        rw [Function.update_of_ne different]
        exact agrees.gone other here }

/-- A ghost port is deleted. -/
theorem agrees_delGhost {ofport : OfportXpliant} (member : ofport ∈ target.ofports)
    (ghost : ofport.netdev.type ≠ .system) (agrees : Agrees target entries) :
    Agrees { target with ghostPorts := ssetDelete target.ghostPorts ofport.netdev.name }
      (Function.update entries ofport.netdev.name none) := by
  have known := agrees.ofports ofport member
  exact
    { portsNodup := agrees.portsNodup
      ghostsNodup := nodup_ssetDelete agrees.ghostsNodup _
      ghosts := by
        intro name
        rw [mem_ssetDelete, agrees.ghosts]
        by_cases same : name = ofport.netdev.name
        · simp [same]
        · simp [same]
      ports := by
        intro name
        rw [agrees.ports]
        by_cases same : name = ofport.netdev.name
        · subst same
          simp only [Function.update_self, reduceCtorEq, false_and, exists_false, false_or]
          constructor
          · rintro (⟨entry, found, system⟩ | other)
            · grind
            · exact other
          · exact .inr
        · simp [same]
      dpSystem := agrees.dpSystem
      dpNames := agrees.dpNames
      dpPorts := by
        have := agrees.dpPorts
        grind
      ofports := by
        have := agrees.ofports
        grind
      constructed := by
        have := agrees.constructed
        grind
      names := agrees.names
      ofpPorts := agrees.ofpPorts
      kinds := agrees.kinds
      numbers := agrees.numbers
      gone := by
        have only := List.inj_on_of_nodup_map agrees.names
        have := agrees.gone
        grind }

/-- A port of the hardware is deleted, with its datapath port. -/
theorem agrees_delPort {ofport : OfportXpliant} {dpPorts : List XpOdpPort}
    (member : ofport ∈ target.ofports) (system : ofport.netdev.type = .system)
    (left : dpPorts.Sublist target.dpPorts)
    (kept : ∀ dpPort ∈ target.dpPorts,
      dpPort ∈ dpPorts ↔ dpPort.netdev.name ≠ ofport.netdev.name)
    (agrees : Agrees target entries) :
    Agrees
      { target with
        ghostPorts := ssetDelete target.ghostPorts ofport.netdev.name
        dpPorts := dpPorts }
      (Function.update entries ofport.netdev.name none) := by
  have known := agrees.ofports ofport member
  have here : ofport.netdev = ⟨ofport.netdev.name, .system⟩ := by
    rw [← system]
  exact
    { portsNodup := agrees.portsNodup
      ghostsNodup := nodup_ssetDelete agrees.ghostsNodup _
      ghosts := by
        intro name
        rw [mem_ssetDelete, agrees.ghosts]
        by_cases same : name = ofport.netdev.name
        · simp [same]
        · simp [same]
      ports := by
        intro name
        rw [agrees.ports]
        by_cases same : name = ofport.netdev.name
        · subst same
          exact ⟨fun _ => .inr ⟨ofport, member, here⟩, fun _ => .inr ⟨ofport, member, here⟩⟩
        · simp [same]
      dpSystem := fun dpPort dpMember => agrees.dpSystem dpPort (left.subset dpMember)
      dpNames := agrees.dpNames.sublist (left.map _)
      dpPorts := by
        intro name ofpPort found
        by_cases same : name = ofport.netdev.name
        · subst same
          rw [Function.update_self] at found
          exact nomatch found
        · rw [Function.update_of_ne same] at found
          obtain ⟨dpPort, dpMember, rfl⟩ := agrees.dpPorts name ofpPort found
          exact ⟨dpPort, (kept dpPort dpMember).2 same, rfl⟩
      ofports := by
        have := agrees.ofports
        grind
      constructed := by
        have := agrees.constructed
        grind
      names := agrees.names
      ofpPorts := agrees.ofpPorts
      kinds := agrees.kinds
      numbers := fun other otherMember dpPort dpMember =>
        agrees.numbers other otherMember dpPort (left.subset dpMember)
      gone := by
        intro other otherMember otherSystem free dpPort dpMember
        by_cases same : other.netdev.name = ofport.netdev.name
        · rw [same]
          exact (kept dpPort (left.subset dpMember)).1 dpMember
        · rw [Function.update_of_ne same] at free
          exact agrees.gone other otherMember otherSystem free dpPort (left.subset dpMember) }

end Local

/-! ## All ofprotos -/

/-- A number belongs to a name: that of its datapath port or of its port. -/
def Datapath.Uses (datapath : Datapath) (ofproto : Nat) (name : String) (portNo : Nat) :
    Prop :=
  (∃ dpPort ∈ (datapath.ofproto ofproto).dpPorts,
    dpPort.netdev.name = name ∧ dpPort.portNo = portNo) ∨
  ∃ ofport ∈ (datapath.ofproto ofproto).ofports,
    ofport.netdev.name = name ∧ ofport.odpPort = some portNo

/-- Every ofproto agrees with its entries, the map has the ports that have a number, and a
number belongs to one name. -/
structure Sound (state : Datapath × Directory) : Prop where
  agrees : ∀ ofproto, Agrees (state.1.ofproto ofproto) (state.2 ofproto)
  fresh : ∀ ofproto, ∀ ofport ∈ (state.1.ofproto ofproto).ofports,
    ofport.address < state.1.nextAddress
  distinct : ∀ ofproto other, ∀ left ∈ (state.1.ofproto ofproto).ofports,
    ∀ right ∈ (state.1.ofproto other).ofports, left.address = right.address →
      ofproto = other ∧ left = right
  nodes : ∀ node, node ∈ state.1.odpToOfportMap ↔
    ∃ ofport ∈ (state.1.ofproto node.ofproto).ofports,
      ofport.odpPort = some node.odpPort ∧ ofport.address = node.address ∧
        ofport.ofpPort = node.ofpPort
  exclusive : ∀ ofproto other left right portNo, state.1.Uses ofproto left portNo →
    state.1.Uses other right portNo → ofproto = other ∧ left = right

theorem sound_empty : Sound (Datapath.empty, fun _ _ => none) where
  agrees _ := by constructor <;> simp [Datapath.empty]
  fresh _ := by simp [Datapath.empty]
  distinct _ _ := by simp [Datapath.empty]
  nodes _ := by simp [Datapath.empty]
  exclusive _ _ _ _ _ := by simp [Datapath.empty, Datapath.Uses]

section Lookups

variable {env : Env} {datapath : Datapath} {directory : Directory}

/-- The search for a datapath port by its name. -/
theorem dpPortQueryByName_eq_some {target : OfprotoXpliant} {entries : String → Option Entry}
    (agrees : Agrees target entries) {name : String} {dpPort : XpOdpPort} :
    dpPortQueryByName env target name = some dpPort ↔
      dpPort ∈ target.dpPorts ∧ dpPort.netdev.name = name := by
  unfold dpPortQueryByName
  have nodup : ((env.dpPortOrder.visit target.dpPorts).map (·.netdev.name)).Nodup :=
    ((env.dpPortOrder.perm _).map _).nodup_iff.2 agrees.dpNames
  rw [KeyedList.find?_key_eq_some nodup, Traversal.mem_visit]

theorem dpPortQueryByName_eq_none {target : OfprotoXpliant} {name : String} :
    dpPortQueryByName env target name = none ↔
      ∀ dpPort ∈ target.dpPorts, dpPort.netdev.name ≠ name := by
  unfold dpPortQueryByName
  rw [Traversal.find?_visit_eq_none]
  simp

/-- The number that the map gives for a datapath port is that of the port that has it. -/
theorem odpPortToOfpPort_eq_some (sound : Sound (datapath, directory))
    {ofproto odpPort ofpPort : Nat} :
    odpPortToOfpPort env datapath ofproto odpPort = some ofpPort ↔
      ∃ ofport ∈ (datapath.ofproto ofproto).ofports,
        ofport.odpPort = some odpPort ∧ ofport.ofpPort = ofpPort := by
  unfold odpPortToOfpPort dpPortToOfport
  constructor
  · intro found
    cases first : (env.nodeOrder.visit datapath.odpToOfportMap).find?
        (·.odpPort == odpPort) with
    | none =>
        rw [first] at found
        exact nomatch found
    | some node =>
        simp only [first, Option.ite_none_right_eq_some, Option.some.injEq] at found
        obtain ⟨rfl, rfl⟩ := found
        obtain ⟨member, number⟩ := env.nodeOrder.of_find?_visit first
        obtain ⟨ofport, ofportMember, known, _, same⟩ := (sound.nodes node).1 member
        have here : node.odpPort = odpPort := by simpa using number
        exact ⟨ofport, ofportMember, here ▸ known, same⟩
  · rintro ⟨ofport, member, known, rfl⟩
    have present : (⟨ofport.address, ofproto, ofport.ofpPort, odpPort⟩ : OdpPortNode) ∈
        datapath.odpToOfportMap := (sound.nodes _).2 ⟨ofport, member, known, rfl, rfl⟩
    cases first : (env.nodeOrder.visit datapath.odpToOfportMap).find?
        (·.odpPort == odpPort) with
    | none =>
        have absent := env.nodeOrder.find?_visit_eq_none.1 first _ present
        simp at absent
    | some node =>
        obtain ⟨nodeMember, number⟩ := env.nodeOrder.of_find?_visit first
        obtain ⟨other, otherMember, otherKnown, _, otherPort⟩ :=
          (sound.nodes node).1 nodeMember
        have here : node.odpPort = odpPort := by simpa using number
        obtain ⟨same, names⟩ := sound.exclusive node.ofproto ofproto _ _ odpPort
          (.inr ⟨other, otherMember, rfl, here ▸ otherKnown⟩)
          (.inr ⟨ofport, member, rfl, known⟩)
        subst same
        have equal := List.inj_on_of_nodup_map (sound.agrees node.ofproto).names otherMember
          member names
        simp [← otherPort, equal]

end Lookups

/-! ## The calls -/

section Calls

variable {env : Env} {datapath : Datapath} {directory : Directory}

theorem modify_ofproto (ofproto other : Nat) (change : OfprotoXpliant → OfprotoXpliant) :
    (datapath.modify ofproto change).ofproto other =
      if other = ofproto then change (datapath.ofproto ofproto) else datapath.ofproto other := by
  simp [Datapath.modify, Function.update_apply]

theorem modify_modify (ofproto : Nat) (change other : OfprotoXpliant → OfprotoXpliant) :
    (datapath.modify ofproto change).modify ofproto other =
      datapath.modify ofproto fun target => other (change target) := by
  simp [Datapath.modify]

/-- A call that leaves the constructed ports alone, and makes at most the datapath port of
one name, with a number of its own. -/
theorem sound_tables {ofproto : Nat} (change : OfprotoXpliant → OfprotoXpliant)
    {entries : String → Option Entry} (name : String)
    (agrees : Agrees (change (datapath.ofproto ofproto)) entries)
    (ofports : (change (datapath.ofproto ofproto)).ofports =
      (datapath.ofproto ofproto).ofports)
    (dpPorts : ∀ dpPort ∈ (change (datapath.ofproto ofproto)).dpPorts,
      dpPort ∈ (datapath.ofproto ofproto).dpPorts ∨
        dpPort.netdev.name = name ∧ datapath.Unused dpPort.portNo)
    (sound : Sound (datapath, directory)) :
    Sound (datapath.modify ofproto change, Function.update directory ofproto entries) := by
  have same : ∀ other, ((datapath.modify ofproto change).ofproto other).ofports =
      (datapath.ofproto other).ofports := by
    intro other
    rw [modify_ofproto]
    split_ifs with here
    · rw [ofports, here]
    · rfl
  have uses : ∀ other used portNo, (datapath.modify ofproto change).Uses other used portNo →
      datapath.Uses other used portNo ∨
        other = ofproto ∧ used = name ∧ datapath.Unused portNo := by
    intro other used portNo
    rintro (⟨dpPort, member, here, number⟩ | ⟨ofport, member, here, number⟩)
    · rw [modify_ofproto] at member
      split_ifs at member with place
      · obtain old | ⟨named, unused⟩ := dpPorts dpPort member
        · exact .inl (.inl ⟨dpPort, place ▸ old, here, number⟩)
        · exact .inr ⟨place, here ▸ named, number ▸ unused⟩
      · exact .inl (.inl ⟨dpPort, member, here, number⟩)
    · rw [same] at member
      exact .inl (.inr ⟨ofport, member, here, number⟩)
  have unusedNot : ∀ other used portNo, datapath.Unused portNo →
      ¬datapath.Uses other used portNo := by
    intro other used portNo unused
    rintro (⟨dpPort, member, _, number⟩ | ⟨ofport, member, _, number⟩)
    · exact (unused other).1 dpPort member number
    · exact (unused other).2 ofport member number
  refine ⟨?_, ?_, ?_, ?_, ?_⟩
  · intro other
    dsimp only
    rw [modify_ofproto, Function.update_apply]
    split_ifs
    · exact agrees
    · exact sound.agrees other
  · intro other ofport member
    rw [same] at member
    exact sound.fresh other ofport member
  · intro left right leftPort leftMember rightPort rightMember
    rw [same] at leftMember rightMember
    exact sound.distinct left right leftPort leftMember rightPort rightMember
  · intro node
    rw [same]
    exact sound.nodes node
  · intro left right leftName rightName portNo leftUses rightUses
    obtain old | ⟨rfl, rfl, unused⟩ := uses left leftName portNo leftUses
    · obtain old' | ⟨rfl, rfl, unused⟩ := uses right rightName portNo rightUses
      · exact sound.exclusive left right leftName rightName portNo old old'
      · exact absurd old (unusedNot _ _ _ unused)
    · obtain old' | ⟨rfl, rfl, _⟩ := uses right rightName portNo rightUses
      · exact absurd old' (unusedNot _ _ _ unused)
      · exact ⟨rfl, rfl⟩

theorem sound_portAdd {ofproto : Nat} {netdev : Netdev} {portNum : Option Nat}
    (sound : Sound (datapath, directory))
    (proper : Proper env (datapath, directory) (.add ofproto netdev portNum)) :
    Sound (sideBySide env (datapath, directory) (.add ofproto netdev portNum)) ∧
      (portAdd env datapath ofproto netdev portNum).1 = none := by
  obtain ⟨free, absent, numbered⟩ := proper
  have agrees : Agrees (datapath.ofproto ofproto) (directory ofproto) := sound.agrees ofproto
  simp only [sideBySide, step, portAdd, Directory.step, Directory.set]
  by_cases ghost : netdev.type ≠ .system
  · simp only [if_pos ghost, and_true]
    exact sound_tables _ netdev.name (agrees_ghost ghost free absent agrees) rfl
      (fun dpPort member => .inl member) sound
  · have system : netdev.type = .system := not_not.1 ghost
    rw [if_neg ghost]
    cases found : dpPortQueryByName env (datapath.ofproto ofproto) netdev.name with
    | some dpPort =>
        have present := (dpPortQueryByName_eq_some agrees).1 found
        simp only [and_true]
        exact sound_tables _ netdev.name
          (agrees_port system free absent ⟨dpPort, present⟩ agrees) rfl
          (fun dpPort member => .inl member) sound
    | none =>
        obtain ⟨portNo, number, unused⟩ := numbered system found
        simp only [number, and_true]
        have fresh := dpPortQueryByName_eq_none.1 found
        have made := agrees_dpPort ⟨portNo, netdev⟩ system fresh absent agrees
        have added := @agrees_port
          { datapath.ofproto ofproto with
            dpPorts := ⟨portNo, netdev⟩ :: (datapath.ofproto ofproto).dpPorts }
          _ netdev system free absent ⟨⟨portNo, netdev⟩, List.mem_cons_self, rfl⟩ made
        refine sound_tables _ netdev.name added rfl ?_ sound
        intro dpPort member
        obtain rfl | old := List.mem_cons.1 member
        · exact .inr ⟨rfl, unused⟩
        · exact .inl old

/-- A port is put into the tables, under an address of its own, with the number of its
datapath port. -/
theorem sound_install {ofproto : Nat} {ofport : OfportXpliant}
    {entries : String → Option Entry} (address : ofport.address = datapath.nextAddress)
    (number : ∀ odpPort, ofport.odpPort = some odpPort →
      ∃ dpPort ∈ (datapath.ofproto ofproto).dpPorts,
        dpPort.netdev.name = ofport.netdev.name ∧ dpPort.portNo = odpPort)
    (agrees : Agrees
      { datapath.ofproto ofproto with
        ofports := ofport :: (datapath.ofproto ofproto).ofports } entries)
    (sound : Sound (datapath, directory)) :
    Sound (installOfport datapath ofproto ofport,
      Function.update directory ofproto entries) := by
  have tables : ∀ other, (installOfport datapath ofproto ofport).ofproto other =
      if other = ofproto then
        { datapath.ofproto ofproto with
          ofports := ofport :: (datapath.ofproto ofproto).ofports }
      else datapath.ofproto other := by
    intro other
    exact Function.update_apply _ _ _ _
  have ports : ∀ other candidate,
      candidate ∈ ((installOfport datapath ofproto ofport).ofproto other).ofports ↔
        other = ofproto ∧ candidate = ofport ∨
          candidate ∈ (datapath.ofproto other).ofports := by
    intro other candidate
    rw [tables]
    split_ifs with here
    · simp [here]
    · simp [here]
  have older : ∀ other, ∀ candidate ∈ (datapath.ofproto other).ofports,
      candidate.address ≠ ofport.address := by
    intro other candidate member same
    have before := sound.fresh other candidate member
    rw [same, address] at before
    exact Nat.lt_irrefl _ before
  have uses : ∀ other used portNo, (installOfport datapath ofproto ofport).Uses other used
      portNo → datapath.Uses other used portNo := by
    intro other used portNo
    rintro (⟨dpPort, member, here, known⟩ | ⟨candidate, member, here, known⟩)
    · rw [tables] at member
      split_ifs at member with place
      · exact .inl ⟨dpPort, place ▸ member, here, known⟩
      · exact .inl ⟨dpPort, member, here, known⟩
    · obtain ⟨rfl, rfl⟩ | old := (ports other candidate).1 member
      · obtain ⟨dpPort, dpMember, named, numbered⟩ := number portNo known
        exact .inl ⟨dpPort, dpMember, named.trans here, numbered⟩
      · exact .inr ⟨candidate, old, here, known⟩
  refine ⟨?_, ?_, ?_, ?_, ?_⟩
  · intro other
    dsimp only
    rw [tables, Function.update_apply]
    split_ifs
    · exact agrees
    · exact sound.agrees other
  · intro other candidate member
    obtain ⟨rfl, rfl⟩ | old := (ports other candidate).1 member
    · exact address ▸ Nat.lt_succ_self _
    · exact Nat.lt_succ_of_lt (sound.fresh other candidate old)
  · intro left right leftPort leftMember rightPort rightMember same
    obtain ⟨rfl, rfl⟩ | leftOld := (ports left leftPort).1 leftMember
    · obtain ⟨rfl, rfl⟩ | rightOld := (ports right rightPort).1 rightMember
      · exact ⟨rfl, rfl⟩
      · exact absurd same.symm (older right rightPort rightOld)
    · obtain ⟨rfl, rfl⟩ | rightOld := (ports right rightPort).1 rightMember
      · exact absurd same (older left leftPort leftOld)
      · exact sound.distinct left right leftPort leftOld rightPort rightOld same
  · intro node
    have new : node ∈ (installOfport datapath ofproto ofport).odpToOfportMap ↔
        (node.ofproto = ofproto ∧ ofport.odpPort = some node.odpPort ∧
          ofport.address = node.address ∧ ofport.ofpPort = node.ofpPort) ∨
        node ∈ datapath.odpToOfportMap := by
      obtain ⟨nodeAddress, place, ofpPort, odpPort⟩ := node
      unfold installOfport
      cases ofport.odpPort with
      | none => simp
      | some known =>
          simp only [Option.map_some, Option.toList_some, List.singleton_append,
            List.mem_cons, OdpPortNode.mk.injEq, Option.some.injEq]
          refine or_congr_left ⟨?_, ?_⟩
          · rintro ⟨rfl, rfl, rfl, rfl⟩
            exact ⟨rfl, rfl, rfl, rfl⟩
          · rintro ⟨rfl, rfl, rfl, rfl⟩
            exact ⟨rfl, rfl, rfl, rfl⟩
    simp only [new, ports, sound.nodes node]
    grind
  · intro left right leftName rightName portNo leftUses rightUses
    exact sound.exclusive left right leftName rightName portNo
      (uses left leftName portNo leftUses) (uses right rightName portNo rightUses)

theorem sound_portConstruct {ofproto ofpPort : Nat} {netdev : Netdev}
    (sound : Sound (datapath, directory))
    (proper : Proper env (datapath, directory) (.construct ofproto ofpPort netdev)) :
    Sound (sideBySide env (datapath, directory) (.construct ofproto ofpPort netdev)) ∧
      (portConstruct env datapath ofproto ofpPort netdev).1 = none := by
  have added : directory ofproto netdev.name = some ⟨netdev.type, none⟩ := proper.1
  have free := proper.2
  have agrees : Agrees (datapath.ofproto ofproto) (directory ofproto) := sound.agrees ofproto
  simp only [sideBySide, step, portConstruct, Directory.step, Directory.set]
  by_cases ghost : netdev.type ≠ .system
  · simp only [if_pos ghost, and_true]
    refine sound_install rfl ?_ ?_ sound
    · intro odpPort known
      simp [newOfport] at known
    · refine @agrees_construct _ _ (newOfport datapath ofpPort netdev none) added free ?_ ?_
        agrees
      · simp [newOfport, ghost]
      · exact fun _ _ _ system => absurd system ghost
  · have system : netdev.type = .system := not_not.1 ghost
    obtain ⟨dpPort, member, named⟩ := agrees.dpPorts netdev.name none (system ▸ added)
    have found := (@dpPortQueryByName_eq_some env _ _ agrees _ _).2 ⟨member, named⟩
    have unmapped : odpPortToOfpPort env datapath ofproto dpPort.portNo = none := by
      by_contra mapped
      obtain ⟨other, mapped⟩ := Option.ne_none_iff_exists'.1 mapped
      obtain ⟨ofport, ofportMember, known, _⟩ := (odpPortToOfpPort_eq_some sound).1 mapped
      obtain ⟨_, same⟩ := sound.exclusive ofproto ofproto _ _ dpPort.portNo
        (.inl ⟨dpPort, member, named, rfl⟩) (.inr ⟨ofport, ofportMember, rfl, known⟩)
      have known := agrees.ofports ofport ofportMember
      rw [← same, added] at known
      simp at known
    rw [if_neg ghost]
    simp only [found, unmapped, and_true]
    refine sound_install rfl ?_ ?_ sound
    · intro odpPort known
      exact ⟨dpPort, member, named, Option.some.inj known⟩
    · refine @agrees_construct _ _ (newOfport datapath ofpPort netdev (some dpPort.portNo))
        added free ?_ ?_ agrees
      · simp [newOfport, system]
      · intro other otherMember same _
        have equal := List.inj_on_of_nodup_map agrees.dpNames otherMember member
          (same.trans named.symm)
        rw [equal]
        rfl

theorem sound_portDestruct {ofproto : Nat} {ofport : OfportXpliant}
    (sound : Sound (datapath, directory))
    (member : ofport ∈ (datapath.ofproto ofproto).ofports) :
    Sound (sideBySide env (datapath, directory) (.destruct ofproto ofport)) := by
  have agrees : Agrees (datapath.ofproto ofproto) (directory ofproto) := sound.agrees ofproto
  have tables : ∀ other, (portDestruct datapath ofproto ofport).ofproto other =
      if other = ofproto then
        { datapath.ofproto ofproto with
          ports := ssetDelete (datapath.ofproto ofproto).ports ofport.netdev.name
          ghostPorts := ssetDelete (datapath.ofproto ofproto).ghostPorts ofport.netdev.name
          ofports :=
            (datapath.ofproto ofproto).ofports.filter (·.address != ofport.address) }
      else datapath.ofproto other := by
    intro other
    exact Function.update_apply _ _ _ _
  have ports : ∀ other candidate,
      candidate ∈ ((portDestruct datapath ofproto ofport).ofproto other).ofports ↔
        candidate ∈ (datapath.ofproto other).ofports ∧
          candidate.address ≠ ofport.address := by
    intro other candidate
    rw [tables]
    split_ifs with here
    · simp [here]
    · refine ⟨fun candidateMember => ⟨candidateMember, fun same => here ?_⟩, And.left⟩
      exact (sound.distinct other ofproto candidate candidateMember ofport member same).1
  have uses : ∀ other used portNo, (portDestruct datapath ofproto ofport).Uses other used
      portNo → datapath.Uses other used portNo := by
    intro other used portNo
    rintro (⟨dpPort, dpMember, here, known⟩ | ⟨candidate, candidateMember, here, known⟩)
    · rw [tables] at dpMember
      split_ifs at dpMember with place
      · exact .inl ⟨dpPort, place ▸ dpMember, here, known⟩
      · exact .inl ⟨dpPort, dpMember, here, known⟩
    · exact .inr ⟨candidate, ((ports other candidate).1 candidateMember).1, here, known⟩
  refine ⟨?_, ?_, ?_, ?_, ?_⟩
  · intro other
    simp only [sideBySide, step, Directory.step, Directory.set]
    rw [tables, Function.update_apply]
    split_ifs
    · exact agrees_destruct member (fun candidate candidateMember same =>
        (sound.distinct ofproto ofproto candidate candidateMember ofport member same).2) agrees
    · exact sound.agrees other
  · intro other candidate candidateMember
    exact sound.fresh other candidate ((ports other candidate).1 candidateMember).1
  · intro left right leftPort leftMember rightPort rightMember
    exact sound.distinct left right leftPort ((ports left leftPort).1 leftMember).1
      rightPort ((ports right rightPort).1 rightMember).1
  · intro node
    have removed : node ∈ (portDestruct datapath ofproto ofport).odpToOfportMap ↔
        node ∈ datapath.odpToOfportMap ∧ node.address ≠ ofport.address := by
      unfold portDestruct
      split_ifs with mapped
      · simp
      · refine ⟨fun nodeMember => ⟨nodeMember, fun same => mapped ?_⟩, And.left⟩
        obtain ⟨other, otherMember, known, address, _⟩ := (sound.nodes node).1 nodeMember
        rw [← (sound.distinct _ _ other otherMember ofport member (address.trans same)).2,
          known]
        rfl
    show node ∈ (portDestruct datapath ofproto ofport).odpToOfportMap ↔ _
    rw [removed, sound.nodes node]
    constructor
    · rintro ⟨⟨other, otherMember, known, address, number⟩, different⟩
      exact ⟨other, (ports _ _).2 ⟨otherMember, address ▸ different⟩, known, address, number⟩
    · rintro ⟨other, otherMember, known, address, number⟩
      obtain ⟨old, different⟩ := (ports _ _).1 otherMember
      exact ⟨⟨other, old, known, address, number⟩, address ▸ different⟩
  · intro left right leftName rightName portNo leftUses rightUses
    exact sound.exclusive left right leftName rightName portNo
      (uses left leftName portNo leftUses) (uses right rightName portNo rightUses)

/-- The search for a datapath port by the number of a port finds the one with its name. -/
theorem dpLookupPort_eq_some (sound : Sound (datapath, directory)) {ofproto odpPort : Nat}
    {ofport : OfportXpliant} (member : ofport ∈ (datapath.ofproto ofproto).ofports)
    (known : ofport.odpPort = some odpPort) {dpPort : XpOdpPort} :
    dpLookupPort env (datapath.ofproto ofproto) odpPort = some dpPort ↔
      dpPort ∈ (datapath.ofproto ofproto).dpPorts ∧
        dpPort.netdev.name = ofport.netdev.name := by
  have agrees : Agrees (datapath.ofproto ofproto) (directory ofproto) := sound.agrees ofproto
  have numbered : ∀ candidate ∈ (datapath.ofproto ofproto).dpPorts,
      candidate.portNo = odpPort ↔ candidate.netdev.name = ofport.netdev.name := by
    intro candidate candidateMember
    constructor
    · intro number
      exact (sound.exclusive ofproto ofproto _ _ odpPort
        (.inl ⟨candidate, candidateMember, rfl, number⟩)
        (.inr ⟨ofport, member, rfl, known⟩)).2
    · intro named
      have system := (agrees.kinds ofport member).1 (by rw [known]; rfl)
      have number := agrees.numbers ofport member candidate candidateMember named system
      exact Option.some.inj (number.symm.trans known)
  unfold dpLookupPort
  constructor
  · intro found
    obtain ⟨dpMember, number⟩ := env.dpPortOrder.of_find?_visit found
    exact ⟨dpMember, (numbered dpPort dpMember).1 (by simpa using number)⟩
  · rintro ⟨dpMember, named⟩
    cases found : (env.dpPortOrder.visit (datapath.ofproto ofproto).dpPorts).find?
        (·.portNo == odpPort) with
    | none =>
        have absent := env.dpPortOrder.find?_visit_eq_none.1 found dpPort dpMember
        simp [(numbered dpPort dpMember).2 named] at absent
    | some other =>
        obtain ⟨otherMember, number⟩ := env.dpPortOrder.of_find?_visit found
        have otherNamed := (numbered other otherMember).1 (by simpa using number)
        rw [List.inj_on_of_nodup_map agrees.dpNames otherMember dpMember
          (otherNamed.trans named.symm)]

/-- The deletion of the number of a port leaves the datapath ports of the other names. -/
theorem doDelPort_left (sound : Sound (datapath, directory)) {ofproto odpPort : Nat}
    {ofport : OfportXpliant} (member : ofport ∈ (datapath.ofproto ofproto).ofports)
    (known : ofport.odpPort = some odpPort) (ghostPorts : List String) :
    ∃ dpPorts : List XpOdpPort,
      (doDelPort env { datapath.ofproto ofproto with ghostPorts := ghostPorts } odpPort).2 =
        { datapath.ofproto ofproto with ghostPorts := ghostPorts, dpPorts := dpPorts } ∧
      dpPorts.Sublist (datapath.ofproto ofproto).dpPorts ∧
      ∀ dpPort ∈ (datapath.ofproto ofproto).dpPorts,
        dpPort ∈ dpPorts ↔ dpPort.netdev.name ≠ ofport.netdev.name := by
  have names := (sound.agrees ofproto).dpNames
  have looked : ∀ dpPort, _ ↔ _ := fun dpPort =>
    @dpLookupPort_eq_some env _ _ sound _ _ _ member known dpPort
  have unfolded : dpLookupPort env
      { datapath.ofproto ofproto with ghostPorts := ghostPorts } odpPort =
        dpLookupPort env (datapath.ofproto ofproto) odpPort := rfl
  unfold doDelPort
  rw [unfolded]
  cases found : dpLookupPort env (datapath.ofproto ofproto) odpPort with
  | none =>
      refine ⟨(datapath.ofproto ofproto).dpPorts, rfl, List.Sublist.refl _, ?_⟩
      intro dpPort dpMember
      refine iff_of_true dpMember fun named => ?_
      have other := (looked dpPort).2 ⟨dpMember, named⟩
      rw [found] at other
      exact nomatch other
  | some deleted =>
      obtain ⟨deletedMember, deletedNamed⟩ := (looked deleted).1 found
      refine ⟨(datapath.ofproto ofproto).dpPorts.erase deleted, rfl,
        List.erase_sublist, ?_⟩
      intro dpPort dpMember
      rw [(List.Nodup.of_map _ names).mem_erase_iff]
      refine ⟨fun left named => left.1 ?_, fun different => ⟨?_, dpMember⟩⟩
      · exact List.inj_on_of_nodup_map names dpMember deletedMember
          (named.trans deletedNamed.symm)
      · rintro rfl
        exact different deletedNamed

/-- The deletion of a number takes the name of its port away. -/
theorem del_entries {target : OfprotoXpliant} {entries : String → Option Entry}
    (agrees : Agrees target entries) (ofpPort : Nat) :
    (fun name => if (entries name).bind (·.ofpPort) = some ofpPort then none
      else entries name) =
      match getOfpPort target ofpPort with
      | none => entries
      | some ofport => Function.update entries ofport.netdev.name none := by
  funext name
  cases found : getOfpPort target ofpPort with
  | none =>
      have absent := List.find?_eq_none.1 found
      refine if_neg fun number => ?_
      obtain ⟨⟨type, _⟩, known, rfl⟩ := Option.bind_eq_some_iff.1 number
      obtain ⟨ofport, member, _, here⟩ := agrees.constructed name type ofpPort known
      exact absent ofport member (by simp [here])
  | some ofport =>
      have member := List.mem_of_find?_eq_some found
      have here : ofport.ofpPort = ofpPort := by simpa using List.find?_some found
      have known := agrees.ofports ofport member
      by_cases same : name = ofport.netdev.name
      · subst same
        simp only [Function.update_self]
        obtain known | known := known
        · simp [known, here]
        · simp [known]
      · simp only [Function.update_of_ne same]
        refine if_neg fun number => same ?_
        obtain ⟨⟨type, _⟩, known, rfl⟩ := Option.bind_eq_some_iff.1 number
        obtain ⟨other, otherMember, equal, there⟩ := agrees.constructed name type ofpPort known
        rw [List.inj_on_of_nodup_map agrees.ofpPorts member otherMember (here.trans there.symm),
          equal]

theorem sound_portDel {ofproto ofpPort : Nat} (sound : Sound (datapath, directory)) :
    Sound (sideBySide env (datapath, directory) (.del ofproto ofpPort)) := by
  have agrees : Agrees (datapath.ofproto ofproto) (directory ofproto) := sound.agrees ofproto
  simp only [sideBySide, step, portDel, Directory.step]
  rw [del_entries agrees ofpPort]
  cases found : getOfpPort (datapath.ofproto ofproto) ofpPort with
  | none => simpa using sound
  | some ofport =>
      have member := List.mem_of_find?_eq_some found
      dsimp only
      by_cases system : ofport.netdev.type = .system
      · rw [if_pos system]
        obtain ⟨odpPort, known⟩ := Option.isSome_iff_exists.1
          ((agrees.kinds ofport member).2 system)
        obtain ⟨dpPorts, left, sublist, kept⟩ := @doDelPort_left env _ _ sound _ _ _ member
          known (ssetDelete (datapath.ofproto ofproto).ghostPorts ofport.netdev.name)
        simp only [known, modify_ofproto, if_true, modify_modify, left]
        refine sound_tables _ ofport.netdev.name
          (agrees_delPort member system sublist kept agrees) rfl ?_ sound
        exact fun dpPort dpMember => .inl (sublist.subset dpMember)
      · rw [if_neg system]
        have deleted := agrees_delGhost member system agrees
        exact sound_tables
          (fun target =>
            { target with ghostPorts := ssetDelete target.ghostPorts ofport.netdev.name })
          ofport.netdev.name deleted rfl (fun dpPort dpMember => .inl dpMember) sound

theorem sound_sideBySide {state : Datapath × Directory} {call : Call} (sound : Sound state)
    (proper : Proper env state call) : Sound (sideBySide env state call) := by
  cases call with
  | add ofproto netdev portNum => exact (sound_portAdd sound proper).1
  | construct ofproto ofpPort netdev => exact (sound_portConstruct sound proper).1
  | destruct ofproto ofport => exact sound_portDestruct sound proper
  | del ofproto ofpPort => exact sound_portDel sound

end Calls

end Ofprotos
end XpliantSwitchd
