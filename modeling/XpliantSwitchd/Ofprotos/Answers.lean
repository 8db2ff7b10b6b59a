import XpliantSwitchd.Ofprotos.Directory

/-!
# Questions about the ports

In every state that the switch daemon can bring a device to, a query and a dump tell what
the directory says.  The one trace of the tables is a port of the hardware that has been
deleted and is not destroyed yet: a query for it fails with another error than one for a
name that was never there, and that error ends a dump.
-/

namespace XpliantSwitchd
namespace Ofprotos

/-- A port of the hardware that has been deleted and is not destroyed yet. -/
def Pending (state : Datapath × Directory) (ofproto : Nat) (ofport : OfportXpliant) : Prop :=
  ofport.netdev.type = .system ∧ state.2 ofproto ofport.netdev.name = none

instance (state : Datapath × Directory) (ofproto : Nat) :
    DecidablePred (Pending state ofproto) := fun _ =>
  inferInstanceAs (Decidable (_ ∧ _))

/-- What the directory says about a name. -/
def answer (state : Datapath × Directory) (ofproto : Nat) (name : String) :
    Except PortError OfprotoPort :=
  match state.2 ofproto name with
  | some entry => .ok ⟨name, entry.type, entry.ofpPort⟩
  | none =>
      if ∃ ofport ∈ (state.1.ofproto ofproto).ofports, ofport.netdev = ⟨name, .system⟩ then
        .error .ENOENT
      else .error .ENODEV

theorem answer_of_entry {state : Datapath × Directory} {ofproto : Nat} {name : String}
    {entry : Entry} (known : state.2 ofproto name = some entry) :
    answer state ofproto name = .ok ⟨name, entry.type, entry.ofpPort⟩ := by
  simp only [answer, known]

theorem answer_of_none {state : Datapath × Directory} {ofproto : Nat} {name : String}
    (free : state.2 ofproto name = none) :
    answer state ofproto name =
      if ∃ ofport ∈ (state.1.ofproto ofproto).ofports, ofport.netdev = ⟨name, .system⟩ then
        .error .ENOENT
      else .error .ENODEV := by
  simp only [answer, free]

/-- The types of the netdevs that are no ports of the hardware are those of the
directory. -/
def Typed (typeOf : String → Option NetdevType) (directory : Directory) : Prop :=
  ∀ ofproto name entry, directory ofproto name = some entry → entry.type ≠ .system →
    typeOf name = some entry.type

section Query

variable {env : Env} {typeOf : String → Option NetdevType} {datapath : Datapath}
  {directory : Directory}

/-- A port has the number that the directory has for its name. -/
theorem ofpPort_of_netdev {target : OfprotoXpliant} {entries : String → Option Entry}
    (agrees : Agrees target entries) {name : String} {entry : Entry}
    (known : entries name = some entry) :
    (target.ofports.find? (·.netdev.name == name)).map (·.ofpPort) = entry.ofpPort := by
  cases number : entry.ofpPort with
  | none =>
      rw [Option.map_eq_none_iff, List.find?_eq_none]
      intro ofport member named
      have here : ofport.netdev.name = name := by simpa using named
      have other := agrees.ofports ofport member
      rw [here, known] at other
      obtain other | other := other
      · rw [Option.some.inj other] at number
        exact nomatch number
      · exact nomatch other
  | some ofpPort =>
      obtain ⟨ofport, member, equal, there⟩ :=
        agrees.constructed name entry.type ofpPort (by rw [known, ← number])
      have named : ofport.netdev.name = name := by rw [equal]
      rw [(KeyedList.find?_key_eq_some agrees.names).2 ⟨member, named⟩, Option.map_some, there]

/-- The map has the number of a datapath port that the directory has for its name. -/
theorem odpPortToOfpPort_eq (sound : Sound (datapath, directory)) {ofproto : Nat}
    {dpPort : XpOdpPort} {entry : Entry}
    (member : dpPort ∈ (datapath.ofproto ofproto).dpPorts)
    (known : directory ofproto dpPort.netdev.name = some entry)
    (system : entry.type = .system) :
    odpPortToOfpPort env datapath ofproto dpPort.portNo = entry.ofpPort := by
  have agrees : Agrees (datapath.ofproto ofproto) (directory ofproto) := sound.agrees ofproto
  ext ofpPort
  rw [odpPortToOfpPort_eq_some sound]
  constructor
  · rintro ⟨ofport, ofportMember, mapped, rfl⟩
    obtain ⟨_, same⟩ := sound.exclusive ofproto ofproto _ _ dpPort.portNo
      (.inl ⟨dpPort, member, rfl, rfl⟩) (.inr ⟨ofport, ofportMember, rfl, mapped⟩)
    have other := agrees.ofports ofport ofportMember
    rw [← same, known] at other
    obtain other | other := other
    · rw [Option.some.inj other]
    · exact nomatch other
  · intro number
    obtain ⟨ofport, ofportMember, equal, there⟩ :=
      agrees.constructed _ entry.type ofpPort (by rw [known, ← number])
    refine ⟨ofport, ofportMember, ?_, there⟩
    exact agrees.numbers ofport ofportMember dpPort member (by rw [equal])
      (by rw [equal]; exact system)

/-- A query tells what the directory says. -/
theorem portQueryByName_eq (sound : Sound (datapath, directory))
    (typed : Typed typeOf directory) (ofproto : Nat) (name : String) :
    portQueryByName env typeOf datapath ofproto name =
      answer (datapath, directory) ofproto name := by
  have agrees : Agrees (datapath.ofproto ofproto) (directory ofproto) := sound.agrees ofproto
  unfold portQueryByName
  cases known : directory ofproto name with
  | some entry =>
      rw [answer_of_entry known]
      by_cases system : entry.type = .system
      · have real : name ∉ (datapath.ofproto ofproto).ghostPorts := by
          rw [agrees.ghosts]
          rintro ⟨other, here, ghost⟩
          rw [known] at here
          exact ghost (Option.some.inj here ▸ system)
        have present : name ∈ (datapath.ofproto ofproto).ports :=
          (agrees.ports name).2 (.inl ⟨entry, known, system⟩)
        obtain ⟨dpPort, member, rfl⟩ := agrees.dpPorts name entry.ofpPort
          (by rw [known, ← system])
        have found := (@dpPortQueryByName_eq_some env _ _ agrees _ _).2 ⟨member, rfl⟩
        have number := @odpPortToOfpPort_eq env _ _ sound _ _ _ member known system
        simp only [if_neg real, present, not_true_eq_false, if_false, found,
          ofprotoPortFromDpPort, number, agrees.dpSystem dpPort member, system]
      · have ghost : name ∈ (datapath.ofproto ofproto).ghostPorts :=
          (agrees.ghosts name).2 ⟨entry, known, system⟩
        simp only [if_pos ghost, typed ofproto name entry known system,
          ofpPort_of_netdev agrees known]
  | none =>
      rw [answer_of_none known]
      have real : name ∉ (datapath.ofproto ofproto).ghostPorts := by
        rw [agrees.ghosts, known]
        simp
      have there : name ∈ (datapath.ofproto ofproto).ports ↔
          ∃ ofport ∈ (datapath.ofproto ofproto).ofports, ofport.netdev = ⟨name, .system⟩ := by
        rw [agrees.ports, known]
        simp
      simp only [if_neg real, there]
      by_cases pending :
          ∃ ofport ∈ (datapath.ofproto ofproto).ofports, ofport.netdev = ⟨name, .system⟩
      · rw [if_neg (not_not.2 pending), if_pos pending]
        obtain ⟨ofport, member, equal⟩ := pending
        have gone := agrees.gone ofport member (by rw [equal]) (by rw [equal, known])
        rw [equal] at gone
        have lost : dpPortQueryByName env (datapath.ofproto ofproto) name = none :=
          dpPortQueryByName_eq_none.2 gone
        rw [lost]
      · rw [if_pos pending, if_neg pending]

end Query

/-! ## Dumps -/

/-- The names of a dump whose answers are right. -/
def listed (query : String → Except PortError OfprotoPort) (names : List String) :
    List OfprotoPort :=
  names.filterMap fun name => (query name).toOption

theorem listed_cons_none {query : String → Except PortError OfprotoPort} {name : String}
    (asked : (query name).toOption = none) (names : List String) :
    listed query (name :: names) = listed query names :=
  List.filterMap_cons_none asked

theorem listed_cons_some {query : String → Except PortError OfprotoPort} {name : String}
    {port : OfprotoPort} (asked : (query name).toOption = some port) (names : List String) :
    listed query (name :: names) = port :: listed query names :=
  List.filterMap_cons_some asked

theorem listed_append (query : String → Except PortError OfprotoPort)
    (names others : List String) :
    listed query (names ++ others) = listed query names ++ listed query others :=
  List.filterMap_append

/-- A part of a dump goes through all names unless one of them has another error than
`ENODEV`. -/
theorem dumpNames_eq {query : String → Except PortError OfprotoPort} {names : List String}
    (clear : ∀ name ∈ names, ∀ error, query name = .error error → error = .ENODEV) :
    dumpNames query names = (listed query names, none) := by
  induction names with
  | nil => rfl
  | cons name names inductionHypothesis =>
      have rest := inductionHypothesis fun other member =>
        clear other (List.mem_cons_of_mem _ member)
      unfold dumpNames listed
      cases asked : query name with
      | ok port => simp [rest, listed, asked, Except.toOption]
      | error error =>
          obtain rfl := clear name List.mem_cons_self error asked
          simp [rest, listed, asked, Except.toOption]

/-- The error of a name ends a part of a dump. -/
theorem dumpNames_snd {query : String → Except PortError OfprotoPort} {names : List String}
    {last : PortError} (different : last ≠ .ENODEV)
    (errors : ∀ name ∈ names, ∀ error, query name = .error error →
      error = .ENODEV ∨ error = last)
    (ends : ∃ name ∈ names, query name = .error last) :
    (dumpNames query names).2 = some last := by
  induction names with
  | nil => simp at ends
  | cons name names inductionHypothesis =>
      have rest := inductionHypothesis fun other member =>
        errors other (List.mem_cons_of_mem _ member)
      unfold dumpNames
      cases asked : query name with
      | ok port => grind
      | error error =>
          obtain rfl | rfl := errors name List.mem_cons_self error asked
          · grind
          · cases error <;> grind

/-- What a part of a dump lists are some of its answers, in order. -/
theorem dumpNames_sublist (query : String → Except PortError OfprotoPort)
    (names : List String) : (dumpNames query names).1.Sublist (listed query names) := by
  induction names with
  | nil => exact List.Sublist.refl _
  | cons name names inductionHypothesis =>
      unfold dumpNames listed
      cases asked : query name with
      | ok port =>
          simp only [List.filterMap_cons, asked, Except.toOption]
          exact inductionHypothesis.cons_cons port
      | error error =>
          simp only [List.filterMap_cons, asked, Except.toOption]
          cases error with
          | ENODEV => exact inductionHypothesis
          | ENOENT | EBUSY | EINVAL => exact List.nil_sublist _

section Dump

variable {env : Env} {typeOf : String → Option NetdevType} {datapath : Datapath}
  {directory : Directory} {ofproto : Nat}

/-- The names that a dump goes through. -/
def dumpedNames (env : Env) (target : OfprotoXpliant) : List String :=
  env.nameOrder.visit target.ports ++ env.nameOrder.visit target.ghostPorts

theorem nodup_dumpedNames {target : OfprotoXpliant} {entries : String → Option Entry}
    (agrees : Agrees target entries) : (dumpedNames env target).Nodup := by
  have ports := (env.nameOrder.perm target.ports).nodup_iff.2 agrees.portsNodup
  have ghosts := (env.nameOrder.perm target.ghostPorts).nodup_iff.2 agrees.ghostsNodup
  refine ports.append ghosts ?_
  intro name port ghost
  rw [Traversal.mem_visit, agrees.ports] at port
  rw [Traversal.mem_visit, agrees.ghosts] at ghost
  obtain ⟨entry, known, different⟩ := ghost
  obtain ⟨other, here, system⟩ | ⟨ofport, member, equal⟩ := port
  · rw [known] at here
    exact different (Option.some.inj here ▸ system)
  · have other := agrees.ofports ofport member
    simp only [equal, known, Option.some.injEq, reduceCtorEq, or_false] at other
    exact different (by rw [other])

/-- The answers of a dump are the entries of the directory. -/
theorem mem_listed (sound : Sound (datapath, directory)) {port : OfprotoPort} :
    port ∈ listed (answer (datapath, directory) ofproto)
        (dumpedNames env (datapath.ofproto ofproto)) ↔
      directory ofproto port.name = some ⟨port.type, port.ofpPort⟩ := by
  have agrees : Agrees (datapath.ofproto ofproto) (directory ofproto) := sound.agrees ofproto
  unfold listed
  rw [List.mem_filterMap]
  constructor
  · rintro ⟨name, _, asked⟩
    cases known : directory ofproto name with
    | none =>
        rw [answer_of_none known] at asked
        split_ifs at asked <;> exact nomatch asked
    | some entry =>
        rw [answer_of_entry known] at asked
        obtain rfl := Option.some.inj asked
        exact known
  · intro known
    refine ⟨port.name, ?_, by rw [answer_of_entry known]; rfl⟩
    rw [dumpedNames, List.mem_append, Traversal.mem_visit, Traversal.mem_visit, agrees.ports,
      agrees.ghosts]
    by_cases system : port.type = .system
    · exact .inl (.inl ⟨_, known, system⟩)
    · exact .inr ⟨_, known, system⟩

/-- The answers of a dump have the names that were asked for. -/
theorem names_listed (names : List String) :
    ((listed (answer (datapath, directory) ofproto) names).map (·.name)).Sublist names := by
  induction names with
  | nil => exact List.Sublist.refl _
  | cons name names inductionHypothesis =>
      cases known : directory ofproto name with
      | none =>
          have asked : (answer (datapath, directory) ofproto name).toOption = none := by
            rw [answer_of_none known]
            split_ifs <;> rfl
          rw [listed_cons_none asked]
          exact inductionHypothesis.cons name
      | some entry =>
          have asked : (answer (datapath, directory) ofproto name).toOption =
              some ⟨name, entry.type, entry.ofpPort⟩ := by
            rw [answer_of_entry known]
            rfl
          rw [listed_cons_some asked, List.map_cons]
          exact inductionHypothesis.cons_cons name

theorem answer_error {state : Datapath × Directory} {name : String} {error : PortError}
    (asked : answer state ofproto name = .error error) :
    error = .ENODEV ∨ error = .ENOENT := by
  cases known : state.2 ofproto name with
  | some entry =>
      rw [answer_of_entry known] at asked
      exact nomatch asked
  | none =>
      rw [answer_of_none known] at asked
      split_ifs at asked
      · exact .inr (Except.error.inj asked).symm
      · exact .inl (Except.error.inj asked).symm

/-- A dump goes through the ghost ports when the ports had no error. -/
theorem portDump_eq (sound : Sound (datapath, directory))
    (typed : Typed typeOf directory) :
    portDump env typeOf datapath ofproto =
      let query := answer (datapath, directory) ofproto
      let ports := dumpNames query (env.nameOrder.visit (datapath.ofproto ofproto).ports)
      let ghosts :=
        dumpNames query (env.nameOrder.visit (datapath.ofproto ofproto).ghostPorts)
      if ports.2 = none then (ports.1 ++ ghosts.1, ghosts.2) else ports := by
  have query : portQueryByName env typeOf datapath ofproto =
      answer (datapath, directory) ofproto :=
    funext fun name => portQueryByName_eq sound typed ofproto name
  unfold portDump
  rw [query]
  dsimp only
  rcases dumpNames (answer (datapath, directory) ofproto)
      (env.nameOrder.visit (datapath.ofproto ofproto).ports) with ⟨found, _ | error⟩
  · rfl
  · rfl

/-- A dump lists entries of the directory, each once. -/
theorem portDump_sublist (sound : Sound (datapath, directory))
    (typed : Typed typeOf directory) :
    (portDump env typeOf datapath ofproto).1.Sublist
      (listed (answer (datapath, directory) ofproto)
        (dumpedNames env (datapath.ofproto ofproto))) := by
  rw [portDump_eq sound typed, dumpedNames, listed_append]
  dsimp only
  split_ifs
  · exact (dumpNames_sublist _ _).append (dumpNames_sublist _ _)
  · exact (dumpNames_sublist _ _).trans (List.sublist_append_left _ _)

/-- A dump ends with an error while a port of the hardware is deleted and not destroyed. -/
theorem portDump_pending (sound : Sound (datapath, directory))
    (typed : Typed typeOf directory)
    (pending : ∃ ofport ∈ (datapath.ofproto ofproto).ofports,
      Pending (datapath, directory) ofproto ofport) :
    (portDump env typeOf datapath ofproto).2 = some .ENOENT := by
  have agrees : Agrees (datapath.ofproto ofproto) (directory ofproto) := sound.agrees ofproto
  obtain ⟨ofport, member, system, free⟩ := pending
  have here : ofport.netdev = ⟨ofport.netdev.name, .system⟩ := by
    rw [← system]
  have asked : answer (datapath, directory) ofproto ofport.netdev.name =
      .error .ENOENT := by
    rw [answer_of_none free, if_pos ⟨ofport, member, here⟩]
  have listedName : ofport.netdev.name ∈
      env.nameOrder.visit (datapath.ofproto ofproto).ports := by
    rw [Traversal.mem_visit, agrees.ports]
    exact .inr ⟨ofport, member, here⟩
  have ended := @dumpNames_snd (answer (datapath, directory) ofproto)
    (env.nameOrder.visit (datapath.ofproto ofproto).ports) .ENOENT (by decide)
    (fun name _ error => answer_error) ⟨_, listedName, asked⟩
  rw [portDump_eq sound typed]
  dsimp only
  rw [if_neg (by rw [ended]; exact Option.some_ne_none _), ended]

/-- Otherwise a dump lists everything. -/
theorem portDump_clear (sound : Sound (datapath, directory))
    (typed : Typed typeOf directory)
    (clear : ¬∃ ofport ∈ (datapath.ofproto ofproto).ofports,
      Pending (datapath, directory) ofproto ofport) :
    portDump env typeOf datapath ofproto =
      (listed (answer (datapath, directory) ofproto)
        (dumpedNames env (datapath.ofproto ofproto)), none) := by
  have harmless : ∀ name error, answer (datapath, directory) ofproto name = .error error →
      error = .ENODEV := by
    intro name error asked
    cases known : directory ofproto name with
    | some entry =>
        rw [answer_of_entry known] at asked
        exact nomatch asked
    | none =>
        have none : ¬∃ ofport ∈ (datapath.ofproto ofproto).ofports,
            ofport.netdev = ⟨name, .system⟩ := by
          rintro ⟨ofport, member, equal⟩
          refine clear ⟨ofport, member, ?_, ?_⟩
          · rw [equal]
          · rw [equal]
            exact known
        rw [answer_of_none known, if_neg none] at asked
        exact (Except.error.inj asked).symm
  rw [portDump_eq sound typed]
  simp only [dumpNames_eq fun name _ => harmless name, if_true, dumpedNames, listed_append]

end Dump

/-! ## Runs -/

section Runs

/-- The tables answer as the directory does. -/
structure AnswersByDirectory (env : Env) (typeOf : String → Option NetdevType)
    (state : Datapath × Directory) : Prop where
  /-- A query by name tells what the directory says. -/
  query : ∀ ofproto name,
    portQueryByName env typeOf state.1 ofproto name = answer state ofproto name
  /-- A dump fails exactly while a port of the hardware is deleted and not
  destroyed. -/
  dumpEnd : ∀ ofproto, (portDump env typeOf state.1 ofproto).2 =
    if ∃ ofport ∈ (state.1.ofproto ofproto).ofports, Pending state ofproto ofport then
      some .ENOENT else none
  dumpOnce : ∀ ofproto, ((portDump env typeOf state.1 ofproto).1.map (·.name)).Nodup
  dumpKnown : ∀ ofproto, ∀ port ∈ (portDump env typeOf state.1 ofproto).1,
    state.2 ofproto port.name = some ⟨port.type, port.ofpPort⟩
  dumpAll : ∀ ofproto, (portDump env typeOf state.1 ofproto).2 = none →
    ∀ name entry, state.2 ofproto name = some entry →
      ⟨name, entry.type, entry.ofpPort⟩ ∈ (portDump env typeOf state.1 ofproto).1
  /-- The next proper call to add or construct a port succeeds. -/
  adds : ∀ ofproto netdev portNum, Proper env state (.add ofproto netdev portNum) →
    (portAdd env state.1 ofproto netdev portNum).1 = none
  constructs : ∀ ofproto ofpPort netdev,
    Proper env state (.construct ofproto ofpPort netdev) →
      (portConstruct env state.1 ofproto ofpPort netdev).1 = none

variable {env : Env} {state : Datapath × Directory}

theorem sound_of_reached
    (reached : Transition.Reach (· = (Datapath.empty, fun _ _ => none)) (Proper env)
      (sideBySide env) state) :
    Sound state := by
  refine reached.invariant Sound ?_ ?_
  · rintro _ rfl
    exact sound_empty
  · intro before call sound proper
    exact sound_sideBySide sound proper

/-- After any proper calls a query by name answers what the directory says, a dump ends
with `ENOENT` exactly while a port of the hardware is deleted and not destroyed, lists
nothing that is not in the directory and nothing twice, and lists everything when it ends
without an error.  The next proper call to add or construct a port succeeds. -/
theorem answers_of_reached {typeOf : String → Option NetdevType}
    (reached : Transition.Reach (· = (Datapath.empty, fun _ _ => none)) (Proper env)
      (sideBySide env) state)
    (typed : Typed typeOf state.2) : AnswersByDirectory env typeOf state := by
  have sound := sound_of_reached reached
  refine ⟨portQueryByName_eq sound typed, ?_, ?_, ?_, ?_, ?_, ?_⟩
  · intro ofproto
    split_ifs with pending
    · exact portDump_pending sound typed pending
    · rw [portDump_clear sound typed pending]
  · intro ofproto
    have names := ((@portDump_sublist env _ _ _ ofproto sound typed).map (·.name)).trans
      (names_listed _)
    exact (nodup_dumpedNames (sound.agrees ofproto)).sublist names
  · intro ofproto port member
    exact (mem_listed sound).1 ((portDump_sublist sound typed).subset member)
  · intro ofproto ended name entry known
    by_cases pending :
        ∃ ofport ∈ (state.1.ofproto ofproto).ofports, Pending state ofproto ofport
    · rw [portDump_pending sound typed pending] at ended
      exact nomatch ended
    · rw [portDump_clear sound typed pending]
      exact (mem_listed sound).2 known
  · intro ofproto netdev portNum proper
    exact (sound_portAdd sound proper).2
  · intro ofproto ofpPort netdev proper
    exact (sound_portConstruct sound proper).2

/-- The ofproto that a call is about. -/
def Call.ofproto : Call → Nat
  | .add ofproto _ _ => ofproto
  | .construct ofproto _ _ => ofproto
  | .destruct ofproto _ => ofproto
  | .del ofproto _ => ofproto

/-- A call leaves the tables of the other ofprotos alone. -/
theorem ofproto_step {datapath : Datapath} {call : Call} {other : Nat}
    (different : other ≠ call.ofproto) :
    (step env datapath call).ofproto other = datapath.ofproto other := by
  cases call with
  | add ofproto netdev portNum =>
      simp only [step, portAdd]
      split_ifs
      · exact Function.update_of_ne different _ _
      · cases dpPortQueryByName env (datapath.ofproto ofproto) netdev.name with
        | some _ => exact Function.update_of_ne different _ _
        | none =>
            cases dpPortGet env portNum with
            | none => rfl
            | some portNo => exact Function.update_of_ne different _ _
  | construct ofproto ofpPort netdev =>
      simp only [step, portConstruct]
      split_ifs
      · exact Function.update_of_ne different _ _
      · cases dpPortQueryByName env (datapath.ofproto ofproto) netdev.name with
        | none => rfl
        | some odpPort =>
            dsimp only
            cases odpPortToOfpPort env datapath ofproto odpPort.portNo with
            | some _ => rfl
            | none => exact Function.update_of_ne different _ _
  | destruct ofproto ofport => exact Function.update_of_ne different _ _
  | del ofproto ofpPort =>
      simp only [step, portDel]
      cases getOfpPort (datapath.ofproto ofproto) ofpPort with
      | none => rfl
      | some ofport =>
          dsimp only
          split_ifs
          · cases ofport.odpPort with
            | none => exact Function.update_of_ne different _ _
            | some odpPort =>
                refine Eq.trans (Function.update_of_ne different _ _) ?_
                exact Function.update_of_ne different _ _
          · exact Function.update_of_ne different _ _

end Runs

/-! ## An example run -/

/-- Hash tables in list order. -/
def sampleEnv : Env where
  cpuPort := 128
  odppLocal := 65534
  dpPortOrder := Traversal.id
  nodeOrder := Traversal.id
  nameOrder := Traversal.id

def portOne : Netdev := ⟨"1", .system⟩

def portTwo : Netdev := ⟨"2", .system⟩

def vlanTen : Netdev := ⟨"1.10", .vlansubint⟩

/-- The first of two ports of an ofproto is deleted, and another ofproto has a port with
the same number. -/
def deletedRun : List Call :=
  [.add 0 portOne (some 0), .construct 0 7 portOne, .add 0 portTwo (some 1),
    .add 1 vlanTen none, .construct 1 7 vlanTen, .construct 0 8 portTwo, .del 0 7]

/-- The type of a netdev of the run. -/
def sampleTypeOf (name : String) : Option NetdevType :=
  if name = vlanTen.name then some vlanTen.type else some .system

/-- The port that is left is known under its number, and the dump of its ofproto fails. -/
theorem answers_deletedRun :
    let state := Transition.run (sideBySide sampleEnv) (Datapath.empty, fun _ _ => none)
      deletedRun
    state.2 0 "2" = some ⟨.system, some 8⟩ ∧
    (∃ ofport ∈ (state.1.ofproto 0).ofports, Pending state 0 ofport) ∧
    AnswersByDirectory sampleEnv sampleTypeOf state := by
  have guarded : Transition.Guarded (Proper sampleEnv) (sideBySide sampleEnv)
      (Datapath.empty, fun _ _ => none) deletedRun := by
    refine ⟨⟨rfl, by decide, fun _ _ => ⟨1, rfl, fun ofproto => ?_⟩⟩,
      ⟨by decide, by decide⟩, ⟨rfl, by decide, fun _ _ => ⟨2, rfl, fun ofproto => ?_⟩⟩,
      ⟨rfl, by decide, fun system => nomatch system⟩, ⟨by decide, by decide⟩,
      ⟨by decide, by decide⟩, trivial, trivial⟩
    · simp [Datapath.empty]
    · by_cases first : ofproto = 0
      · subst first
        decide
      · simp only [sideBySide]
        rw [ofproto_step first, ofproto_step first]
        simp [Datapath.empty]
  have start : Transition.Reach (· = (Datapath.empty, fun _ _ => none)) (Proper sampleEnv)
      (sideBySide sampleEnv) (Datapath.empty, fun _ _ => none) := .start rfl
  refine ⟨by decide, by decide, ?_⟩
  refine answers_of_reached (start.of_run guarded) ?_
  intro ofproto name entry known ghost
  by_cases first : ofproto = 0
  · simp [first, deletedRun, sideBySide, Directory.step, Directory.set,
      Function.update_apply] at known
    grind [portOne, portTwo]
  · by_cases second : ofproto = 1
    · simp [second, deletedRun, sideBySide, Directory.step, Directory.set,
        Function.update_apply] at known
      simp [sampleTypeOf, ← known.2, known.1]
    · simp [first, second, deletedRun, sideBySide, Directory.step, Directory.set,
        Function.update_apply] at known

end Ofprotos
end XpliantSwitchd
