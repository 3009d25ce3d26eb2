import C4D.Concurrent.Registration

/-!
# The program is started once

Any number of nodes register at once with a fresh server, and the start commands
are answered. The counters are the numbers of admitted calls, and the registry
holds the calls that are past their registration (`Consistent`). As long as
nothing is started and every admitted node is in the registry, with as many of
them as expected, some call is still on its way to the start
(`Consistent.pending`). The start leaves `Initializing` under the cluster lock,
so there is no second one.
-/

set_option autoImplicit false

namespace C4D

open Foundations Guarded

namespace Registration

/-! ## Progress of a call -/

/-- How far the registration of a node has come. -/
inductive Progress where
  | outside
  | reconnecting
  | admitted (admission : Admission)
  | opened (admission : Admission)
  | enrolled (admission : Admission)

/-- The admission, once there is one. -/
def Progress.admission : Progress → Option Admission
  | .outside => none
  | .reconnecting => none
  | .admitted admission => some admission
  | .opened admission => some admission
  | .enrolled admission => some admission

/-- The admission, once the node is in the registry. -/
def Progress.entry : Progress → Option Admission
  | .enrolled admission => some admission
  | _ => none

/-- The node has a session. -/
def Progress.hasSession : Progress → Prop
  | .opened _ => True
  | .enrolled _ => True
  | _ => False

namespace Point

def progress : Point → Progress
  | .checkState => .outside
  | .checkMaster => .outside
  | .writeMasterAddr => .outside
  | .writeMasterPort => .outside
  | .getSession => .outside
  | .reconnect _ => .reconnecting
  | .admitNode => .outside
  | .registerSession admission => .admitted admission
  | .registerNode admission _ => .opened admission
  | .loadActive admission _ => .enrolled admission
  | .loadStandby admission _ _ => .enrolled admission
  | .checkStart admission _ _ => .enrolled admission
  | .checkAndStart admission _ => .enrolled admission
  | .returned (some admission) _ => .enrolled admission
  | .returned none _ => .outside

/-- The node was admitted. -/
def Admitted (p : Point) : Prop := p.progress.admission.isSome

/-- The node was admitted with a status. -/
def AdmittedAs (status : Status) (p : Point) : Prop :=
  p.progress.admission.map Admission.status = some status

/-- The node is in the registry with a status. -/
def EnrolledAs (status : Status) (p : Point) : Prop :=
  p.progress.entry.map Admission.status = some status

theorem EnrolledAs.admittedAs {status : Status} {p : Point} (enrolled : p.EnrolledAs status) :
    p.AdmittedAs status := by
  unfold EnrolledAs at enrolled
  unfold AdmittedAs
  cases progress : p.progress with
  | enrolled admission => rwa [progress] at enrolled
  | outside => cases progress ▸ enrolled
  | reconnecting => cases progress ▸ enrolled
  | admitted admission => cases progress ▸ enrolled
  | opened admission => cases progress ▸ enrolled

/-- The call is over. -/
def Returned : Point → Prop
  | .returned _ _ => True
  | _ => False

/-- The call of an admitted node is over. -/
def Served (p : Point) : Prop := p.Admitted ∧ p.Returned

/-- The call goes on to start the program, when everything is complete. -/
def Starting (setting : Setting) : Point → Prop
  | .loadActive _ _ => True
  | .loadStandby _ _ activeNodes => activeNodes = setting.config.activeNodes
  | .checkStart _ _ totalNodes => totalNodes = setting.config.expectedNodes
  | .checkAndStart _ _ => True
  | _ => False

variable {p : Point}

/-- A call that is over, or was never admitted, has nothing left to enter in the registry. -/
theorem entry_of_settled (settled : p.Admitted → p.Returned) :
    p.progress.entry = p.progress.admission := by
  cases p with
  | returned admission result => cases admission <;> rfl
  | registerSession admission => cases settled rfl
  | registerNode admission session => cases settled rfl
  | _ => rfl

theorem Starting.admitted {setting : Setting} (starting : p.Starting setting) : p.Admitted := by
  cases p with
  | loadActive admission session => rfl
  | loadStandby admission session activeNodes => rfl
  | checkStart admission session totalNodes => rfl
  | checkAndStart admission session => rfl
  | _ => exact starting.elim

theorem Starting.not_returned {setting : Setting} (starting : p.Starting setting) :
    ¬ p.Returned := by
  cases p with
  | returned admission result => exact starting.elim
  | _ => exact not_false

instance : DecidablePred Admitted := fun p =>
  inferInstanceAs (Decidable (p.progress.admission.isSome = true))

instance (status : Status) : DecidablePred (AdmittedAs status) := fun p =>
  inferInstanceAs (Decidable (p.progress.admission.map Admission.status = some status))

instance (status : Status) : DecidablePred (EnrolledAs status) := fun p =>
  inferInstanceAs (Decidable (p.progress.entry.map Admission.status = some status))

instance : DecidablePred Returned := fun p => by
  cases p <;> unfold Returned <;> infer_instance

instance : DecidablePred Served := fun p => inferInstanceAs (Decidable (p.Admitted ∧ p.Returned))

end Point

/-! ## What a step can do -/

/-- Everything a step of a call can do, when its node has no session on arrival. -/
inductive Effect (setting : Setting) (req : RegisterRequest) :
    Point → Server → Point → Server → Prop where
  | moved {p p' : Point} {s : Server} (masterAddr masterPort : String)
      (same : p'.progress = p.progress)
      (onward : p.Starting setting → s.current = .initializing →
        s.activeNodes = setting.config.activeNodes →
        s.activeNodes + s.standbyNodes = setting.config.expectedNodes →
        p'.Starting setting ∨ s.nodes.count .active < setting.config.activeNodes) :
      Effect setting req p s p' { s with masterAddr, masterPort }
  | admitted {s counted : Server} {status : Status} {rank : Int}
      (admits : s.Admitted setting status rank counted) :
      Effect setting req .admitNode s (.registerSession ⟨status, rank⟩) counted
  | opened {s : Server} (admission : Admission) (session : Int) (opened : SessionState) :
      Effect setting req (.registerSession admission) s (.registerNode admission session)
        { s with sessions := s.sessions.insert req.nodeId opened }
  | enrolled {s : Server} (admission : Admission) (session : Int) (now : Int) :
      Effect setting req (.registerNode admission session) s (.loadActive admission session)
        (s.registerNode req.nodeId req.nodeUrl admission.status admission.rank now).2
  | started {s : Server} (admission : Admission) (session : Int) (round : Round)
      (result : Except GrpcError RegisterResponse) (initializing : s.current = .initializing)
      (enough : setting.config.activeNodes ≤ s.nodes.count .active) :
      Effect setting req (.checkAndStart admission session) s (.returned (some admission) result)
        { s.started round with current := .running }

end Registration

/-- Every node answers the start command with 200. -/
def Tick.Answered (tick : Tick) : Prop := ∀ id, tick.round.answers id = true

namespace Registration

variable {setting : Setting} {req : RegisterRequest} {tick : Tick}

/-- A step that only moves the call. -/
theorem Effect.still {p p' : Point} {s : Server} (same : p'.progress = p.progress)
    (idle : ¬ p.Starting setting) : Effect setting req p s p' s :=
  .moved s.masterAddr s.masterPort same fun starting => absurd starting idle

theorem effect_of_step (split : setting.config.activeNodes =
      setting.config.expectedNodes - setting.config.standbyNodes) (answered : tick.Answered)
    {p p' : Point} {s s' : Server} (known : p.progress ≠ .reconnecting)
    (fresh : p = .getSession → s.sessions.lookup req.nodeId = none)
    (accepting : s.current.accepting)
    (steps : step setting req tick p s = some (p', s')) : Effect setting req p s p' s' := by
  cases p with
  | checkState =>
      simp only [step] at steps
      split_ifs at steps <;> cases steps <;> exact .still rfl not_false
  | checkMaster =>
      simp only [step] at steps
      split_ifs at steps <;> cases steps <;> exact .still rfl not_false
  | writeMasterAddr =>
      cases steps
      exact .moved req.masterAddr s.masterPort rfl fun starting => starting.elim
  | writeMasterPort =>
      cases steps
      exact .moved s.masterAddr req.masterPort rfl fun starting => starting.elim
  | getSession =>
      simp only [step, fresh rfl] at steps
      cases steps
      exact .still rfl not_false
  | reconnect existingSession => exact absurd rfl known
  | admitNode =>
      rcases admitNode_of_step steps with ⟨status, rank, admits, rfl⟩ | ⟨refusal, rfl, rfl⟩
      · exact .admitted admits
      · exact .still rfl not_false
  | registerSession admission =>
      obtain ⟨session, _, registered⟩ := Server.sessionRegistered_eq s req tick.now
        admission.status admission.rank
      cases steps
      change Effect setting req _ s _
        (s.sessionRegistered req tick.now admission.status admission.rank)
      rw [registered]
      exact .opened admission _ session
  | registerNode admission session =>
      cases steps
      exact .enrolled admission session tick.now
  | loadActive admission session =>
      cases steps
      exact .moved s.masterAddr s.masterPort rfl fun _ _ full _ => .inl full
  | loadStandby admission session activeNodes =>
      cases steps
      refine .moved s.masterAddr s.masterPort rfl fun starting _ full complete => .inl ?_
      have starting : activeNodes = setting.config.activeNodes := starting
      change activeNodes + s.standbyNodes = setting.config.expectedNodes
      omega
  | checkStart admission session totalNodes =>
      simp only [step] at steps
      split_ifs at steps with complete
      · cases steps
        exact .moved s.masterAddr s.masterPort rfl fun _ _ _ _ => .inl trivial
      · cases steps
        exact .moved s.masterAddr s.masterPort rfl fun starting initializing _ _ =>
          absurd ⟨ServerConfig.expects_of_eq starting, initializing⟩ complete
  | checkAndStart admission session =>
      have clusterFree := unlocked_eq .clusterMu
      have stateFree := unlocked_eq .stateMu
      simp only [step] at steps
      rcases accepting with initializing | running
      · rcases lt_or_ge (s.nodes.count .active)
          (setting.config.expectedNodes - setting.config.standbyNodes) with few | enough
        · rw [checkAndStartProgram_run_waiting setting tick.round clusterFree stateFree initializing
            few] at steps
          cases steps
          exact .moved s.masterAddr s.masterPort rfl fun _ _ _ _ => .inr (split ▸ few)
        · have all : (s.startTargets tick.round).all tick.round.answers = true :=
            List.all_eq_true.mpr fun id _ => answered id
          rw [checkAndStartProgram_run setting tick.round clusterFree stateFree initializing enough, if_pos all]
            at steps
          cases steps
          exact .started admission session tick.round _ initializing (split ▸ enough)
      · rw [checkAndStartProgram_run_running setting tick.round clusterFree stateFree running] at steps
        cases steps
        refine .moved s.masterAddr s.masterPort rfl ?_
        intro _ initializing _ _
        cases running.symm.trans initializing
  | returned admission result => cases steps

namespace Effect

variable {p p' : Point} {s s' : Server} (effect : Effect setting req p s p' s')

include effect

/-- A step leaves the sessions of the other nodes alone. -/
theorem sessions_of_ne {id : String} (other : id ≠ req.nodeId) :
    s'.sessions.lookup id = s.sessions.lookup id := by
  cases effect with
  | moved masterAddr masterPort same onward => rfl
  | admitted admits => cases admits <;> rfl
  | opened admission session opened => exact AList.lookup_insert_ne other
  | enrolled admission session now => rfl
  | started admission session round result initializing enough => rfl

/-- A node without a session had none before. -/
theorem sessions_self (without : ¬ p'.progress.hasSession) :
    ¬ p.progress.hasSession ∧ s'.sessions = s.sessions := by
  cases effect with
  | moved masterAddr masterPort same onward => exact ⟨same ▸ without, rfl⟩
  | admitted admits => cases admits <;> exact ⟨not_false, rfl⟩
  | opened admission session opened => exact absurd trivial without
  | enrolled admission session now => exact absurd trivial without
  | started admission session round result initializing enough => exact absurd trivial without

theorem known (before : p.progress ≠ .reconnecting) : p'.progress ≠ .reconnecting := by
  cases effect with
  | moved masterAddr masterPort same onward => exact same ▸ before
  | admitted admits => exact nofun
  | opened admission session opened => exact nofun
  | enrolled admission session now => exact nofun
  | started admission session round result initializing enough => exact nofun

/-- A step leaves the other nodes of the registry alone. -/
theorem statusOf_of_ne {id : String} (other : id ≠ req.nodeId) :
    s'.nodes.statusOf id = s.nodes.statusOf id := by
  cases effect with
  | moved masterAddr masterPort same onward => rfl
  | admitted admits => cases admits <;> rfl
  | opened admission session opened => rfl
  | enrolled admission session now => exact (Registry.statusOf_insert ..).trans (if_neg other)
  | started admission session round result initializing enough =>
      exact Server.statusOf_started s round id

/-- A node enters the registry with the status it was admitted with. -/
theorem statusOf_self
    (before : s.nodes.statusOf req.nodeId = p.progress.entry.map Admission.status) :
    s'.nodes.statusOf req.nodeId = p'.progress.entry.map Admission.status := by
  cases effect with
  | moved masterAddr masterPort same onward => exact same ▸ before
  | admitted admits => cases admits <;> exact before
  | opened admission session opened => exact before
  | enrolled admission session now => exact (Registry.statusOf_insert ..).trans (if_pos rfl)
  | started admission session round result initializing enough =>
      exact (Server.statusOf_started s round _).trans before

theorem urlOf_of_ne {id : String} (other : id ≠ req.nodeId) :
    s'.nodes.urlOf id = s.nodes.urlOf id := by
  cases effect with
  | moved masterAddr masterPort same onward => rfl
  | admitted admits => cases admits <;> rfl
  | opened admission session opened => rfl
  | enrolled admission session now => exact Registry.urlOf_insert_of_ne other _
  | started admission session round result initializing enough => exact Registry.urlOf_assignRanks ..

/-- A node of the registry has the URL of its request. -/
theorem urlOf_self (before : req.nodeId ∈ s.nodes → s.nodes.urlOf req.nodeId = req.nodeUrl)
    (registered : req.nodeId ∈ s'.nodes) : s'.nodes.urlOf req.nodeId = req.nodeUrl := by
  cases effect with
  | moved masterAddr masterPort same onward => exact before registered
  | admitted admits => cases admits <;> exact before registered
  | opened admission session opened => exact before registered
  | enrolled admission session now => exact Registry.urlOf_insert_self ..
  | started admission session round result initializing enough =>
      rw [Server.started, Registry.urlOf_assignRanks]
      rw [AList.mem_keys, Server.started, Registry.keys_assignRanks] at registered
      exact before registered

/-! The counters and the registry count one more call when it is admitted and when it is
enrolled. -/

theorem total : s'.activeNodes + s'.standbyNodes = s.activeNodes + s.standbyNodes
    + (if p'.Admitted then 1 else 0) - (if p.Admitted then 1 else 0) := by
  cases effect with
  | moved masterAddr masterPort same onward =>
      simp only [Point.Admitted, same]
      exact (add_sub_cancel_right _ _).symm
  | admitted admits =>
      cases admits <;> simp [Point.Admitted, Point.progress, Progress.admission] <;> omega
  | opened admission session opened => exact (add_sub_cancel_right _ _).symm
  | enrolled admission session now => exact (add_sub_cancel_right _ _).symm
  | started admission session round result initializing enough =>
      exact (add_sub_cancel_right _ _).symm

theorem active : s'.activeNodes = s.activeNodes
    + (if p'.AdmittedAs .active then 1 else 0) - (if p.AdmittedAs .active then 1 else 0) := by
  cases effect with
  | moved masterAddr masterPort same onward =>
      simp only [Point.AdmittedAs, same]
      exact (add_sub_cancel_right _ _).symm
  | admitted admits =>
      cases admits <;> simp [Point.AdmittedAs, Point.progress, Progress.admission]
  | opened admission session opened => exact (add_sub_cancel_right _ _).symm
  | enrolled admission session now => exact (add_sub_cancel_right _ _).symm
  | started admission session round result initializing enough =>
      exact (add_sub_cancel_right _ _).symm

theorem count (before : s.nodes.statusOf req.nodeId = p.progress.entry.map Admission.status) :
    s'.nodes.count .active = s.nodes.count .active
      + (if p'.EnrolledAs .active then 1 else 0) - (if p.EnrolledAs .active then 1 else 0) := by
  have agree : ∀ j, j ≠ req.nodeId → s'.nodes.statusOf j = s.nodes.statusOf j :=
    fun j ne => effect.statusOf_of_ne ne
  rw [Registry.count_of_agree_off agree, effect.statusOf_self before, before]
  rfl

theorem rooms (activeRoom : s.activeNodes ≤ setting.config.activeNodes)
    (standbyRoom : s.standbyNodes ≤ setting.config.standbyNodes) :
    s'.activeNodes ≤ setting.config.activeNodes ∧
      s'.standbyNodes ≤ setting.config.standbyNodes := by
  cases effect with
  | moved masterAddr masterPort same onward => exact ⟨activeRoom, standbyRoom⟩
  | admitted admits =>
      cases admits with
      | active room => exact ⟨room, standbyRoom⟩
      | standby full room => exact ⟨activeRoom, room⟩
  | opened admission session opened => exact ⟨activeRoom, standbyRoom⟩
  | enrolled admission session now => exact ⟨activeRoom, standbyRoom⟩
  | started admission session round result initializing enough => exact ⟨activeRoom, standbyRoom⟩

end Effect

/-! ## The start commands -/

end Registration

namespace Server

/-- The start commands of one round. -/
def startCommands (s : Server) (round : Round) : List Command :=
  (s.startTargets round).map
    (startCommand { s with nodes := s.nodes.assignRanks (s.startTargets round) 0 }
      (s.startTargets round))

end Server

/-- One start command for each active node, ranked by URL. -/
structure Launch (setting : Setting) (nodes : Registry) (commands : List Command) : Prop where
  targets : ∀ id, id ∈ commands.map Command.nodeID ↔ nodes.statusOf id = some .active
  once : (commands.map Command.nodeID).Nodup
  size : (commands.length : Int) = setting.config.activeNodes
  ranks : ∀ (i : Nat) (bound : i < commands.length), commands[i].rank = i
  ordered : (commands.map Command.nodeURL).Pairwise (· < ·)
  contents : ∀ command ∈ commands, command.command = .start ∧
    command.nodeURL = nodes.urlOf command.nodeID ∧
    command.worldSize = setting.config.activeNodes

/-- A round stays right while the active nodes and their URLs stay the same. -/
theorem Launch.congr {setting : Setting} {nodes nodes' : Registry} {commands : List Command}
    (launch : Launch setting nodes commands)
    (statuses : ∀ id, nodes'.statusOf id = some .active ↔ nodes.statusOf id = some .active)
    (urls : ∀ id, nodes.statusOf id = some .active → nodes'.urlOf id = nodes.urlOf id) :
    Launch setting nodes' commands where
  targets id := (launch.targets id).trans (statuses id).symm
  once := launch.once
  size := launch.size
  ranks := launch.ranks
  ordered := launch.ordered
  contents command mem := by
    obtain ⟨start, url, world⟩ := launch.contents command mem
    have active := (launch.targets command.nodeID).mp (List.mem_map_of_mem mem)
    exact ⟨start, url.trans (urls _ active).symm, world⟩

/-- All active nodes are there when the commands are sent. -/
theorem Launch.count {setting : Setting} {nodes : Registry} {commands : List Command}
    (launch : Launch setting nodes commands) :
    nodes.count .active = setting.config.activeNodes := by
  rw [Registry.count_eq_length launch.once launch.targets, List.length_map, launch.size]

theorem launch_started {setting : Setting} {s : Server} (round : Round)
    (full : s.nodes.count .active = setting.config.activeNodes)
    (distinct : ∀ id j, s.nodes.statusOf id = some .active → s.nodes.statusOf j = some .active →
      s.nodes.urlOf id = s.nodes.urlOf j → id = j) :
    Launch setting (s.started round).nodes (s.startCommands round) := by
  have nodeIDs : (s.startCommands round).map Command.nodeID = s.startTargets round := by
    rw [Server.startCommands, List.map_map]
    exact List.map_id _
  have nodeURLs : (s.startCommands round).map Command.nodeURL =
      (s.startTargets round).map s.nodes.urlOf := by
    rw [Server.startCommands, List.map_map]
    exact List.map_congr_left fun id _ => Registry.urlOf_assignRanks ..
  have length : (s.startTargets round).length = s.nodes.count .active := by
    rw [Server.startTargets, length_sortBy, Registry.length_listWith]
  refine ⟨fun id => ?_, ?_, ?_, fun i bound => ?_, ?_, fun command mem => ?_⟩
  · rw [nodeIDs, Server.mem_startTargets, Server.statusOf_started]
  · rw [nodeIDs]
    exact Server.nodup_startTargets
  · rw [Server.startCommands, List.length_map, length, full]
  · have bound' : i < (s.startTargets round).length := by
      rwa [Server.startCommands, List.length_map] at bound
    have active := Server.mem_startTargets.mp (List.getElem_mem bound')
    have position := Server.nodup_startTargets.idxOf_getElem i bound'
    have rank := Server.rankOf_started round active
    rw [position] at rank
    simp only [Server.startCommands, List.getElem_map]
    exact rank
  · rw [nodeURLs, List.pairwise_map]
    refine (List.pairwise_and_iff.mpr ⟨sortBy_sortedBy round.ties _,
      Server.nodup_startTargets⟩).imp_of_mem fun memId memJ ordered =>
        lt_of_le_of_ne ordered.1 ?_
    exact fun same => ordered.2 (distinct _ _ (Server.mem_startTargets.mp memId)
      (Server.mem_startTargets.mp memJ) same)
  · obtain ⟨id, _, rfl⟩ := List.mem_map.mp mem
    exact ⟨rfl, rfl, length.trans full⟩

namespace Registration

/-! ## The system -/

/-- The calls of `Register`, with distinct node ids and distinct URLs. -/
structure Calls (ι : Type) where
  request : ι → RegisterRequest
  distinctIDs : Function.Injective fun i => (request i).nodeId
  distinctURLs : Function.Injective fun i => (request i).nodeUrl

variable {ι : Type}

/-- The interleavings of the calls with a fresh server. -/
def registration [DecidableEq ι] (setting : Setting) (calls : Calls ι) :
    System (Threads ι Point Server) (ι × Tick) :=
  Threads.interleaving (fun s => s = Server.new setting) .checkState
    fun i => step setting (calls.request i)

/-- The registry and the sessions hold the calls that have come so far. -/
structure Registered (calls : Calls ι) (c : Threads ι Point Server) : Prop where
  known : ∀ i, (c.point i).progress ≠ .reconnecting
  sessions : ∀ i, ¬ (c.point i).progress.hasSession →
    c.data.sessions.lookup (calls.request i).nodeId = none
  entries : ∀ i, c.data.nodes.statusOf (calls.request i).nodeId =
    (c.point i).progress.entry.map Admission.status
  urls : ∀ i, (calls.request i).nodeId ∈ c.data.nodes →
    c.data.nodes.urlOf (calls.request i).nodeId = (calls.request i).nodeUrl
  strangers : ∀ id ∈ c.data.nodes, ∃ i, id = (calls.request i).nodeId

/-- The counters and the registry count the calls. -/
structure Tallied [Fintype ι] (setting : Setting) (c : Threads ι Point Server) : Prop where
  total : ((c.threadsAt Point.Admitted).card : Int) = c.data.activeNodes + c.data.standbyNodes
  active : ((c.threadsAt (Point.AdmittedAs .active)).card : Int) = c.data.activeNodes
  enrolled : c.data.nodes.count .active = (c.threadsAt (Point.EnrolledAs .active)).card
  activeRoom : c.data.activeNodes ≤ setting.config.activeNodes
  standbyRoom : c.data.standbyNodes ≤ setting.config.standbyNodes

/-- The server is in `Running` once one round of start commands was sent. -/
inductive Launched (setting : Setting) (s : Server) : Prop where
  | waiting (initializing : s.current = .initializing) (nothing : s.rounds = [])
  | running (running : s.current = .running) (commands : List Command)
      (once : s.rounds = [commands]) (launch : Launch setting s.nodes commands)

/-- When nothing is left but the start, some call is on its way to it. -/
def Pending (setting : Setting) (c : Threads ι Point Server) : Prop :=
  c.data.current = .initializing →
    (∀ i, (c.point i).progress.entry = (c.point i).progress.admission) →
    c.data.activeNodes + c.data.standbyNodes = setting.config.expectedNodes →
    ∃ i, (c.point i).Starting setting

/-! ## Invariants -/

namespace Effect

variable {setting : Setting} {req : RegisterRequest} {p p' : Point} {s s' : Server}
  (effect : Effect setting req p s p' s')

include effect

/-- One step keeps the server before or after its only round of start commands. -/
theorem launched (launched : Launched setting s)
    (fresh : s.nodes.statusOf req.nodeId = p.progress.entry.map Admission.status)
    (room : p.AdmittedAs .active → ¬ p.EnrolledAs .active →
      s.nodes.count .active < setting.config.activeNodes)
    (bounded : s.nodes.count .active ≤ setting.config.activeNodes)
    (distinct : ∀ id j, s.nodes.statusOf id = some .active → s.nodes.statusOf j = some .active →
      s.nodes.urlOf id = s.nodes.urlOf j → id = j) : Launched setting s' := by
  have unchanged {s'' : Server} (current : s''.current = s.current) (rounds : s''.rounds = s.rounds)
      (nodes : s''.nodes = s.nodes) : Launched setting s'' := by
    cases launched with
    | waiting initializing nothing =>
        exact .waiting (current.trans initializing) (rounds.trans nothing)
    | running running commands once launch =>
        exact .running (current.trans running) commands (rounds.trans once) (nodes ▸ launch)
  cases effect with
  | moved masterAddr masterPort same onward => exact unchanged rfl rfl rfl
  | admitted admits => cases admits <;> exact unchanged rfl rfl rfl
  | opened admission session opened => exact unchanged rfl rfl rfl
  | enrolled admission session now =>
      cases launched with
      | waiting initializing nothing => exact .waiting initializing nothing
      | running running commands once launch =>
          -- All active nodes are there, so this one is not active.
          have standby : admission.status ≠ .active := by
            intro active
            have few := room (congrArg some active) nofun
            rw [launch.count] at few
            exact lt_irrefl _ few
          have unregistered : s.nodes.statusOf req.nodeId = none := fresh
          refine .running running commands once (launch.congr (fun id => ?_) fun id active => ?_)
          · apply (Registry.statusOf_insert ..).congr_left.trans
            by_cases here : id = req.nodeId
            · rw [if_pos here, here, unregistered]
              simp only [Option.some.injEq, standby, reduceCtorEq]
            · rw [if_neg here]
          · refine Registry.urlOf_insert_of_ne (fun here => ?_) _
            rw [here, unregistered] at active
            cases active
  | started admission session round result initializing enough =>
      cases launched with
      | waiting _ nothing =>
          refine .running rfl (s.startCommands round) ?_
            (launch_started round (le_antisymm bounded enough) distinct)
          exact congrArg (· ++ [s.startCommands round]) nothing
      | running running commands once launch => cases running.symm.trans initializing

/-- With nothing started, and the node of the call in the registry if it was admitted, the call is
on its way to the start, or it only moved. -/
theorem starting_or_moved (initializing : s'.current = .initializing)
    (entered : p'.progress.entry = p'.progress.admission) :
    p'.Starting setting ∨ (p'.progress = p.progress ∧ s.current = .initializing ∧
      s'.activeNodes = s.activeNodes ∧ s'.standbyNodes = s.standbyNodes ∧
      (p.Starting setting → s.activeNodes = setting.config.activeNodes →
        s.activeNodes + s.standbyNodes = setting.config.expectedNodes →
        p'.Starting setting ∨ s.nodes.count .active < setting.config.activeNodes)) := by
  cases effect with
  | moved masterAddr masterPort same onward =>
      exact .inr ⟨same, initializing, rfl, rfl, fun starting => onward starting initializing⟩
  | admitted admits => cases entered
  | opened admission session opened => cases entered
  | enrolled admission session now => exact .inl trivial
  | started admission session round result _ enough => cases initializing

end Effect

namespace Tallied

variable [Fintype ι] {setting : Setting} {c : Threads ι Point Server}

/-- The active nodes of the registry were admitted as such. -/
theorem count_le (tallied : Tallied setting c) :
    c.data.nodes.count .active ≤ c.data.activeNodes := by
  rw [tallied.enrolled, ← tallied.active]
  exact Int.ofNat_le.mpr (Finset.card_le_card fun j mem => Threads.mem_threadsAt.mpr
    (Threads.mem_threadsAt.mp mem).admittedAs)

/-- An active node that is still missing in the registry leaves room there. -/
theorem count_lt (tallied : Tallied setting c) {j : ι}
    (admitted : (c.point j).AdmittedAs .active) (missing : ¬ (c.point j).EnrolledAs .active) :
    c.data.nodes.count .active < c.data.activeNodes := by
  rw [tallied.enrolled, ← tallied.active]
  refine Int.ofNat_lt.mpr (Finset.card_lt_card (Finset.ssubset_iff_subset_ne.mpr
    ⟨fun k mem => Threads.mem_threadsAt.mpr (Threads.mem_threadsAt.mp mem).admittedAs,
      fun same => missing ?_⟩))
  have mem := Threads.mem_threadsAt.mpr admitted
  rw [← same] at mem
  exact Threads.mem_threadsAt.mp mem

/-- When every admitted node is in the registry, the counter and the registry agree. -/
theorem count_eq (tallied : Tallied setting c)
    (entered : ∀ j, (c.point j).progress.entry = (c.point j).progress.admission) :
    c.data.nodes.count .active = c.data.activeNodes := by
  have same : c.threadsAt (Point.EnrolledAs .active) = c.threadsAt (Point.AdmittedAs .active) := by
    ext j
    rw [Threads.mem_threadsAt, Threads.mem_threadsAt, Point.EnrolledAs, Point.AdmittedAs, entered]
  rw [tallied.enrolled, same, tallied.active]

end Tallied

section Invariants

variable [DecidableEq ι] {setting : Setting} {calls : Calls ι} {c : Threads ι Point Server} {i : ι} {p : Point}
  {s : Server} (effect : Effect setting (calls.request i) (c.point i) c.data p s)

include effect

theorem Registered.step (registered : Registered calls c) : Registered calls (c.advance i p s) := by
  have other {j : ι} (ne : j ≠ i) : (calls.request j).nodeId ≠ (calls.request i).nodeId :=
    calls.distinctIDs.ne ne
  have memOther {id : String} (ne : id ≠ (calls.request i).nodeId) :
      id ∈ s.nodes ↔ id ∈ c.data.nodes := by
    rw [Registry.mem_iff_statusOf, Registry.mem_iff_statusOf, effect.statusOf_of_ne ne]
  refine ⟨fun j => ?_, fun j without => ?_, fun j => ?_, fun j mem => ?_, fun id mem => ?_⟩
  · by_cases here : j = i
    · rw [here, Threads.point_advance_self]
      exact effect.known (registered.known i)
    · rw [Threads.point_advance_of_ne here]
      exact registered.known j
  · by_cases here : j = i
    · rw [here, Threads.point_advance_self] at without
      obtain ⟨before, same⟩ := effect.sessions_self without
      rw [here, Threads.data_advance, same]
      exact registered.sessions i before
    · rw [Threads.point_advance_of_ne here] at without
      exact (effect.sessions_of_ne (other here)).trans (registered.sessions j without)
  · by_cases here : j = i
    · rw [here, Threads.point_advance_self]
      exact effect.statusOf_self (registered.entries i)
    · rw [Threads.point_advance_of_ne here]
      exact (effect.statusOf_of_ne (other here)).trans (registered.entries j)
  · by_cases here : j = i
    · rw [here] at mem ⊢
      exact effect.urlOf_self (registered.urls i) mem
    · exact (effect.urlOf_of_ne (other here)).trans
        (registered.urls j ((memOther (other here)).mp mem))
  · by_cases here : id = (calls.request i).nodeId
    · exact ⟨i, here⟩
    · exact registered.strangers id ((memOther here).mp mem)

variable [Fintype ι]

theorem Tallied.step (registered : Registered calls c) (tallied : Tallied setting c) :
    Tallied setting (c.advance i p s) := by
  obtain ⟨activeRoom, standbyRoom⟩ := effect.rooms tallied.activeRoom tallied.standbyRoom
  refine ⟨?_, ?_, ?_, activeRoom, standbyRoom⟩
  · rw [Threads.card_threadsAt_advance, tallied.total]
    exact effect.total.symm
  · rw [Threads.card_threadsAt_advance, tallied.active]
    exact effect.active.symm
  · rw [Threads.card_threadsAt_advance, ← tallied.enrolled]
    exact effect.count (registered.entries i)

theorem Pending.step (tallied : Tallied setting c) (split : setting.config.activeNodes =
      setting.config.expectedNodes - setting.config.standbyNodes)
    (pending : Pending setting c) : Pending setting (c.advance i p s) := by
  intro initializing entered complete
  have enteredSelf := entered i
  rw [Threads.point_advance_self] at enteredSelf
  rcases effect.starting_or_moved initializing enteredSelf with
    starting | ⟨same, before, active, standby, onward⟩
  · exact ⟨i, by rwa [Threads.point_advance_self]⟩
  have enteredBefore : ∀ j, (c.point j).progress.entry = (c.point j).progress.admission := by
    intro j
    by_cases here : j = i
    · rw [here, ← same, enteredSelf]
    · have unmoved := entered j
      rwa [Threads.point_advance_of_ne here] at unmoved
  rw [Threads.data_advance, active, standby] at complete
  obtain ⟨j, starting⟩ := pending before enteredBefore complete
  by_cases here : j = i
  · have full : c.data.activeNodes = setting.config.activeNodes := by
      have activeRoom := tallied.activeRoom
      have standbyRoom := tallied.standbyRoom
      omega
    rcases onward (here ▸ starting) full complete with starting | few
    · exact ⟨i, by rwa [Threads.point_advance_self]⟩
    · rw [tallied.count_eq enteredBefore, full] at few
      exact absurd few (lt_irrefl _)
  · exact ⟨j, by rwa [Threads.point_advance_of_ne here]⟩

end Invariants

/-! ## Runs -/

/-- What holds after any interleaving of the calls. -/
structure Consistent [Fintype ι] (setting : Setting) (calls : Calls ι)
    (c : Threads ι Point Server) : Prop where
  registered : Registered calls c
  tallied : Tallied setting c
  launched : Launched setting c.data
  pending : Pending setting c

variable {deployment : Deployment} {calls : Calls ι} {c : Threads ι Point Server}

theorem Registered.distinctURLs (registered : Registered calls c) {id j : String}
    (memId : id ∈ c.data.nodes) (memJ : j ∈ c.data.nodes)
    (same : c.data.nodes.urlOf id = c.data.nodes.urlOf j) : id = j := by
  obtain ⟨i, rfl⟩ := registered.strangers id memId
  obtain ⟨k, rfl⟩ := registered.strangers j memJ
  rw [registered.urls i memId, registered.urls k memJ] at same
  rw [calls.distinctURLs same]

variable [DecidableEq ι] [Fintype ι]

theorem Consistent.step {i : ι} {tick : Tick} {c' : Threads ι Point Server}
    (consistent : Consistent deployment.toSetting calls c) (answered : tick.Answered)
    (next : (registration deployment.toSetting calls).next c (i, tick) = some c') :
    Consistent deployment.toSetting calls c' := by
  obtain ⟨registered, tallied, launched, pending⟩ := consistent
  obtain ⟨p, s, steps, rfl⟩ := Threads.advance_of_next next
  have accepting : c.data.current.accepting := by
    cases launched with
    | waiting initializing nothing => exact .inl initializing
    | running running commands once launch => exact .inr running
  have effect := effect_of_step deployment.split answered (registered.known i)
    (fun here => registered.sessions i (here ▸ not_false)) accepting steps
  have bounded := tallied.count_le.trans tallied.activeRoom
  refine ⟨registered.step effect, tallied.step effect registered, ?_,
    pending.step effect tallied deployment.split⟩
  refine effect.launched launched (registered.entries i) (fun admitted missing =>
    (tallied.count_lt admitted missing).trans_le tallied.activeRoom) bounded ?_
  exact fun id j activeId activeJ => registered.distinctURLs
    (Registry.mem_iff_statusOf.mpr ⟨_, activeId⟩) (Registry.mem_iff_statusOf.mpr ⟨_, activeJ⟩)

theorem Consistent.start (standby : 0 ≤ deployment.config.standbyNodes)
    (initial : (registration deployment.toSetting calls).init c) :
    Consistent deployment.toSetting calls c := by
  obtain ⟨fresh, start⟩ := initial
  have fresh : c.data = Server.new deployment.toSetting := fresh
  have nobody {P : Point → Prop} [DecidablePred P] (outside : ¬ P .checkState) :
      ((c.threadsAt P).card : Int) = 0 := by
    rw [Int.natCast_eq_zero, Finset.card_eq_zero]
    exact Finset.filter_eq_empty_iff.mpr fun i _ => start i ▸ outside
  have split := deployment.split
  have positive := deployment.positive
  refine ⟨⟨fun i => ?_, fun i _ => ?_, fun i => ?_, fun i mem => ?_, fun id mem => ?_⟩,
    ⟨?_, ?_, ?_, ?_, ?_⟩, ?_, fun _ _ complete => ?_⟩
  · exact start i ▸ nofun
  · exact fresh ▸ rfl
  · rw [fresh, start]
    rfl
  · cases AList.notMem_empty _ (fresh ▸ mem : _ ∈ (Server.new deployment.toSetting).nodes)
  · cases AList.notMem_empty _ (fresh ▸ mem : id ∈ (Server.new deployment.toSetting).nodes)
  · rw [nobody nofun, fresh]
    rfl
  · rw [nobody nofun, fresh]
    rfl
  · rw [nobody nofun, fresh]
    rfl
  · rw [fresh]
    exact positive.le
  · rw [fresh]
    exact standby
  · exact fresh ▸ .waiting rfl rfl
  · rw [fresh] at complete
    have complete : (0 : Int) + 0 = deployment.config.expectedNodes := complete
    omega

/-- **The program is started exactly once.** -/
theorem started_once (deployment : Deployment) (standby : 0 ≤ deployment.config.standbyNodes)
    (calls : Calls ι) {c : Threads ι Point Server}
    (run : (registration deployment.toSetting calls).Run (fun _ a => a.2.Answered) c) :
    c.data.rounds.length ≤ 1 ∧
      ((c.threadsAt Point.Admitted).card : Int) ≤ deployment.config.expectedNodes ∧
      (((c.threadsAt Point.Served).card : Int) = deployment.config.expectedNodes →
        c.data.rounds.length = 1 ∧ c.data.current = .running) ∧
      ∀ commands ∈ c.data.rounds, Launch deployment.toSetting c.data.nodes commands := by
  have consistent : Consistent deployment.toSetting calls c :=
    run.induct (fun _ => Consistent.start standby) fun _ _ _ consistent answered next =>
      consistent.step answered next
  have expected : ((c.threadsAt Point.Admitted).card : Int) ≤ deployment.config.expectedNodes := by
    have activeRoom := consistent.tallied.activeRoom
    have standbyRoom := consistent.tallied.standbyRoom
    have split := deployment.split
    rw [consistent.tallied.total]
    omega
  cases consistent.launched with
  | waiting initializing nothing =>
      rw [nothing]
      refine ⟨Nat.zero_le 1, expected, fun served => ?_, nofun⟩
      -- Every admitted call is over, so nobody is left to start the program.
      have all : c.threadsAt Point.Served = c.threadsAt Point.Admitted := by
        refine Finset.eq_of_subset_of_card_le (fun i mem => Threads.mem_threadsAt.mpr
          (Threads.mem_threadsAt.mp mem).1) (Int.ofNat_le.mp ?_)
        exact expected.trans served.ge
      have ended (i : ι) (admitted : (c.point i).Admitted) : (c.point i).Returned :=
        (Threads.mem_threadsAt.mp (all ▸ Threads.mem_threadsAt.mpr admitted)).2
      have complete : c.data.activeNodes + c.data.standbyNodes = deployment.config.expectedNodes :=
        by rw [← consistent.tallied.total, ← all, served]
      obtain ⟨i, starting⟩ := consistent.pending initializing
        (fun i => Point.entry_of_settled (ended i)) complete
      exact absurd (ended i starting.admitted) starting.not_returned
  | running running commands once launch =>
      rw [once]
      refine ⟨le_refl 1, expected, fun _ => ⟨rfl, running⟩, fun sent mem => ?_⟩
      rw [List.mem_singleton.mp mem]
      exact launch

/-- Four nodes that register at once. -/
def fourCalls : Calls (Fin 4) where
  request i := ⟨toString i ++ ".ns.1", "http://" ++ toString i ++ ".ns:1", "m", "1"⟩
  distinctIDs := by decide
  distinctURLs := by decide

/-- Twelve steps of every call, taken in turns. -/
def inTurns : List (Fin 4 × Tick) :=
  (List.replicate 12 (List.finRange 4)).flatten.map fun i => (i, ⟨0, .except []⟩)

theorem started_once_inTurns :
    ∃ c, (registration smallSetting fourCalls).Run (fun _ a => a.2.Answered) c ∧
      c.data.rounds.length = 1 ∧ c.data.current = .running := by
  have answered : ∀ a ∈ inTurns, a.2.Answered := by
    intro a mem
    obtain ⟨i, _, rfl⟩ := List.mem_map.mp mem
    exact fun id => rfl
  obtain ⟨c, run, holds⟩ := System.exists_run (S := registration smallSetting fourCalls)
    (C := fun _ a => a.2.Answered) (s := ⟨Server.new smallSetting, fun _ => .checkState⟩)
    (fun _ _ => true) inTurns (fun c => ((c.threadsAt Point.Served).card : Int) = 4)
    (fun _ a mem _ => answered a mem) ⟨rfl, fun _ => rfl⟩ (by decide +kernel)
  have served := of_decide_eq_true holds
  exact ⟨c, run, (started_once smallDeployment (by decide) fourCalls run).2.2.1 served⟩

end Registration

end C4D
