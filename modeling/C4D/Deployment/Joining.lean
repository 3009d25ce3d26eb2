import C4D.Deployment.Rounds
import C4D.Monitor.StartVerdict
import C4D.Server.Capacity
import C4D.Server.Rendezvous

/-!
# Who starts the cluster

A monitor registers while it is in `Initializing` (`unset_before_register`), and it opens its HTTP
server when `Start` has returned. The server starts the program inside of the registration that
completes the cluster. So the node that registers then cannot take a start command: the program
is started only if that node is a standby node (`standby_of_starting`), and a deployment without
standby nodes never runs it (`initializing_of_run`).
-/

set_option autoImplicit false

namespace C4D

open Foundations Program

/-! ## Registrations -/

namespace Monitor

/-- No state was set before a registration. -/
def UnsetBefore (t : MonitorTrace) (q : MonitorOp) : Prop :=
  (∃ req, q = .register req) → ∀ e ∈ t, e.performed.sets = none

theorem unsetBefore_of_quiet {t : MonitorTrace} {q : MonitorOp} (quiet : ∀ req, q ≠ .register req) :
    UnsetBefore t q := fun ⟨req, same⟩ => absurd same (quiet req)

theorem unsetBefore_registerAttempts (req : RegisterRequest) (left : Nat) (lastErr : Option String)
    {t : MonitorTrace} (unset : ∀ e ∈ t, e.performed.sets = none) :
    Along UnsetBefore (fun _ _ => True) t (registerAttempts req left lastErr) := by
  induction left generalizing lastErr t with
  | zero => trivial
  | succ left ih =>
      refine ⟨fun _ => unset, fun answer => ?_⟩
      have before : ∀ e ∈ t ++ [⟨.register req, answer⟩], e.performed.sets = none := by
        intro e mem
        rcases List.mem_append.mp mem with mem | mem
        · exact unset e mem
        · rw [List.mem_singleton.mp mem]
          rfl
      cases answer with
      | none => trivial
      | some err =>
          change Along UnsetBefore _ _ (if _ then _ else _)
          split
          · exact ih _ before
          · trivial

/-- **`Start` registers before it sets a state.** -/
theorem unset_before_register (getenv : String → String) :
    Along UnsetBefore (fun _ _ => True) [] (start getenv) := by
  rw [start_eq]
  refine ⟨unsetBefore_of_quiet nofun, fun currentState => ?_⟩
  change Along UnsetBefore _ _ (if _ then _ else _)
  split
  · trivial
  refine ⟨unsetBefore_of_quiet nofun, fun m => ?_⟩
  refine (unsetBefore_registerAttempts _ maxRetries none ?_).bind fun t r _ => ?_
  · intro e mem
    rcases List.mem_cons.mp mem with rfl | mem
    · rfl
    · rw [List.mem_singleton.mp mem]
      rfl
  · rcases r with err | _ | lastErr
    · trivial
    · exact ⟨unsetBefore_of_quiet nofun, fun _ => trivial⟩
    · exact ⟨unsetBefore_of_quiet nofun, fun _ => trivial⟩

end Monitor

/-! ## The registering node -/

/-- The round of start commands that a registration may lead to, answered by the sites. -/
def SiteRound.joinRound (r : SiteRound) (setting : Setting) (s : Server) (req : RegisterRequest)
    (now : Int) (sites : Sites) : Round :=
  match (s.captureMaster req).admitNode setting with
  | (.ok (status, rank), counted) => r.startRound (counted.enrolled req now status rank) sites
  | (.error _, _) => r.base

/-- A registration comes from the `Start` of the monitor at its URL, and the sites answer the start
commands that it may lead to. -/
def Joins (setting : Setting) (w : World) : Action → Prop
  | .register req now round => ∃ (sites : Sites) (r : SiteRound) (getenv : String → String),
      (sites req.nodeUrl).1.state = .initializing ∧
      req = Monitor.registration getenv (sites req.nodeUrl).1 ∧
      round = r.joinRound setting w.data req now sites
  | _ => True

/-! ## Sample registrations -/

/-- One monitor is starting, and the others are in `Standby`. -/
def startingSites (nodeID nodeURL : String) : Sites := fun url =>
  if url = nodeURL then (Monitor.new nodeID nodeURL (-1) 0, Host.new) else standbySites url

/-- The registration of a monitor that is starting. -/
def joining (setting : Setting) (w : World) (nodeID nodeURL : String) : Action :=
  let req := Monitor.registration (fun _ => "") (Monitor.new nodeID nodeURL (-1) 0)
  .register req 0 (SiteRound.joinRound {} setting w.data req 0 (startingSites nodeID nodeURL))

theorem joins_joining (setting : Setting) (w : World) (nodeID nodeURL : String) :
    Joins setting w (joining setting w nodeID nodeURL) := by
  have here : startingSites nodeID nodeURL nodeURL = (Monitor.new nodeID nodeURL (-1) 0, Host.new) :=
    if_pos rfl
  refine ⟨startingSites nodeID nodeURL, {}, fun _ => "", ?_, ?_, rfl⟩
  · exact congrArg (fun s => s.1.state) here
  · exact congrArg (fun s => Monitor.registration (fun _ => "") s.1) here.symm

/-- The worlds after monitors have registered, one after another. -/
def joined (setting : Setting) : List (String × String) → World
  | [] => World.new setting
  | (nodeID, nodeURL) :: earlier =>
      let w := joined setting earlier
      (w.next setting (joining setting w nodeID nodeURL)).getD w

theorem run_joined (setting : Setting) (nodes : List (String × String)) :
    setting.system.Run (Joins setting) (joined setting nodes) := by
  induction nodes with
  | nil => exact .start rfl
  | cons node earlier ih =>
      rw [joined]
      cases next : (joined setting earlier).next setting
          (joining setting (joined setting earlier) node.1 node.2) with
      | none => exact ih
      | some w =>
          exact .step (joining setting (joined setting earlier) node.1 node.2) ih (joins_joining ..) next

/-- A registration that is answered leads to the next world. -/
theorem next_joined {setting : Setting} {nodeID nodeURL : String} {earlier : List (String × String)}
    (answers : ((joined setting earlier).next setting
      (joining setting (joined setting earlier) nodeID nodeURL)).isSome = true) :
    (joined setting earlier).next setting (joining setting (joined setting earlier) nodeID nodeURL) =
      some (joined setting ((nodeID, nodeURL) :: earlier)) := by
  obtain ⟨w, next⟩ := Option.isSome_iff_exists.mp answers
  rw [joined, next]
  rfl

/-- Two active nodes, and no standby node. -/
def pairSetting : Setting where
  config := { expectedNodes := 2, standbyNodes := 0, activeNodes := 2, heartbeatTimeout := 5 }
  getenv _ := ""

/-- Three active nodes and a standby node have registered, in this order. -/
def fourNodes : List (String × String) :=
  [("d.ns.1", "http://d.ns:1"), ("c.ns.1", "http://c.ns:1"), ("b.ns.1", "http://b.ns:1"),
    ("a.ns.1", "http://a.ns:1")]

/-! ## The start of the program -/

section Join

variable {setting : Setting} {s : Server} {locks : Lock → RWMutex} {req : RegisterRequest} {now : Int}
  {round : Round} {status : Status} {rank : Int} {counted : Server}

/-- A registration that starts the program was answered by every active node. -/
theorem answers_of_started (settled : Settled ⟨s, locks⟩)
    (enrolls : Enrolls setting s locks req status rank counted)
    (complete : (counted.enrolled req now status rank).complete setting)
    (clusterFree : locks .clusterMu = .free)
    (enough : setting.config.expectedNodes - setting.config.standbyNodes ≤
      (counted.enrolled req now status rank).nodes.count .active)
    {response : RegisterResponse} {w : World}
    (run : (register setting req now round).run ⟨s, locks⟩ = .ok (.ok response) w) :
    ((counted.enrolled req now status rank).startTargets round).all round.answers = true := by
  by_contra silent
  have new : World.TakesForNew ⟨s, locks⟩ req :=
    enrolls.unknown.imp_right fun absent => ⟨enrolls.registryFree, absent⟩
  have starts := checkAndStartProgram_run setting round clusterFree settled.stateFree complete.2 enough
  rw [if_neg silent] at starts
  obtain ⟨_, refused⟩ := registerNew_run_complete setting req now round settled.metricsFree
    enrolls.admitted settled.sessionFree enrolls.registryFree settled.stateFree complete starts
  rw [register_run_new settled enrolls.accepting new, refused] at run
  cases run

/-- **The node that starts the program is a standby node.** -/
theorem standby_of_answers (counts : Server.Counted setting s status rank counted)
    (answered : ((counted.enrolled req now status rank).startTargets round).all round.answers = true)
    {sites : Sites} {r : SiteRound} (waiting : (sites req.nodeUrl).1.state ≠ .standby)
    (same : round = r.startRound (counted.enrolled req now status rank) sites) :
    status = .standby := by
  cases status with
  | standby => rfl
  | failed => exact absurd rfl counts.working
  | active =>
      let s' := counted.enrolled req now .active rank
      have active : s'.nodes.statusOf req.nodeId = some .active := by
        rw [Server.statusOf_enrolled req now counts, if_pos rfl]
      have url : s'.nodes.urlOf req.nodeId = req.nodeUrl := by
        rw [Server.nodes_enrolled req now counts]
        exact Registry.urlOf_insert_self ..
      have answer := List.all_eq_true.mp answered req.nodeId (Server.mem_startTargets.mpr active)
      rw [same] at answer
      have confirmed : sites.Confirms r.errands
        ((s'.started r.base).startCommand (s'.startTargets r.base) req.nodeId) := of_decide_eq_true answer
      have standby := Command.standby_of_accepted rfl confirmed.2
      have reached : ((s'.started r.base).startCommand (s'.startTargets r.base) req.nodeId).nodeURL =
        req.nodeUrl := (Server.urlOf_started req.nodeId).trans url
      rw [reached] at standby
      exact absurd standby waiting

/-- Where a registration leads from `Initializing`. -/
theorem current_of_register (settled : Settled ⟨s, locks⟩) (initializing : s.current = .initializing) :
    (World.run (register setting req now round) ⟨s, locks⟩).2.data.current = .initializing ∨
      ∃ status rank counted, Enrolls setting s locks req status rank counted ∧
        setting.config.expectedNodes - setting.config.standbyNodes ≤
          (counted.enrolled req now status rank).nodes.count .active ∧
        ((counted.enrolled req now status rank).startTargets round).all round.answers = true ∧
        (World.run (register setting req now round) ⟨s, locks⟩).2.data =
          { (counted.enrolled req now status rank).started round with current := .running } := by
  rw [World.run_snd]
  have ends := register_ends setting settled req now round
  generalize run : (register setting req now round).run ⟨s, locks⟩ = outcome at ends ⊢
  cases ends with
  | refused refusal closed => exact .inl initializing
  | reconnected response accepting registryFree found registered =>
      exact .inl ((kept_reconnected req now _).current.trans initializing)
  | waiting accepting held found => exact .inl ((kept_captureMaster req).current.trans initializing)
  | full refusal accepting new refuses =>
      exact .inl ((kept_captureMaster req).current.trans initializing)
  | @counted status rank counted accepting fresh held admitted =>
      obtain ⟨_, _, same⟩ := Server.sessionRegistered_eq counted req now status rank
      refine .inl ?_
      rw [same]
      exact (congrArg Lifecycle.current (Server.counted_of_admits admitted).lifecycle).trans initializing
  | enrolled response enrolls incomplete =>
      exact .inl ((congrArg Lifecycle.current (Server.lifecycle_enrolled req now
        (Server.counted_of_admits enrolls.admitted))).trans initializing)
  | completing enrolls complete held => exact .inl complete.2
  | short response enrolls complete clusterFree few => exact .inl complete.2
  | started response enrolls complete clusterFree enough =>
      have answered := answers_of_started settled enrolls complete clusterFree enough run
      exact .inr ⟨_, _, _, enrolls, enough, answered, rfl⟩
  | startFailed enrolls complete clusterFree enough silent => exact .inl complete.2

/-- Any other step stays in `Initializing`. -/
theorem initializing_of_other {w w' : World} {a : Action} (settled : Settled w)
    (initializing : w.data.current = .initializing) (next : w.next setting a = some w')
    (other : ¬ ∃ req now round, a = .register req now round) : w'.data.current = .initializing := by
  have refuses : ¬ w.data.current.reconfigurable := by
    rw [initializing]
    decide
  obtain ⟨ending, ends, effect⟩ := World.effect_of_next settled next
  cases effect with
  | kept a kept => exact kept.current.trans initializing
  | waiting a l held kept => exact kept.current.trans initializing
  | exited a reconfigures => rcases ends with ends | ends <;> cases ends
  | panicked req order crashes => rcases ends with ends | ends <;> cases ends
  | counted req now round => exact absurd ⟨req, now, round, rfl⟩ other
  | enrolled req now round => exact absurd ⟨req, now, round, rfl⟩ other
  | startFailed req now round => exact absurd ⟨req, now, round, rfl⟩ other
  | started req now round => exact absurd ⟨req, now, round, rfl⟩ other
  | leaked req status registryFree => exact initializing
  | failedOver req status registryFree known working accepted => exact absurd accepted refuses
  | timedOut now order registryFree =>
      exact (congrArg Lifecycle.current (Server.expired_timedOut setting now order).lifecycle).trans
        initializing
  | cleanedUp now order registryFree =>
      exact (congrArg Lifecycle.current (Server.departed_cleanedUp setting now order).2).trans
        initializing
  | removedInactive nodeID rounds status clusterFree known accepted => exact absurd accepted refuses
  | removedActive nodeID rounds clusterFree known accepted => exact absurd accepted refuses
  | removedStuck nodeID rounds clusterFree known accepted => exact absurd accepted refuses
  | reconfigured rounds spawned accepted => exact absurd accepted refuses
  | reconfigureStuck rounds spawned accepted => exact absurd accepted refuses

/-- A step that leaves `Initializing` enrolls a standby node, and starts the program. -/
theorem enrolls_of_leaving {w w' : World} {a : Action} (settled : Settled w)
    (joins : Joins setting w a) (initializing : w.data.current = .initializing)
    (next : w.next setting a = some w') (leaves : w'.data.current ≠ .initializing) :
    ∃ req now round rank counted, a = .register req now round ∧
      Enrolls setting w.data w.locks req .standby rank counted ∧
      w'.data = { (counted.enrolled req now .standby rank).started round with current := .running } := by
  by_cases registers : ∃ req now round, a = .register req now round
  · obtain ⟨req, now, round, rfl⟩ := registers
    obtain ⟨s, locks⟩ := w
    have run := World.run_of_next next
    rw [Action.run] at run
    rcases current_of_register settled initializing with
      stays | ⟨status, rank, counted, enrolls, _, answered, starts⟩
    · exact absurd (run ▸ stays) leaves
    · obtain ⟨sites, r, getenv, waiting, _, answers⟩ := joins
      have notStandby : (sites req.nodeUrl).1.state ≠ .standby := by
        rw [waiting]
        decide
      rw [SiteRound.joinRound, enrolls.admitted] at answers
      obtain rfl := standby_of_answers (Server.counted_of_admits enrolls.admitted) answered notStandby
        answers
      exact ⟨req, now, round, rank, counted, rfl, enrolls, run ▸ starts⟩
  · exact absurd (initializing_of_other settled initializing next registers) leaves

/-- **The node that starts the program is a standby node.** When the monitors register as `Start` does
and the sites answer the start commands, a step that leaves `Initializing` is the registration
of a standby node. -/
theorem standby_of_starting {w w' : World} {a : Action} (reachable : setting.system.Reachable w)
    (joins : Joins setting w a) (initializing : w.data.current = .initializing)
    (next : w.next setting a = some w') (leaves : w'.data.current ≠ .initializing) :
    w'.data.current = .running ∧ ∃ req now round, a = .register req now round ∧
      w'.data.nodes.statusOf req.nodeId = some .standby := by
  obtain ⟨req, now, round, rank, counted, rfl, enrolls, starts⟩ :=
    enrolls_of_leaving (setting.settled_of_reachable reachable) joins initializing next leaves
  rw [starts]
  refine ⟨rfl, req, now, round, rfl, ?_⟩
  have counts := Server.counted_of_admits enrolls.admitted
  refine (Server.statusOf_started ..).trans ?_
  exact (Server.statusOf_enrolled req now counts req.nodeId).trans (if_pos rfl)

theorem standby_of_starting_fourth :
    (joined smallSetting fourNodes).data.current = .running ∧ ∃ req now round,
      joining smallSetting (joined smallSetting fourNodes.tail) "d.ns.1" "http://d.ns:1" =
        .register req now round ∧
      (joined smallSetting fourNodes).data.nodes.statusOf req.nodeId = some .standby := by
  exact standby_of_starting (run_joined smallSetting fourNodes.tail).reachable (joins_joining ..)
    (by decide +kernel) (next_joined (by decide +kernel)) (by decide +kernel)

/-- **Without standby nodes the program never starts.** -/
theorem initializing_of_run {w : World} (positive : 1 ≤ setting.config.activeNodes)
    (noStandby : setting.config.standbyNodes ≤ 0) (run : setting.system.Run (Joins setting) w) :
    w.data.current = .initializing := by
  refine run.inductOver (I := fun w => w.data.current = .initializing)
    (J := fun w => Settled w ∧ Capped setting w.data) ?_ ?_ ?_
  · exact fun w reachable =>
      ⟨setting.settled_of_reachable reachable, capped_of_reachable setting positive reachable⟩
  · rintro w rfl
    rfl
  · intro w a w' ⟨settled, capped⟩ initializing joins next
    by_contra leaves
    obtain ⟨req, now, round, rank, counted, _, enrolls, _⟩ :=
      enrolls_of_leaving settled joins initializing next leaves
    have counts := Server.counted_of_admits enrolls.admitted
    have covered : w.data.nodes.count .standby ≤ w.data.standbyNodes :=
      sub_nonneg.mp (capped.counted .standby _ rfl)
    have occupied : 0 ≤ w.data.nodes.count .standby := Int.natCast_nonneg _
    have same : (w.data.captureMaster req).standbyNodes = w.data.standbyNodes := by
      unfold Server.captureMaster
      split <;> rfl
    cases Server.admitted_of_admits enrolls.admitted with
    | standby full room => omega

theorem initializing_of_run_pair :
    (joined pairSetting [("b.ns.1", "http://b.ns:1"), ("a.ns.1", "http://a.ns:1")]).data.nodes.count
        .active = 2 ∧
      (joined pairSetting [("b.ns.1", "http://b.ns:1"), ("a.ns.1", "http://a.ns:1")]).data.current =
        .initializing :=
  ⟨by decide +kernel, initializing_of_run (by decide) (by decide) (run_joined ..)⟩

end Join

end C4D
