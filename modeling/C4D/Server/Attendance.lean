import C4D.Server.Rolls

/-!
# Registered nodes are connected

Every registered node has a session that is connected (`attended_of_reachable`):
a session is disconnected only when its node leaves the registry, and only
disconnected sessions expire. So `Register` never admits a node that is still
registered (`Enrolls.unregistered`).
-/

set_option autoImplicit false

namespace C4D

open Foundations

/-- Every registered node has a connected session. -/
def Attended (s : Server) : Prop := ∀ j, s.nodes.statusOf j ≠ none → s.Connected j

theorem Registry.statusOf_ne_none {nodes : Registry} {j : String} :
    nodes.statusOf j ≠ none ↔ j ∈ AList.keys nodes := by
  rw [Option.ne_none_iff_exists', ← Registry.mem_iff_statusOf, AList.mem_keys]

variable {setting : Setting} {s s' : Server}

namespace Attended

/-- The rolls decide it. -/
theorem iff_roll : Attended s ↔ ∀ id, s.roll.registered id →
    ∃ session, s.roll.session id = some session ∧ session.isConnected = true :=
  forall_congr' fun _ => imp_congr_left (Registry.statusOf_ne_none.trans AList.mem_keys.symm)

/-- A step keeps the registered nodes connected. -/
theorem step {w : World} {a : Action} (attended : Attended w.data)
    (step : RollStep setting w a s'.roll) : Attended s' := by
  rw [iff_roll] at attended ⊢
  generalize s'.roll = after at step ⊢
  intro id registered
  cases step with
  | kept => exact attended id registered
  | entered req now round session connected registryFree =>
      by_cases here : id = req.nodeId
      · exact ⟨session, by rw [here]; exact Function.update_self .., connected⟩
      · obtain ⟨existing, found, connected⟩ := attended id (registered.resolve_left here)
        exact ⟨existing, (Function.update_of_ne here ..).trans found, connected⟩
  | waiting req now round session connected severs =>
      by_cases here : id = req.nodeId
      · exact ⟨session, by rw [here]; exact Function.update_self .., connected⟩
      · obtain ⟨existing, found, connected⟩ := attended id registered
        exact ⟨existing, (Function.update_of_ne here ..).trans found, connected⟩
  | swept now order =>
      obtain ⟨session, found, connected⟩ := attended id registered
      exact ⟨session, Option.filter_eq_some_iff.mpr ⟨found, by simp [connected]⟩, connected⟩
  | departed now order =>
      obtain ⟨session, found, connected⟩ := attended id registered.2
      refine ⟨session, ?_, connected⟩
      simp only [Roll.depart, found, Option.map_some, if_neg registered.1]
  | struck nodeID rounds severs => exact attended id registered.2

end Attended

/-- **In every reachable world the registered nodes are connected.** -/
theorem Setting.attended_of_reachable (setting : Setting) {w : World}
    (reachable : setting.system.Reachable w) : Attended w.data :=
  setting.roll_invariant_of_run (fun _ registered => absurd rfl registered)
    (fun attended _ step => attended.step step) reachable

theorem attended_of_reachable {deployment : Deployment} {w : World}
    (reachable : (system deployment).Reachable w) : Attended w.data :=
  deployment.toSetting.attended_of_reachable reachable

/-- A node that `Register` admits in an attended server is not registered. -/
theorem Enrolls.unregistered {locks : Lock → RWMutex} {req : RegisterRequest} {status : Status}
    {rank : Int} {counted : Server} (enrolls : Enrolls setting s locks req status rank counted)
    (attended : Attended s) : s.nodes.statusOf req.nodeId = none := by
  rcases enrolls.unknown with absent | absent
  · by_contra registered
    obtain ⟨session, found, _⟩ := attended req.nodeId registered
    cases absent.symm.trans found
  · exact Registry.statusOf_eq_none.mpr absent

end C4D
