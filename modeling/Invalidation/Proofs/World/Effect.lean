import Invalidation.Proofs.Cluster.Handling
import Invalidation.Proofs.Recorder.Handling
import Invalidation.Session

/-!
# What actions leave alone

An action leads along a relation if it leads every state to a related one, whether it fails or not.
If the relation allows to stay and to go on, actions one after another lead along it as well
(`Attempt.Along.bind`). Two such relations say how little most steps do: what is done at the nodes
of a cluster changes nothing else (`World.along_nodesOnly_perform`), and a step that neither
concerns the bus nor publishes changes nothing but the outlet, whose sink stays of its kind
(`World.along_outletOnly_perform`).
-/

set_option autoImplicit false

namespace Invalidation

namespace Attempt

variable {σ α β : Type}

def after (action : Attempt σ α) (s : σ) : σ :=
  match action s with
  | .ok _ t => t
  | .error _ t => t

theorem after_bind (action : Attempt σ α) (next : α → Attempt σ β) (s : σ) :
    (action >>= next).after s =
      match action s with
      | .ok value t => (next value).after t
      | .error _ t => t := by
  rw [after, bind_apply]
  cases action s <;> rfl

theorem after_answer (action : Attempt σ α) (answer : β) (s : σ) :
    (action >>= fun _ => pure answer).after s = action.after s := by
  rw [after, after, answer_apply]
  cases action s <;> rfl

/-- The action leads every state to one that is related to it. -/
def Along (related : σ → σ → Prop) (action : Attempt σ α) : Prop := ∀ s, related s (action.after s)

/-- The relation allows to stay where one is and to go on from where one came. -/
class Passage (related : σ → σ → Prop) : Prop where
  stay : ∀ s, related s s
  onward : ∀ {s t u}, related s t → related t u → related s u

/-- An action that leads along equality only looks. -/
instance : Passage (@Eq σ) where
  stay _ := rfl
  onward := Eq.trans

namespace Along

variable {related other : σ → σ → Prop}

theorem mono {action : Attempt σ α} (along : Along related action)
    (wider : ∀ s t, related s t → other s t) : Along other action :=
  fun s => wider s _ (along s)

variable [Passage related]

protected theorem pure (value : α) : Along related (pure value : Attempt σ α) := Passage.stay

protected theorem throw (failure : Failure) : Along related (throw failure : Attempt σ α) :=
  Passage.stay

protected theorem get : Along related (get : Attempt σ σ) := Passage.stay

theorem ofExcept (value : Except Failure α) :
    Along related (Attempt.ofExcept value : Attempt σ α) := by
  cases value with
  | error failure => exact .throw failure
  | ok value => exact .pure value

theorem ofChecked (value : Checked α) : Along related (Attempt.ofChecked value : Attempt σ α) := by
  cases value with
  | faulty first more => exact .throw _
  | valid value => exact .pure value

protected theorem bind {action : Attempt σ α} {next : α → Attempt σ β}
    (first : Along related action) (second : ∀ value, Along related (next value)) :
    Along related (action >>= next) := by
  intro s
  have here := first s
  rw [after_bind]
  unfold after at here
  cases ended : action s with
  | error failure t =>
    rw [ended] at here
    exact here
  | ok value t =>
    rw [ended] at here
    exact Passage.onward here (second value t)

theorem forM {act : α → Attempt σ Unit} (values : List α)
    (each : ∀ value ∈ values, Along related (act value)) : Along related (values.forM act) := by
  induction values with
  | nil => exact .pure ()
  | cons value rest ih =>
    have opened : (value :: rest).forM act = act value >>= fun _ => rest.forM act := rfl
    rw [opened]
    exact .bind (each value List.mem_cons_self) fun _ =>
      ih fun other member => each other (List.mem_cons_of_mem value member)

end Along

end Attempt

namespace World

open Attempt (Along Passage)

/-! ### Actions that only look -/

section

variable {related : World → World → Prop} [Passage related]

theorem along_binder (index : Raw) : Along related (binder index) :=
  .bind .get fun _ => .bind (.ofExcept _) fun _ =>
    .pure _

theorem along_notification (event : Record) : Along related (notification event) := by
  cases event with
  | notification event => exact .pure event
  | _ => exact .throw _

theorem along_recorder (action : SinkAction) : Along related (recorder action) := by
  refine .bind .get fun now => ?_
  cases now.outlet.sink with
  | recorder recorder => exact .pure recorder
  | cluster cluster => exact .throw _

theorem along_cluster (action : SinkAction) : Along related (cluster action) := by
  refine .bind .get fun now => ?_
  cases now.outlet.sink with
  | recorder recorder => exact .throw _
  | cluster cluster => exact .pure cluster

theorem along_node (index : Raw) : Along related (node index) :=
  .bind (along_cluster .nodes) fun _ =>
    .bind (.ofExcept _) fun _ => .pure _

theorem along_region (raw : Raw) : Along related (region raw) := by
  unfold region
  cases (Reading.word raw : Checked Region) with
  | valid region => exact .pure region
  | faulty first more => exact .throw _

end

/-! ### What is done at nodes -/

/-- Nothing is other than it was but the nodes of the cluster. -/
inductive NodesOnly (world : World) : World → Prop where
  | same : NodesOnly world world
  | nodes {cluster : Cluster} (nodes : List Node) (here : world.outlet.sink = .cluster cluster) :
      NodesOnly world
        { world with outlet.sink := .cluster { cluster with nodes := nodes } }

instance : Passage NodesOnly where
  stay _ := .same
  onward first second := by
    cases first with
    | same => exact second
    | nodes between here =>
      cases second with
      | same => exact .nodes between here
      | nodes after there =>
        obtain rfl := Sink.cluster.inj there
        have whole : NodesOnly _ _ := .nodes after here
        exact whole

theorem cluster_apply (action : SinkAction) (world : World) :
    cluster action world =
      match world.outlet.sink with
      | .cluster cluster => .ok cluster world
      | .recorder recorder =>
        .error (.unsupported (Sink.recorder recorder).kind action) world := by
  obtain ⟨bus, binders, ⟨sink, notices⟩, program⟩ := world
  cases sink <;> rfl

/-- The cluster gets other nodes. -/
theorem along_setSink (action : SinkAction) (change : Cluster → List Node) :
    Along NodesOnly (cluster action >>= fun cluster =>
      setSink (.cluster { cluster with nodes := change cluster })) := by
  intro world
  rw [Attempt.after_bind, cluster_apply]
  cases here : world.outlet.sink with
  | recorder recorder => exact .same
  | cluster cluster => exact .nodes (change cluster) here

theorem along_keepNode (place : Nat) (node : Node) : Along NodesOnly (keepNode place node) :=
  along_setSink .nodes fun cluster => cluster.nodes.set place node

theorem along_put (index regionName spelling value parent : Raw) :
    Along NodesOnly (put index regionName spelling value parent) :=
  .bind (along_node index) fun _ => .bind (along_region regionName) fun _ =>
    .bind (.ofExcept _) fun _ => along_keepNode _ _

theorem along_cached (index regionName spelling : Raw) :
    Along NodesOnly (cached index regionName spelling) :=
  .bind (along_node index) fun _ => .bind (along_region regionName) fun _ =>
    .bind (.ofExcept _) fun _ => .pure _

theorem along_cachedKeys (index regionName : Raw) :
    Along NodesOnly (cachedKeys index regionName) :=
  .bind (along_node index) fun _ => .bind (along_region regionName) fun _ => .ofExcept _

theorem along_applyOn (index raw : Raw) : Along NodesOnly (applyOn index raw) := by
  refine .bind (along_node index) fun found => .bind (.ofChecked _) fun command => ?_
  cases found.2.failure? command with
  | some failure => exact .throw failure
  | none => exact along_keepNode _ _

end World

/-- A step that registers, reads or writes nodes of a cluster. -/
def Step.TendsNodes : Step → Prop
  | .join _ | .nodeNames | .put _ _ _ _ _ | .get _ _ _ | .keys _ _ | .apply _ _
  | .setOutage _ _ => True
  | _ => False

/-- A step that attaches no handler to the bus and detaches none, neither itself nor through a
binder. -/
def Step.LeavesBus : Step → Prop
  | .start _ _ | .stop _ | .bindings _ _ _ | .subscribe _ _ | .unsubscribe _ _ => False
  | _ => True

namespace World

open Attempt (Along Passage)

theorem along_nodesOnly_perform (react : Handler → Record → Attempt World Unit) {step : Step}
    (tends : step.TendsNodes) : Along NodesOnly (perform react step) := by
  cases step with
  | join node =>
    have joined := (along_setSink .join fun cluster => cluster.nodes ++ [node]).bind fun _ =>
      Along.pure Reply.done
    rw [bind_assoc] at joined
    exact joined
  | nodeNames => exact .bind (along_cluster _) fun _ => .pure _
  | put index region key value parent =>
    exact .bind (along_put index region key value parent) fun _ => .pure _
  | get index region key => exact .bind (along_cached index region key) fun _ => .pure _
  | keys index region => exact .bind (along_cachedKeys index region) fun _ => .pure _
  | apply index raw => exact .bind (along_applyOn index raw) fun _ => .pure _
  | setOutage index operations =>
    exact .bind (along_node index) fun _ => .bind (along_keepNode _ _) fun _ => .pure _
  | _ => exact tends.elim

end World

/-! ### What is done to the outlet -/

namespace Outlet

open Attempt (Along Passage)

/-- The sink is of the kind that it was of. -/
def SameKind (outlet now : Outlet) : Prop := now.sink.kind = outlet.sink.kind

instance : Passage SameKind where
  stay _ := rfl
  onward first second := second.trans first

theorem along_note (notice : Notice) : Along SameKind (note notice) := fun _ => rfl

theorem sameKind_outcome {α : Type} {action : Attempt Outlet α} {outlet : Outlet}
    {cluster : Cluster} {answer : α} {notices : List Notice} {ended : Cluster × Option Failure}
    (here : outlet.sink = .cluster cluster) (done : action outlet = outcome answer notices ended) :
    SameKind outlet (action.after outlet) := by
  obtain ⟨after, failure⟩ := ended
  unfold SameKind Attempt.after
  rw [here, done]
  cases failure <;> rfl

theorem along_broadcast (command : Command) : Along SameKind (broadcast command) := by
  rintro ⟨sink, notices⟩
  cases sink with
  | recorder recorder => rfl
  | cluster cluster => exact sameKind_outcome rfl (broadcast_cluster command cluster notices)

theorem along_take (call : Call) : Along SameKind (take call) := by
  rintro ⟨sink, notices⟩
  cases sink with
  | recorder recorder =>
    unfold Attempt.after
    rw [take_recorder, receive_apply]
    cases recorder.refusal? call with
    | some failure => rfl
    | none => cases call.read <;> rfl
  | cluster cluster =>
    cases read : call.read with
    | valid command =>
      obtain ⟨later, taken⟩ := broadcasts_take read cluster notices
      exact sameKind_outcome rfl taken
    | faulty first more =>
      unfold Attempt.after
      rw [take_cluster, read]
      rfl

theorem along_dispatch (command : Command) : Along SameKind (dispatch command) := by
  unfold dispatch
  cases command.call? with
  | some call => exact along_take call
  | none => exact .throw _

theorem along_route (event : Notification) : Along SameKind (route event) :=
  .bind .get fun _ => .ofExcept _

theorem along_handle (event : Notification) : Along SameKind (handle event) :=
  .bind (along_route event) fun commands => .bind (along_note _) fun _ =>
    .bind (.forM commands fun command _ => along_dispatch command) fun _ => .pure _

end Outlet

namespace World

open Attempt (Along Passage)

/-- Nothing is other than it was but the outlet, and its sink is of the same kind. -/
def OutletOnly (world now : World) : Prop :=
  ∃ outlet, now = { world with outlet := outlet } ∧ world.outlet.SameKind outlet

instance : Passage OutletOnly where
  stay world := ⟨world.outlet, rfl, rfl⟩
  onward := by
    rintro world _ _ ⟨between, rfl, first⟩ ⟨after, rfl, second⟩
    exact ⟨after, rfl, Passage.onward first second⟩

theorem NodesOnly.outletOnly {world now : World} (nodes : NodesOnly world now) :
    OutletOnly world now := by
  cases nodes with
  | same => exact Passage.stay world
  | nodes after here =>
    refine ⟨_, rfl, ?_⟩
    rw [Outlet.SameKind, here]
    rfl

theorem along_onOutlet {α : Type} {action : Attempt Outlet α}
    (keeps : Along Outlet.SameKind action) : Along OutletOnly (onOutlet action) := by
  intro world
  have here := keeps world.outlet
  unfold Attempt.after World.onOutlet Attempt.onPart
  unfold Attempt.after at here
  cases ended : action world.outlet with
  | ok value outlet =>
    rw [ended] at here
    exact ⟨outlet, rfl, here⟩
  | error failure outlet =>
    rw [ended] at here
    exact ⟨outlet, rfl, here⟩

theorem along_clear (action : SinkAction) : Along OutletOnly (recorder action >>= fun recorder =>
    setSink (.recorder recorder.clear)) := by
  rintro ⟨bus, binders, ⟨sink, notices⟩, program⟩
  cases sink with
  | recorder recorder => exact ⟨⟨.recorder recorder.clear, notices⟩, rfl, rfl⟩
  | cluster cluster => exact ⟨⟨.cluster cluster, notices⟩, rfl, rfl⟩

theorem along_react_router (depth : Nat) (event : Record) :
    Along OutletOnly (react depth .router event) := by
  cases depth with
  | zero => exact .throw _
  | succ depth =>
    exact .bind (along_notification event) fun _ =>
      .bind (along_onOutlet (Outlet.along_handle _)) fun _ => .pure _

/-- A step that concerns neither the bus nor the binders and publishes nothing concerns only the
outlet. -/
theorem along_outletOnly_perform (react : Handler → Record → Attempt World Unit) {step : Step}
    (leaves : step.LeavesBus) (silent : ∀ draft, step ≠ .publish draft) :
    Along OutletOnly (perform react step) := by
  by_cases tends : step.TendsNodes
  · exact (along_nodesOnly_perform react tends).mono fun _ _ => NodesOnly.outletOnly
  cases step with
  | isBound index => exact .bind (along_binder index) fun _ => .pure _
  | publish draft => exact absurd rfl (silent draft)
  | route event =>
    exact .bind (.ofChecked _) fun record => .bind (along_notification record) fun _ =>
      .bind (along_onOutlet (Outlet.along_route _)) fun _ => .pure _
  | handle event =>
    exact .bind (.ofChecked _) fun record => .bind (along_notification record) fun _ =>
      .bind (along_onOutlet (Outlet.along_handle _)) fun _ => .pure _
  | handlerCount topic => cases topic <;> exact .bind .get fun _ => .pure _
  | fail text => exact .throw _
  | call method region argument =>
    exact .bind (.ofExcept _) fun _ => .bind (along_onOutlet (Outlet.along_take _)) fun _ => .pure _
  | recorded | recordedFor region => exact .bind (along_recorder _) fun _ => .pure _
  | clear =>
    have cleared := (along_clear .clear).bind fun _ => Along.pure Reply.done
    rw [bind_assoc] at cleared
    exact cleared
  | journal => exact .bind (along_cluster _) fun _ => .pure _
  | broadcast raw =>
    exact .bind (along_cluster _) fun _ => .bind (.ofChecked _) fun _ =>
      .bind (along_onOutlet (Outlet.along_broadcast _)) fun _ => .pure _
  | join _ | nodeNames | put _ _ _ _ _ | get _ _ _ | keys _ _ | apply _ _ | setOutage _ _ =>
    exact absurd trivial tends
  | start _ _ | stop _ | bindings _ _ _ | subscribe _ _ | unsubscribe _ _ => exact leaves.elim

end World

end Invalidation
