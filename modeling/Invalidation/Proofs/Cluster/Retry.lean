import Invalidation.Proofs.Cluster.Handling

/-!
# Retrying after failures

A notification that fails on a cluster leaves it half changed: the commands up to some point are
carried out, the last of them by the nodes in front only. Every attempt starts over from the first
command, so whatever earlier attempts have done to a node is done again. What is left of a node by
failed attempts is one stretch of the commands, the longest that any of them reached
(`Node.Advanced`), and all the commands behind it amount to the commands alone. One attempt that
succeeds therefore repairs all that failed (`handle_repairs_failed_attempts`).

Between attempts nodes may come within reach or get out of it (`Alike`), but nothing is written.
-/

set_option autoImplicit false

namespace Invalidation

namespace Node

/-- The nodes hold the same. They may differ in what keeps them from being reached. -/
structure Alike (a b : Node) : Prop where
  name : a.name = b.name
  entries : a.entries = b.entries
  links : a.links = b.links

/-- The node, were it always within reach, would carry out the commands in turn. -/
def Walks : List Command → Node → Prop
  | [], _ => True
  | command :: rest, node => node.obstacle? command = none ∧ Walks rest (node.apply command)

theorem Alike.refl (node : Node) : node.Alike node := ⟨rfl, rfl, rfl⟩

theorem Alike.symm {a b : Node} (alike : a.Alike b) : b.Alike a :=
  ⟨alike.name.symm, alike.entries.symm, alike.links.symm⟩

theorem Alike.trans {a b c : Node} (first : a.Alike b) (second : b.Alike c) : a.Alike c :=
  ⟨first.name.trans second.name, first.entries.trans second.entries,
    first.links.trans second.links⟩

theorem Alike.eq {a b : Node} (alike : a.Alike b) : b = { a with outage := b.outage } := by
  obtain ⟨name, entries, links, outage⟩ := b
  obtain ⟨rfl, rfl, rfl⟩ := alike
  rfl

theorem Alike.applyAll {a b : Node} (alike : a.Alike b) (commands : List Command) :
    (a.applyAll commands).Alike (b.applyAll commands) := by
  induction commands generalizing a b with
  | nil => exact alike
  | cons command rest ih =>
    have next : (a.apply command).Alike (b.apply command) := by
      rw [alike.eq]
      exact ⟨rfl, rfl, rfl⟩
    exact ih next

theorem Alike.walks_iff {a b : Node} (alike : a.Alike b) (commands : List Command) :
    a.Walks commands ↔ b.Walks commands := by
  induction commands generalizing a b with
  | nil => exact Iff.rfl
  | cons command rest ih =>
    have next : (a.apply command).Alike (b.apply command) := alike.applyAll [command]
    have same : a.obstacle? command = b.obstacle? command := by
      rw [alike.eq]
      rfl
    rw [Walks, Walks, same, ih next]

theorem failure?_eq_none_iff (command : Command) (node : Node) :
    node.failure? command = none ↔
      node.isOut command.operation = false ∧ node.obstacle? command = none := by
  unfold failure?
  by_cases out : node.isOut command.operation = true
  · simp [out]
  · simp [out]

theorem accepts_iff (commands : List Command) (node : Node) :
    node.Accepts commands ↔
      (∀ command ∈ commands, node.isOut command.operation = false) ∧ node.Walks commands := by
  induction commands generalizing node with
  | nil => simp [Accepts, Walks]
  | cons command rest ih =>
    have reach : ∀ operation, (node.apply command).isOut operation = node.isOut operation :=
      fun _ => rfl
    rw [Accepts, Walks, failure?_eq_none_iff, ih, List.forall_mem_cons]
    simp only [reach]
    constructor
    · intro ⟨⟨within, free⟩, others, walks⟩
      exact ⟨⟨within, others⟩, free, walks⟩
    · intro ⟨⟨within, others⟩, free, walks⟩
      exact ⟨⟨within, free⟩, others, walks⟩

theorem walks_append (first second : List Command) (node : Node) :
    node.Walks (first ++ second) ↔ node.Walks first ∧ (node.applyAll first).Walks second := by
  induction first generalizing node with
  | nil => simp [Walks, applyAll]
  | cons command rest ih => rw [List.cons_append, Walks, Walks, ih, applyAll_cons, and_assoc]

/-- Commands that a node walks through after some of them, it walks through from the start. -/
theorem walks_of_walks_again {done extra : List Command} {node : Node} (walks : node.Walks done)
    (again : (node.applyAll done).Walks (done ++ extra)) : node.Walks (done ++ extra) := by
  have onward : ((node.applyAll done).applyAll done).Walks extra :=
    ((walks_append done extra _).1 again).2
  rw [applyAll_of_subset fun _ member => member] at onward
  exact (walks_append done extra node).2 ⟨walks, onward⟩

/-- What failed attempts at the commands make of a node: some stretch of the commands is carried
out, and no obstacle was met in it. -/
def Advanced (commands : List Command) (first now : Node) : Prop :=
  ∃ done rest, commands = done ++ rest ∧ first.Walks done ∧ (first.applyAll done).Alike now

variable {commands : List Command} {first before after : Node}

theorem Advanced.start (commands : List Command) (node : Node) : Advanced commands node node :=
  ⟨[], commands, rfl, trivial, .refl node⟩

theorem Advanced.resume (advanced : Advanced commands first before) (alike : before.Alike after) :
    Advanced commands first after := by
  obtain ⟨done, rest, split, walks, reached⟩ := advanced
  exact ⟨done, rest, split, walks, reached.trans alike⟩

/-- One more attempt gets further than those before it, or repeats what they did. -/
theorem Advanced.attempt (advanced : Advanced commands first before)
    (reaches : before.Reaches commands after) : Advanced commands first after := by
  obtain ⟨done, rest, split, walks, reached⟩ := advanced
  obtain ⟨more, left, split', accepts, rfl⟩ := reaches
  have again : (first.applyAll done).Walks more :=
    (reached.walks_iff more).2 ((accepts_iff more before).1 accepts).2
  have result := reached.applyAll more
  have prefixes : done <+: more ∨ more <+: done :=
    List.prefix_or_prefix_of_prefix ⟨rest, split.symm⟩ ⟨left, split'.symm⟩
  rcases prefixes with ⟨extra, rfl⟩ | ⟨extra, rfl⟩
  · rw [applyAll_of_subset fun _ member => List.mem_append_left extra member] at result
    exact ⟨done ++ extra, left, split', walks_of_walks_again walks again, result⟩
  · have repeated : ∀ command, command ∈ (more ++ extra) ++ more ↔ command ∈ more ++ extra := by
      intro command
      simp only [List.mem_append]
      tauto
    rw [← applyAll_append, applyAll_congr repeated] at result
    exact ⟨more ++ extra, rest, split, walks, result⟩

theorem Advanced.finish (advanced : Advanced commands first before)
    (accepts : before.Accepts commands) :
    ({ first with outage := before.outage } : Node).Accepts commands ∧
      (first.applyAll commands).Alike (before.applyAll commands) := by
  obtain ⟨done, rest, split, walks, reached⟩ := advanced
  obtain ⟨within, free⟩ := (accepts_iff commands before).1 accepts
  have again : (first.applyAll done).Walks (done ++ rest) := by
    rw [← split]
    exact (reached.walks_iff commands).2 free
  have from_start : first.Walks commands := by
    rw [split]
    exact walks_of_walks_again walks again
  have alike : first.Alike { first with outage := before.outage } := ⟨rfl, rfl, rfl⟩
  refine ⟨(accepts_iff _ _).2 ⟨within, (alike.walks_iff commands).1 from_start⟩, ?_⟩
  have included : ∀ command ∈ done, command ∈ commands := by
    intro command member
    rw [split]
    exact List.mem_append_left rest member
  have result := reached.applyAll commands
  rwa [applyAll_of_subset included] at result

end Node

private theorem forall₂_trans {α β γ : Type} {R : α → β → Prop} {S : β → γ → Prop}
    {T : α → γ → Prop} (step : ∀ a b c, R a b → S b c → T a c) {as : List α} {bs : List β}
    {cs : List γ} (first : List.Forall₂ R as bs) (second : List.Forall₂ S bs cs) :
    List.Forall₂ T as cs := by
  induction first generalizing cs with
  | nil =>
    cases second
    exact .nil
  | cons here _ ih =>
    cases second with
    | cons next rest => exact .cons (step _ _ _ here next) (ih rest)

private theorem exists_of_forall₂ {α β : Type} {R : α → β → Prop} {S : α → α → Prop}
    {p : α → Prop} (choose : ∀ a b, R a b → ∃ c, S a c ∧ p c) {as : List α} {bs : List β}
    (pairs : List.Forall₂ R as bs) : ∃ cs, List.Forall₂ S as cs ∧ ∀ c ∈ cs, p c := by
  induction pairs with
  | nil => exact ⟨[], .nil, by simp⟩
  | cons here _ ih =>
    obtain ⟨c, related, holds⟩ := choose _ _ here
    obtain ⟨cs, others, hold⟩ := ih
    exact ⟨c :: cs, .cons related others, List.forall_mem_cons.2 ⟨holds, hold⟩⟩

namespace Cluster

/-- The clusters hold the same. Their nodes may differ in what keeps them from being reached. -/
structure Alike (a b : Cluster) : Prop where
  acceptsBatches : a.acceptsBatches = b.acceptsBatches
  nodes : List.Forall₂ Node.Alike a.nodes b.nodes
  journal : a.journal = b.journal

theorem Alike.refl (cluster : Cluster) : cluster.Alike cluster :=
  ⟨rfl, List.forall₂_same.2 fun node _ => .refl node, rfl⟩

/-- What failed attempts at the commands make of a cluster. -/
structure Advanced (commands : List Command) (first now : Cluster) : Prop where
  acceptsBatches : first.acceptsBatches = now.acceptsBatches
  nodes : List.Forall₂ (Node.Advanced commands) first.nodes now.nodes

theorem acceptsBatches_broadcastAll (commands : List Command) (cluster : Cluster) :
    (cluster.broadcastAll commands).1.acceptsBatches = cluster.acceptsBatches := by
  induction commands generalizing cluster with
  | nil => rfl
  | cons command rest ih =>
    rw [broadcastAll, broadcast_eq]
    split
    next after stopped =>
      obtain ⟨rfl, -⟩ := Prod.mk.inj stopped
      exact ih _
    next after failure stopped =>
      obtain ⟨rfl, -⟩ := Prod.mk.inj stopped
      rfl

variable {commands : List Command} {first before : Cluster}

theorem Advanced.start (commands : List Command) (cluster : Cluster) :
    Advanced commands cluster cluster :=
  ⟨rfl, List.forall₂_same.2 fun node _ => .start commands node⟩

theorem Advanced.resume {after : Cluster} (advanced : Advanced commands first before)
    (alike : before.Alike after) : Advanced commands first after where
  acceptsBatches := advanced.acceptsBatches.trans alike.acceptsBatches
  nodes :=
    forall₂_trans (fun _ _ _ reached same => reached.resume same) advanced.nodes alike.nodes

theorem Advanced.attempt (advanced : Advanced commands first before) :
    Advanced commands first (before.broadcastAll commands).1 where
  acceptsBatches :=
    advanced.acceptsBatches.trans (acceptsBatches_broadcastAll commands before).symm
  nodes :=
    forall₂_trans (fun _ _ _ reached reaches => reached.attempt reaches) advanced.nodes
      (reaches_broadcastAll commands before)

theorem carried_out_of_broadcastAll {after : Cluster}
    (finished : before.broadcastAll commands = (after, none)) :
    List.Forall₂ (fun node result => node.Accepts commands ∧ result = node.applyAll commands)
      before.nodes after.nodes := by
  have accepts : ∀ node ∈ before.nodes, node.Accepts commands := by
    apply accepts_of_broadcastAll
    rw [finished]
  rw [broadcastAll_eq_of_accepts accepts] at finished
  obtain ⟨rfl, -⟩ := Prod.mk.inj finished
  rw [List.forall₂_map_right_iff, List.forall₂_same]
  exact fun node member => ⟨accepts node member, rfl⟩

end Cluster

namespace Outlet

/-- Attempts to handle a notification that all fail lead from the first cluster to the last. Before
each of them nodes may have come within reach or got out of it. -/
inductive Retried (event : Notification) (first : Cluster) : Cluster → Prop
  | start : Retried event first first
  | failed {last resumed failed : Cluster} {notices later : List Notice} {failure : Failure} :
      Retried event first last → last.Alike resumed →
      handle event ⟨.cluster resumed, notices⟩ = .error failure ⟨.cluster failed, later⟩ →
      Retried event first failed

theorem outcome_eq_error {α : Type} {answer : α} {notices later : List Notice}
    {result : Cluster × Option Failure} {failure : Failure} {failed : Cluster}
    (ended : outcome answer notices result = .error failure ⟨.cluster failed, later⟩) :
    failed = result.1 := by
  obtain ⟨after, stop⟩ := result
  cases stop with
  | none => cases ended
  | some _ =>
    cases ended
    rfl

theorem outcome_eq_ok {α : Type} {answer given : α} {notices later : List Notice}
    {result : Cluster × Option Failure} {after : Cluster}
    (ended : outcome answer notices result = .ok given ⟨.cluster after, later⟩) :
    given = answer ∧ result = (after, none) := by
  obtain ⟨found, stop⟩ := result
  cases stop with
  | none =>
    cases ended
    exact ⟨rfl, rfl⟩
  | some _ => cases ended

variable {event : Notification} {route : Route} {first last : Cluster}

theorem batches_eq {a b : Cluster} (same : a.acceptsBatches = b.acceptsBatches) :
    (Sink.cluster a).batches = (Sink.cluster b).batches := by
  simp only [Sink.batches, Sink.acceptsBatches?, same]

theorem Retried.advanced (mapped : event.route? = some route)
    (retried : Retried event first last) :
    Cluster.Advanced (route.expand (Sink.cluster first).batches event.payload) first last := by
  induction retried with
  | start => exact .start _ _
  | @failed last resumed failed notices later failure _ alike attempt ih =>
    have advanced := ih.resume alike
    obtain ⟨told, ended⟩ := handle_eq mapped resumed notices
    rw [ended, ← batches_eq advanced.acceptsBatches] at attempt
    rw [outcome_eq_error attempt]
    exact advanced.attempt

/-- After failed attempts one that succeeds carries out, in effect, the commands on every node as it
was before the first attempt, where nothing but outages could have kept them from it. -/
theorem Retried.finish {resumed after : Cluster} {commands : List Command}
    {notices later : List Notice} (mapped : event.route? = some route)
    (retried : Retried event first last) (alike : last.Alike resumed)
    (success : handle event ⟨.cluster resumed, notices⟩ = .ok commands ⟨.cluster after, later⟩) :
    commands = route.expand (Sink.cluster first).batches event.payload ∧
      List.Forall₂ (fun node result =>
          (∃ outage, ({ node with outage } : Node).Accepts commands) ∧
            (node.applyAll commands).Alike result)
        first.nodes after.nodes := by
  have advanced := (retried.advanced mapped).resume alike
  obtain ⟨told, ended⟩ := handle_eq mapped resumed notices
  rw [ended, ← batches_eq advanced.acceptsBatches] at success
  obtain ⟨rfl, finished⟩ := outcome_eq_ok success
  refine ⟨rfl, ?_⟩
  refine forall₂_trans ?_ advanced.nodes (Cluster.carried_out_of_broadcastAll finished)
  intro node before result reached ⟨accepts, same⟩
  obtain ⟨from_start, equal⟩ := reached.finish accepts
  rw [same]
  exact ⟨⟨_, from_start⟩, equal⟩

/-- An attempt that succeeds after any number of failed ones leaves every node as a single attempt
that succeeds would have left it from the state before them all, and such a single attempt there
would have been. -/
theorem handle_repairs_failed_attempts {resumed after : Cluster} {commands : List Command}
    {notices later : List Notice} (mapped : event.route? = some route)
    (retried : Retried event first last) (alike : last.Alike resumed)
    (success : handle event ⟨.cluster resumed, notices⟩ = .ok commands ⟨.cluster after, later⟩) :
    (∃ once single told, first.Alike once ∧
        handle event ⟨.cluster once, notices⟩ = .ok commands ⟨.cluster single, told⟩) ∧
      ∀ once single given answer told, first.Alike once →
        handle event ⟨.cluster once, given⟩ = .ok answer ⟨.cluster single, told⟩ →
          List.Forall₂ Node.Alike single.nodes after.nodes := by
  obtain ⟨produced, repaired⟩ := retried.finish mapped alike success
  constructor
  · have choose : ∀ node result, (∃ outage, ({ node with outage } : Node).Accepts commands) ∧
          (node.applyAll commands).Alike result →
        ∃ ready, Node.Alike node ready ∧ ready.Accepts commands := by
      intro node result ⟨⟨outage, accepts⟩, _⟩
      exact ⟨{ node with outage }, ⟨rfl, rfl, rfl⟩, accepts⟩
    obtain ⟨nodes, same, accepts⟩ := exists_of_forall₂ choose repaired
    obtain ⟨told, ended⟩ := handle_eq mapped { first with nodes } notices
    have batches : (Sink.cluster { first with nodes }).batches = (Sink.cluster first).batches :=
      batches_eq rfl
    rw [batches, ← produced, Cluster.broadcastAll_eq_of_accepts accepts] at ended
    exact ⟨{ first with nodes }, _, told, ⟨rfl, same, rfl⟩, ended⟩
  · intro once single given answer told ready succeeded
    obtain ⟨answered, direct⟩ := Retried.start.finish mapped ready succeeded
    rw [answered, ← produced] at direct
    refine forall₂_trans ?_ (List.Forall₂.flip direct) repaired
    intro result node repaired ⟨_, once_equal⟩ ⟨_, equal⟩
    exact once_equal.symm.trans equal

/-- Of two nodes the second cannot be reached when an entity is first removed, so only the first one
drops what is below it. Once both are within reach, the next attempt repairs that. -/
theorem handle_repairs_missed_node :
    let event : Notification :=
      { topic := .treeChanged .content
        kind := .tree .content
        payload := .trees [⟨⟨2⟩, .remove⟩, ⟨⟨3⟩, .refreshBranch⟩]
        admitted := fun _ pinned => Option.some.inj pinned }
    let first : Cluster := ⟨.bool true, [Node.circle, .new "far" (some [.remove])], .empty none⟩
    ∃ last resumed after commands later,
      (∃ told, handle event ⟨.cluster first, []⟩ =
        .error (.unreachable "far") ⟨.cluster last, told⟩) ∧
      last.Alike resumed ∧
      handle event ⟨.cluster resumed, []⟩ = .ok commands ⟨.cluster after, later⟩ ∧
      ∀ once single given answer told, first.Alike once →
        handle event ⟨.cluster once, given⟩ = .ok answer ⟨.cluster single, told⟩ →
          List.Forall₂ Node.Alike single.nodes after.nodes := by
  intro event first
  have mapped : event.route? = some ⟨.content, .refresh, .tree⟩ := rfl
  let removal : Command := ⟨.content, .remove, [2]⟩
  let last : Cluster :=
    ⟨.bool true, [Node.circle.apply removal, .new "far" (some [.remove])],
      first.journal.record removal⟩
  let resumed : Cluster :=
    ⟨.bool true, [Node.circle.apply removal, .new "far" none], first.journal.record removal⟩
  have alike : last.Alike resumed :=
    ⟨rfl, .cons (.refl _) (.cons ⟨rfl, rfl, rfl⟩ .nil), rfl⟩
  have accepts : ∀ node ∈ resumed.nodes,
      node.Accepts [removal, ⟨.content, .refreshBranch, [3]⟩] := by
    intro node member
    rcases List.mem_pair.1 member with rfl | rfl
    · exact (Node.circle_sound.apply removal).accepts _
    · exact (Node.Sound.new "far").accepts _
  obtain ⟨told, ended⟩ := handle_eq mapped first []
  have failed : handle event ⟨.cluster first, []⟩ =
      .error (.unreachable "far") ⟨.cluster last, told⟩ := ended
  obtain ⟨later, resumed_ended⟩ := handle_eq mapped resumed []
  have success := resumed_ended.trans
    (congrArg (outcome _ later) (Cluster.broadcastAll_eq_of_accepts accepts))
  have retried : Retried event first last := .failed .start (.refl first) failed
  exact ⟨last, resumed, _, _, later, ⟨told, failed⟩, alike, success,
    (handle_repairs_failed_attempts mapped retried alike success).2⟩

end Outlet

end Invalidation
