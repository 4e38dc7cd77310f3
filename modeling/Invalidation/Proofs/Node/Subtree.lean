import Mathlib.Data.List.Nodup
import Mathlib.Logic.Function.Iterate
import Invalidation.Proofs.Node.Sequence

/-!
# How a subtree is walked

A walk is a loop of passes, and it ends with the first pass that reaches nothing new
(`steps_run`). Every pass before that reaches a child for the first time, so there is at most one
pass more than there are links (`passes_run_le`), also where links run in circles. What a walk
reaches of a region hangs on the parents of its keys alone, in whatever order they were linked, and
the links stay as they are (`subtree_is_walked_exactly`).
-/

set_option autoImplicit false

namespace Invalidation

namespace Walk

/-- The trail of passes from the start, one after another: each but the last reaches something new,
and no pass behind the last one would. -/
structure Trail.Steps (links : List Link) (start : List Key) (trail : Trail) : Prop where
  reached_eq : (pass links)^[trail.passes] start = trail.reached
  grows : ∀ n, n + 1 < trail.passes →
    ((pass links)^[n] start).length < ((pass links)^[n + 1] start).length
  settles : ∀ n, trail.passes ≤ n + 1 → (pass links)^[n] start = trail.reached

theorem length_le_pass (links : List Link) (reached : List Key) :
    reached.length ≤ (pass links reached).length := by
  obtain ⟨more, grown, _⟩ := pass_eq_append links reached
  rw [grown, List.length_append]
  exact Nat.le_add_right _ _

theorem passes_run_pos (links : List Link) (start : List Key) : 0 < (run links start).passes := by
  rw [run]
  split
  · exact Nat.one_pos
  · exact Nat.succ_pos _

/-- A walk makes its passes one after another, up to the first that reaches nothing new. -/
theorem steps_run (links : List Link) (start : List Key) :
    (run links start).Steps links start := by
  induction start using run.induct links with
  | case1 start settled =>
    have still := pass_eq_self settled
    rw [run, if_pos settled]
    exact ⟨still, fun n early => absurd early (by simp), fun n _ => Function.iterate_fixed still n⟩
  | case2 start growing ih =>
    have positive := passes_run_pos links (pass links start)
    rw [run, if_neg growing]
    refine ⟨ih.reached_eq, fun n early => ?_, fun n late => ?_⟩
    · cases n with
      | zero => exact Nat.lt_of_le_of_ne (length_le_pass links start) (Ne.symm growing)
      | succ n => exact ih.grows n (Nat.lt_of_succ_lt_succ early)
    · cases n with
      | zero => exact absurd (Nat.le_of_succ_le_succ late) (by omega)
      | succ n => exact ih.settles n (Nat.le_of_succ_le_succ late)

/-- Each pass but the last leaves fewer links unreached. -/
theorem passes_run_le_unreached (links : List Link) (start : List Key) :
    (run links start).passes ≤ (unreached links start).length + 1 := by
  induction start using run.induct links with
  | case1 start settled =>
    rw [run, if_pos settled]
    exact Nat.succ_le_succ (Nat.zero_le _)
  | case2 start growing ih =>
    have fewer := unreached_pass_lt growing
    rw [run, if_neg growing]
    exact Nat.succ_le_succ (Nat.le_trans ih fewer)

/-- A walk makes at most one pass more than there are links. -/
theorem passes_run_le (links : List Link) (start : List Key) :
    (run links start).passes ≤ links.length + 1 :=
  Nat.le_trans (passes_run_le_unreached links start)
    (Nat.succ_le_succ (List.length_filter_le _ _))

theorem nodup_visit {reached : List Key} (distinct : reached.Nodup) (link : Link) :
    (visit reached link).Nodup := by
  unfold visit
  split
  next follows =>
    have fresh : link.1 ∉ reached := by simp_all
    exact distinct.append (List.nodup_singleton _) (by simpa using fresh)
  next => exact distinct

theorem nodup_pass (links : List Link) {reached : List Key} (distinct : reached.Nodup) :
    (pass links reached).Nodup := by
  induction links generalizing reached with
  | nil => exact distinct
  | cons link rest ih => exact ih (nodup_visit distinct link)

theorem nodup_reached_run (links : List Link) {start : List Key} (distinct : start.Nodup) :
    (run links start).reached.Nodup := by
  rw [← (steps_run links start).reached_eq]
  generalize (run links start).passes = passes
  induction passes with
  | zero => exact distinct
  | succ n ih =>
    rw [Function.iterate_succ_apply']
    exact nodup_pass links ih

end Walk

namespace Node

/-- A node with the same parents in a region has the same subtrees there. -/
theorem mem_subtree_congr {node other : Node} {region : Region}
    (same : ∀ key, other.parents (region, key) = node.parents (region, key)) (root key : Key) :
    key ∈ other.subtree region root ↔ key ∈ node.subtree region root := by
  simp only [mem_subtree_iff, Leads, same]

/-- From any root and whatever the links of a region are, a walk ends, after at most one pass more
than there are links, and has then reached exactly the keys from which the parents lead to the
root, each once. Another node with the same parents, linked in any order, has the same subtree. The
links stay as they are, so a walk after it finds the same, and it can always be made if the parents
in the region are keys. -/
theorem subtree_is_walked_exactly (node : Node) (region : Region) (root : Key) :
    (∃ trail : Walk.Trail, trail.Steps (node.linksOf region) [root] ∧
        trail.passes ≤ (node.linksOf region).length + 1 ∧
        node.subtree region root = trail.reached) ∧
      (∀ key, key ∈ node.subtree region root ↔ Leads node.parents region key root) ∧
      (node.subtree region root).Nodup ∧
      (∀ other : Node, (∀ key, other.parents (region, key) = node.parents (region, key)) →
        ∀ key, key ∈ other.subtree region root ↔ key ∈ node.subtree region root) ∧
      (∀ ids, (node.apply ⟨region, .refreshBranch, ids⟩).links = node.links ∧
        (node.apply ⟨region, .refreshBranch, ids⟩).subtree region root =
          node.subtree region root) ∧
      ((∀ key kind, node.links.get? (region, key) ≠ some (.unfit kind)) →
        ∀ operation ids, node.obstacle? ⟨region, operation, ids⟩ = none) := by
  refine ⟨⟨Walk.run (node.linksOf region) [root], Walk.steps_run _ _, Walk.passes_run_le _ _, rfl⟩,
    node.mem_subtree_iff region root, Walk.nodup_reached_run _ (List.nodup_singleton root),
    fun other same => mem_subtree_congr same root, fun ids => ⟨rfl, rfl⟩, ?_⟩
  exact fun keyed operation ids => obstacle?_of_keyed keyed

end Node

end Invalidation
