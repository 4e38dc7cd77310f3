import Invalidation.Node.Walk
import Mathlib.Logic.Relation

/-!
# What a walk reaches

A walk reaches exactly the keys from which links lead to a key that it starts with
(`mem_reached_run_iff`). Nothing more, because a visit only follows a link whose parent is
reached (`leads_of_mem_pass`); and nothing less, because the walk ends with a pass that reaches
nothing new, after which no link is left to follow (`closed_of_pass`). Links may run in circles
and stand in any order.
-/

set_option autoImplicit false

namespace Invalidation.Walk

/-- Following links from a key, in any number of steps, comes to the root. -/
def Leads (links : List Link) (key root : Key) : Prop :=
  Relation.ReflTransGen (fun child parent => (child, parent) ∈ links) key root

theorem mem_visit_of_mem {reached : List Key} {key : Key} (link : Link) (present : key ∈ reached) :
    key ∈ visit reached link := by
  obtain ⟨more, grown, _⟩ := visit_eq_append reached link
  rw [grown]
  exact List.mem_append_left more present

theorem mem_pass_of_mem {reached : List Key} {key : Key} (links : List Link)
    (present : key ∈ reached) : key ∈ pass links reached := by
  obtain ⟨more, grown, _⟩ := pass_eq_append links reached
  rw [grown]
  exact List.mem_append_left more present

theorem mem_visit_of_parent {reached : List Key} {link : Link} (parent : link.2 ∈ reached) :
    link.1 ∈ visit reached link := by
  unfold visit
  by_cases present : link.1 ∈ reached
  · simp [present]
  · simp [parent, present]

/-- A pass reaches the child of every link whose parent was reached before it. -/
theorem mem_pass_of_parent {links : List Link} {reached : List Key} {link : Link}
    (member : link ∈ links) (parent : link.2 ∈ reached) : link.1 ∈ pass links reached := by
  induction links generalizing reached with
  | nil => cases member
  | cons first rest ih =>
    rw [pass, List.foldl_cons, ← pass]
    rcases List.mem_cons.1 member with rfl | later
    · exact mem_pass_of_mem rest (mem_visit_of_parent parent)
    · exact ih later (mem_visit_of_mem first parent)

theorem pass_eq_self {links : List Link} {reached : List Key}
    (settled : (pass links reached).length = reached.length) : pass links reached = reached := by
  obtain ⟨more, grown, _⟩ := pass_eq_append links reached
  have nothing : more = [] := by
    rw [grown, List.length_append] at settled
    exact List.eq_nil_of_length_eq_zero (by omega)
  rw [grown, nothing, List.append_nil]

/-- What is left by a pass that reaches nothing new is closed under every link. -/
theorem closed_of_pass {links : List Link} {reached : List Key}
    (settled : (pass links reached).length = reached.length) {link : Link}
    (member : link ∈ links) (parent : link.2 ∈ reached) : link.1 ∈ reached := by
  have found := mem_pass_of_parent member parent
  rwa [pass_eq_self settled] at found

/-- From whatever a pass over some of the links reaches, links lead to what was reached before. -/
theorem leads_of_mem_pass {links visited : List Link} {reached : List Key} {key : Key}
    (within : ∀ link ∈ visited, link ∈ links) (found : key ∈ pass visited reached) :
    ∃ root ∈ reached, Leads links key root := by
  induction visited generalizing reached with
  | nil => exact ⟨key, found, .refl⟩
  | cons link rest ih =>
    rw [pass, List.foldl_cons, ← pass] at found
    have rest_within : ∀ other ∈ rest, other ∈ links :=
      fun other member => within other (List.mem_cons_of_mem link member)
    obtain ⟨root, present, path⟩ := ih rest_within found
    obtain ⟨more, grown, origin⟩ := visit_eq_append reached link
    rw [grown] at present
    rcases List.mem_append.1 present with old | fresh
    · exact ⟨root, old, path⟩
    · obtain ⟨rfl, parent, _⟩ := origin root fresh
      exact ⟨link.2, parent, path.tail (within link List.mem_cons_self)⟩

/-- A set that is closed under the links holds every key from which they lead into it. -/
theorem mem_of_leads {links : List Link} {reached : List Key} {key root : Key}
    (closed : ∀ link ∈ links, link.2 ∈ reached → link.1 ∈ reached)
    (path : Leads links key root) (present : root ∈ reached) : key ∈ reached := by
  induction path using Relation.ReflTransGen.head_induction_on with
  | refl => exact present
  | head link _ ih => exact closed _ link ih

theorem mem_reached_run (links : List Link) (start : List Key) (key : Key) :
    key ∈ (run links start).reached ↔ ∃ root ∈ start, Leads links key root := by
  induction start using run.induct links with
  | case1 start settled =>
    rw [run, if_pos settled]
    constructor
    · intro present
      exact ⟨key, present, .refl⟩
    · intro ⟨root, present, path⟩
      exact mem_of_leads (fun _ => closed_of_pass settled) path present
  | case2 start growing ih =>
    rw [run, if_neg growing]
    refine ih.trans ⟨?_, ?_⟩
    · intro ⟨between, found, path⟩
      obtain ⟨root, present, onward⟩ := leads_of_mem_pass (fun _ member => member) found
      exact ⟨root, present, path.trans onward⟩
    · intro ⟨root, present, path⟩
      exact ⟨root, mem_pass_of_mem links present, path⟩

/-- A walk from a root reaches the root and the keys below it, and nothing else. -/
theorem mem_reached_run_iff (links : List Link) (root key : Key) :
    key ∈ (run links [root]).reached ↔ Leads links key root := by
  simp [mem_reached_run]

end Invalidation.Walk
