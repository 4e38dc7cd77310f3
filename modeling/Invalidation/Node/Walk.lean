import Invalidation.Key

/-!
# Walking a subtree

Links lead from a child to its parent. A pass visits all links in their order and reaches a
child as soon as its parent is reached, so one pass may follow several links at once. A walk
makes passes until one of them reaches nothing new. Every pass but the last reaches a child
that was not reached before (`unreached_pass_lt`), so a walk ends also where links run in a
circle.

Source: `LocalCacheNode._descendants`.
-/

set_option autoImplicit false

namespace Invalidation.Walk

/-- A child and its parent. -/
abbrev Link := Key × Key

/-- Reaches the child of a link whose parent is reached. -/
def visit (reached : List Key) (link : Link) : List Key :=
  if reached.contains link.2 && !reached.contains link.1 then reached ++ [link.1] else reached

def pass (links : List Link) (reached : List Key) : List Key := links.foldl visit reached

def unreached (links : List Link) (reached : List Key) : List Link :=
  links.filter fun link => !reached.contains link.1

theorem visit_eq_append (reached : List Key) (link : Link) :
    ∃ more, visit reached link = reached ++ more ∧
      ∀ key ∈ more, key = link.1 ∧ link.2 ∈ reached ∧ key ∉ reached := by
  unfold visit
  split
  · next h => exact ⟨[link.1], rfl, by simp_all⟩
  · exact ⟨[], by simp⟩

/-- A pass keeps what is reached and adds, behind it, children that were not. -/
theorem pass_eq_append (links : List Link) (reached : List Key) :
    ∃ more, pass links reached = reached ++ more ∧
      ∀ key ∈ more, key ∉ reached ∧ ∃ link ∈ links, link.1 = key := by
  induction links generalizing reached with
  | nil => exact ⟨[], by simp [pass]⟩
  | cons link rest ih =>
    obtain ⟨first, hfirst, hnew⟩ := visit_eq_append reached link
    obtain ⟨more, hmore, hrest⟩ := ih (visit reached link)
    refine ⟨first ++ more, ?_, ?_⟩
    · rw [pass, List.foldl_cons, ← pass, hmore, hfirst, List.append_assoc]
    · intro key hkey
      rcases List.mem_append.1 hkey with hkey | hkey
      · exact ⟨(hnew key hkey).2.2, link, List.mem_cons_self, (hnew key hkey).1.symm⟩
      · obtain ⟨hout, other, hmem, heq⟩ := hrest key hkey
        refine ⟨fun hin => hout ?_, other, List.mem_cons_of_mem _ hmem, heq⟩
        rw [hfirst]
        exact List.mem_append_left _ hin

/-- A pass that reaches something leaves fewer links unreached. -/
theorem unreached_pass_lt {links : List Link} {reached : List Key}
    (h : (pass links reached).length ≠ reached.length) :
    (unreached links (pass links reached)).length < (unreached links reached).length := by
  obtain ⟨more, hpass, hmore⟩ := pass_eq_append links reached
  have hfilter : unreached links (pass links reached) =
      (unreached links reached).filter fun link => !more.contains link.1 := by
    rw [unreached, unreached, List.filter_filter, hpass]
    refine List.filter_congr fun link _ => ?_
    by_cases h₁ : link.1 ∈ reached <;> by_cases h₂ : link.1 ∈ more <;> simp [h₁, h₂]
  rw [hfilter]
  cases more with
  | nil => simp [hpass] at h
  | cons key rest =>
    obtain ⟨hout, link, hmem, heq⟩ := hmore key List.mem_cons_self
    refine List.length_filter_lt_length_iff_exists.2 ⟨link, ?_, by simp [heq]⟩
    simp [unreached, hmem, heq, hout]

/-- What a walk has reached, and the passes it took. -/
structure Trail where
  reached : List Key
  passes : Nat
  deriving DecidableEq, Repr

/-- Makes passes until nothing new is reached. -/
def run (links : List Link) (reached : List Key) : Trail :=
  if (pass links reached).length = reached.length then ⟨reached, 1⟩
  else
    let trail := run links (pass links reached)
    { trail with passes := trail.passes + 1 }
termination_by (unreached links reached).length
decreasing_by exact unreached_pass_lt ‹_›

end Invalidation.Walk
