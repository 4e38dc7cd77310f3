import Mathlib.Data.List.Induction
import Invalidation.Node.Shown
import Invalidation.Proofs.Node.Sequence

/-!
# What a node holds, told from its history

A history is the row of calls that a fresh node was given. What the node holds at the end is told
here from the history alone, without looking at tables: a key is cached exactly if no call behind
its latest put covers it (`Cached`), and a parent is recorded exactly if no later put gave another
one and no call that drops links covers the key behind it (`Linked`). Which places a command covers
hangs on the parents that were recorded when it came, so `recorded` follows them through the
history.

The induction is over the history from its end. `stands_append` says for a fact of either kind what
one more call does to it, and the node's tables are shown to change in the same way.
-/

set_option autoImplicit false

namespace Invalidation.Node

/-- A call that changes a node. -/
inductive Event where
  | put (region : Region) (key : Int) (value : Raw) (parent : Option Int)
  | apply (command : Command)

def run : Event → Node → Node
  | .put region key value parent =>
    put region (.ofInt key) (.int key) value ((parent.map Key.ofInt).map .key)
  | .apply command => apply command

def replay (name : String) (history : List Event) : Node :=
  history.foldl (fun node event => node.run event) (Node.new name none)

open Classical in
/-- What is recorded of parents after one more call. -/
noncomputable def Event.record (parents : Place → Option Key) : Event → Place → Option Key
  | .put region key _ (some parent), place =>
    if place = (region, .ofInt key) then some (.ofInt parent) else parents place
  | .put _ _ _ none, place => parents place
  | .apply command, place =>
    if (command.operation = .remove ∨ command.operation = .refreshAll) ∧
      command.Covers parents place then none else parents place

/-- The parents that are recorded after a history. -/
noncomputable def recorded (history : List Event) : Place → Option Key :=
  history.foldl Event.record fun _ => none

/-- Some call of the history makes it so, and no later call, coming after what was before it, undoes
it. -/
def Stands (makes : Event → Prop) (undoes : List Event → Event → Prop) (history : List Event) :
    Prop :=
  ∃ before event after, history = before ++ event :: after ∧ makes event ∧
    ∀ since next later, after = since ++ next :: later → ¬undoes (before ++ event :: since) next

/-- The latest put of the key gave it the value, and no command since then covers it. -/
def Cached (history : List Event) (region : Region) (key : Int) (value : Raw) : Prop :=
  Stands (fun event => ∃ parent, event = .put region key value parent)
    (fun past next =>
      (∃ value parent, next = .put region key value parent) ∨
        ∃ command, next = .apply command ∧
          command.Covers (recorded past) (region, .ofInt key))
    history

/-- The latest put of the key that gave a parent gave this one, and since then neither was the
region refreshed nor the key covered by a removal. -/
def Linked (history : List Event) (region : Region) (key parent : Int) : Prop :=
  Stands (fun event => ∃ value, event = .put region key value (some parent))
    (fun past next =>
      (∃ value parent, next = .put region key value (some parent)) ∨
        ∃ command, next = .apply command ∧
          (command.operation = .remove ∨ command.operation = .refreshAll) ∧
          command.Covers (recorded past) (region, .ofInt key))
    history

theorem not_stands_nil (makes : Event → Prop) (undoes : List Event → Event → Prop) :
    ¬Stands makes undoes [] := by
  intro ⟨before, event, after, split, _⟩
  simp at split

/-- One more call makes it so, or leaves it so unless it undoes it. -/
theorem stands_append (makes : Event → Prop) (undoes : List Event → Event → Prop)
    (history : List Event) (last : Event) :
    Stands makes undoes (history ++ [last]) ↔
      makes last ∨ Stands makes undoes history ∧ ¬undoes history last := by
  constructor
  · intro ⟨before, event, after, split, made, kept⟩
    rcases List.eq_nil_or_concat after with rfl | ⟨rest, final, rfl⟩
    · obtain ⟨-, same⟩ := List.append_inj' split rfl
      exact .inl (List.head_eq_of_cons_eq same ▸ made)
    · rw [List.concat_eq_append] at split kept
      rw [← List.cons_append, ← List.append_assoc] at split
      obtain ⟨earlier, same⟩ := List.append_inj' split rfl
      obtain rfl := List.head_eq_of_cons_eq same
      refine .inr ⟨⟨before, event, rest, earlier, made, ?_⟩, ?_⟩
      · rintro since next later rfl
        exact kept since next (later ++ [last]) (by simp)
      · rw [earlier]
        exact kept rest last [] rfl
  · rintro (made | ⟨⟨before, event, after, rfl, made, kept⟩, keeps⟩)
    · exact ⟨history, last, [], rfl, made, by simp⟩
    · refine ⟨before, event, after ++ [last], by simp, made, fun since next later split => ?_⟩
      rcases List.eq_nil_or_concat later with rfl | ⟨rest, final, rfl⟩
      · obtain ⟨rfl, same⟩ := List.append_inj' split rfl
        exact List.head_eq_of_cons_eq same ▸ keeps
      · rw [List.concat_eq_append, ← List.cons_append, ← List.append_assoc] at split
        obtain ⟨earlier, -⟩ := List.append_inj' split rfl
        exact kept since next rest earlier

/-- A put of the key itself decides its value, and any other put leaves it as it is. -/
theorem cached_append_put (history : List Event) (region other : Region) (key seen : Int)
    (value given : Raw) (parent : Option Int) :
    Cached (history ++ [.put other seen given parent]) region key value ↔
      if region = other ∧ key = seen then given = value else Cached history region key value := by
  rw [Cached, stands_append, ← Cached]
  by_cases here : region = other ∧ key = seen
  · obtain ⟨rfl, rfl⟩ := here
    simp
  · have apart : ¬(other = region ∧ seen = key) := fun same => here ⟨same.1.symm, same.2.symm⟩
    have elsewhere : ∀ value' parent', Event.put other seen given parent ≠
        .put region key value' parent' := by
      intro value' parent' same
      injection same with regions keys
      exact apart ⟨regions, keys⟩
    simp [here, elsewhere]

theorem cached_append_apply (history : List Event) (command : Command) (region : Region) (key : Int)
    (value : Raw) :
    Cached (history ++ [.apply command]) region key value ↔
      Cached history region key value ∧
        ¬command.Covers (recorded history) (region, .ofInt key) := by
  rw [Cached, stands_append, ← Cached]
  simp

/-- A put of the key itself that gives a parent decides it, and any other put leaves it as it is. -/
theorem linked_append_put (history : List Event) (region other : Region) (key seen parent : Int)
    (value : Raw) (given : Option Int) :
    Linked (history ++ [.put other seen value given]) region key parent ↔
      if region = other ∧ key = seen ∧ given.isSome then given = some parent
      else Linked history region key parent := by
  rw [Linked, stands_append, ← Linked]
  cases given with
  | none => simp
  | some above =>
    by_cases here : region = other ∧ key = seen
    · obtain ⟨rfl, rfl⟩ := here
      simp
    · have elsewhere : ∀ value' parent', Event.put other seen value (some above) ≠
          .put region key value' (some parent') := by
        intro value' parent' same
        injection same with regions keys
        exact here ⟨regions.symm, keys.symm⟩
      simp only [← and_assoc, here, elsewhere]
      simp

theorem linked_append_apply (history : List Event) (command : Command) (region : Region)
    (key parent : Int) :
    Linked (history ++ [.apply command]) region key parent ↔
      Linked history region key parent ∧
        ¬((command.operation = .remove ∨ command.operation = .refreshAll) ∧
          command.Covers (recorded history) (region, .ofInt key)) := by
  rw [Linked, stands_append, ← Linked]
  simp

theorem replay_append (name : String) (history : List Event) (last : Event) :
    replay name (history ++ [last]) = (replay name history).run last := by
  simp [replay]

theorem recorded_append (history : List Event) (last : Event) :
    recorded (history ++ [last]) = last.record (recorded history) := by
  simp [recorded]

theorem replay_sound (name : String) (history : List Event) : (replay name history).Sound := by
  induction history using List.reverseRecOn with
  | nil => exact Sound.new name
  | append_singleton history last ih =>
    rw [replay_append]
    cases last with
    | put region key value parent => exact ih.put region _ _ _ _
    | apply command => exact ih.apply command

theorem parents_replay (name : String) (history : List Event) :
    (replay name history).parents = recorded history := by
  induction history using List.reverseRecOn with
  | nil => funext place; simp [replay, recorded, parents, new, Table.empty, Table.get?]
  | append_singleton history last ih =>
    rw [replay_append, recorded_append, ← ih]
    funext place
    cases last with
    | put region key value parent =>
      cases parent with
      | none => rfl
      | some parent =>
        by_cases here : place = (region, .ofInt key) <;>
          simp [run, put, parents, Event.record, Table.get?_insert, here]
    | apply command =>
      have covered :
          (command.operation.unlinks && (replay name history).evicts command place) = true ↔
            (command.operation = .remove ∨ command.operation = .refreshAll) ∧
              command.Covers (replay name history).parents place := by
        rw [Bool.and_eq_true, Operation.unlinks_iff, evicts_iff]
      rw [run, Event.record, parents_apply]
      by_cases gone :
          (command.operation.unlinks && (replay name history).evicts command place) = true
      · rw [if_pos gone, if_pos (covered.1 gone)]
      · rw [if_neg gone, if_neg (mt covered.2 gone)]

theorem get?_run_put (region other : Region) (key seen : Int) (value : Raw) (parent : Option Int)
    (node : Node) :
    (node.run (.put other seen value parent)).get? region (.ofInt key) =
      if region = other ∧ key = seen then some value else node.get? region (.ofInt key) := by
  simp only [run, put, get?, Table.get?_insert, Prod.mk.injEq, Key.ofInt_inj]
  split
  · rfl
  · rfl

theorem get?_apply (command : Command) (node : Node) (region : Region) (key : Key) :
    (node.apply command).get? region key =
      if node.evicts command (region, key) then none else node.get? region key := by
  rw [get?, apply_eq, Table.get?_drop]
  split
  · rfl
  · rfl

theorem get?_replay_iff (name : String) (history : List Event) (region : Region) (key : Int)
    (value : Raw) :
    (replay name history).get? region (.ofInt key) = some value ↔
      Cached history region key value := by
  induction history using List.reverseRecOn with
  | nil =>
    have nothing : (replay name []).get? region (.ofInt key) = none := rfl
    simp [nothing, Cached, not_stands_nil]
  | append_singleton history last ih =>
    rw [replay_append]
    cases last with
    | put other seen given parent =>
      rw [cached_append_put, get?_run_put]
      split
      · exact Option.some_inj
      · exact ih
    | apply command =>
      rw [cached_append_apply, run, get?_apply, ← ih, ← parents_replay name, ← evicts_iff]
      split
      next gone => simp [gone]
      next kept => simp [kept]

/-- The parent that is recorded for a key is the one that the history says. -/
theorem recorded_iff (history : List Event) (region : Region) (key : Int) (parent : Key) :
    recorded history (region, .ofInt key) = some parent ↔
      ∃ id, parent = .ofInt id ∧ Linked history region key id := by
  induction history using List.reverseRecOn with
  | nil => simp [recorded, Linked, not_stands_nil]
  | append_singleton history last ih =>
    rw [recorded_append]
    cases last with
    | put other seen value given =>
      simp only [linked_append_put]
      cases given with
      | none => simpa [Event.record] using ih
      | some above =>
        simp only [Event.record, Prod.mk.injEq, Key.ofInt_inj, Option.isSome_some, and_true]
        split
        · simp [eq_comm]
        · exact ih
    | apply command =>
      simp only [linked_append_apply, Event.record]
      split
      next gone => simp [gone]
      next kept => simpa [kept] using ih

theorem mem_spellings_iff (node : Node) (region : Region) (key : Key) (spelling : Raw) :
    (key, spelling) ∈ node.spellings region ↔
      ∃ value, node.entries.get? (region, key) = some ⟨spelling, value⟩ := by
  simp only [spellings, List.mem_filterMap, Option.ite_none_right_eq_some, Option.some.injEq,
    Prod.mk.injEq, Table.get?_eq_some_iff]
  constructor
  · rintro ⟨⟨place, entry⟩, member, rfl, rfl, rfl⟩
    exact ⟨entry.value, member⟩
  · rintro ⟨value, member⟩
    exact ⟨_, member, rfl, rfl, rfl⟩

theorem clash?_eq_none {shown : List (Key × Raw)} (sort : Nat)
    (alike : ∀ row ∈ shown, row.1.sort = sort) : clash? shown = none := by
  fun_induction clash? shown with
  | case1 a b rest same ih => exact ih fun row member => alike row (List.mem_cons_of_mem a member)
  | case2 a b rest differ =>
    exact absurd ((alike a (by simp)).trans (alike b (by simp)).symm) differ
  | case3 => rfl

/-- All keys in a history are integers and are spelled as such. -/
theorem spelled_replay (name : String) (history : List Event) {place : Place} {entry : Entry}
    (cached : (replay name history).entries.get? place = some entry) :
    ∃ key, place.2 = .ofInt key ∧ entry.spelling = .int key := by
  induction history using List.reverseRecOn generalizing entry with
  | nil => cases cached
  | append_singleton history last ih =>
    rw [replay_append] at cached
    cases last with
    | put region key value parent =>
      simp only [run, put, Table.get?_insert] at cached
      split at cached
      next here =>
        subst here
        refine ⟨key, rfl, ?_⟩
        obtain rfl := Option.some_inj.1 cached
        cases known : (replay name history).entries.get? (region, .ofInt key) with
        | none => rfl
        | some before =>
          obtain ⟨spelled, same, spelling⟩ := ih known
          rw [Key.ofInt_inj] at same
          simpa [same] using spelling
      · exact ih cached
    | apply command =>
      rw [run, apply_eq, Table.get?_drop] at cached
      split at cached
      · cases cached
      · exact ih cached

theorem spelled_of_mem_spellings (name : String) (history : List Event) (region : Region)
    {row : Key × Raw} (member : row ∈ (replay name history).spellings region) :
    ∃ key, row = (.ofInt key, .int key) := by
  obtain ⟨value, cached⟩ := (mem_spellings_iff _ _ _ _).1 member
  obtain ⟨key, same, spelling⟩ := spelled_replay name history cached
  exact ⟨key, Prod.ext same spelling⟩

/-- The keys of a node with a history are those that the history leaves cached. -/
theorem mem_keys_replay_iff (name : String) (history : List Event) (region : Region) (key : Int) :
    Raw.int key ∈ (replay name history).keys region ↔
      ∃ value, Cached history region key value := by
  simp only [← get?_replay_iff name, get?, Option.map_eq_some_iff, keys, List.mem_map]
  constructor
  · rintro ⟨row, member, shown⟩
    obtain ⟨seen, rfl⟩ := spelled_of_mem_spellings name history region member
    obtain rfl := Raw.int.inj shown
    obtain ⟨value, cached⟩ := (mem_spellings_iff _ _ _ _).1 member
    exact ⟨value, _, cached, rfl⟩
  · rintro ⟨_, entry, cached, rfl⟩
    obtain ⟨seen, same, spelling⟩ := spelled_replay name history cached
    obtain rfl := Key.ofInt_inj.1 same
    exact ⟨(.ofInt key, entry.spelling), (mem_spellings_iff _ _ _ _).2 ⟨entry.value, cached⟩,
      spelling⟩

/-- The keys of a node with a history always have an order in which they can be shown. -/
theorem shownKeys_replay (name : String) (history : List Event) (region : Region) :
    ∃ shown, (replay name history).shownKeys region = .ok shown ∧
      shown.Perm ((replay name history).keys region) := by
  have sorted := List.mergeSort_perm ((replay name history).spellings region)
    fun a b => a.1.upTo b.1
  have ordered : clash? (((replay name history).spellings region).mergeSort
      fun a b => a.1.upTo b.1) = none := by
    refine clash?_eq_none 0 fun row member => ?_
    obtain ⟨key, rfl⟩ := spelled_of_mem_spellings name history region (sorted.mem_iff.1 member)
    rfl
  exact ⟨_, by rw [shownKeys, ordered], sorted.map Prod.snd⟩

/-- A node that was fresh holds what its history says. It has a key exactly if the key is cached
and then gives the value of its latest put, and otherwise none. It knows exactly the parents that
are recorded, which are those that the latest put of their key to give one gave, unless they went
with their region or with a removal. No call can fail on it, and its keys can be shown in order. -/
theorem replay_holds_history (name : String) (history : List Event) (region : Region) (key : Int) :
    (Raw.int key ∈ (replay name history).keys region ↔
        ∃ value, Cached history region key value) ∧
      (∀ value, (replay name history).get? region (.ofInt key) = some value ↔
        Cached history region key value) ∧
      (replay name history).parents = recorded history ∧
      (∀ parent, recorded history (region, .ofInt key) = some parent ↔
        ∃ id, parent = .ofInt id ∧ Linked history region key id) ∧
      (∀ command, (replay name history).failure? command = none) ∧
      ∃ shown, (replay name history).shownKeys region = .ok shown ∧
        shown.Perm ((replay name history).keys region) :=
  ⟨mem_keys_replay_iff name history region key, get?_replay_iff name history region key,
    parents_replay name history, recorded_iff history region key,
    (replay_sound name history).failure?_eq_none, shownKeys_replay name history region⟩

end Invalidation.Node
