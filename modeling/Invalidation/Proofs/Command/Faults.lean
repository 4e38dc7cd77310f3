import Invalidation.Proofs.Command.Sending
import Invalidation.Proofs.Reading.Faults

/-!
# What is wrong with a call

A call has a fault for its region if that is none, and one for each of its keys that is no integer,
in the order of the keys (`Call.faults`). Reading the call finds exactly these (`Call.faults_read`),
so a call without faults stands for the one command that its region, its method and its keys make
(`Call.exists_stands_of_faults_eq_nil`), and any other call for none.
-/

set_option autoImplicit false

namespace Invalidation

open Reading

namespace Call

def regionFault? (call : Call) : Option Fault :=
  match (word call.region : Checked Region) with
  | .valid _ => none
  | .faulty _ _ => some ⟨[.field "region"], .unknownWord⟩

/-- The faults of the keys that are no integers, each with its place, in order. -/
def keyFaults (call : Call) : List Fault :=
  call.keys.zipIdx.filterMap fun (key, place) =>
    (integer key).defect?.map (Fault.mk [.field "keys", .item place])

def faults (call : Call) : List Fault := call.regionFault?.toList ++ call.keyFaults

/-- The call stands for the command that its region, its method and its keys make. -/
structure Stands (call : Call) (command : Command) : Prop where
  region : call.region = .ofWord command.region
  operation : call.method.operation = command.operation
  keys : List.Forall₂ (fun raw key => integer raw = .valid key) call.keys command.keys

theorem read_eq_valid_iff_stands {call : Call} {command : Command} :
    call.read = .valid command ↔ call.Stands command := by
  rw [read_eq_valid_iff, word_eq_valid_iff]
  constructor
  · rintro ⟨region, operation, keys⟩
    exact ⟨region, operation, keys⟩
  · rintro ⟨region, operation, keys⟩
    exact ⟨region, operation, keys⟩

theorem faults_region (call : Call) :
    (Checked.below (.field "region") (word call.region : Checked Region)).faults =
      call.regionFault?.toList := by
  unfold regionFault?
  cases call.region with
  | text s =>
    simp only [word, Checked.orFlaw]
    cases (Coded.ofCode? s : Option Region) <;> rfl
  | _ => rfl

theorem faults_keys (call : Call) :
    (Checked.below (.field "keys") (items integer 0 call.keys)).faults = call.keyFaults := by
  rw [Checked.faults_below, faults_items plain_integer, List.map_filterMap]
  unfold keyFaults
  refine congrArg (fun find => call.keys.zipIdx.filterMap find) (funext fun listed => ?_)
  rw [Option.map_map]
  rfl

/-- What is found when a call is read is what is wrong with it. -/
theorem faults_read (call : Call) : call.read.faults = call.faults := by
  have fields : call.read =
      ((Checked.below (.field "region") (word call.region)).both
        ((Checked.below (.field "operation") (word (.ofWord call.method.operation))).both
          (Checked.below (.field "keys") (items integer 0 call.keys)))).map
        fun p => ⟨p.1, p.2.1, p.2.2⟩ := rfl
  have named : (Checked.below (.field "operation")
      (word (.ofWord call.method.operation) : Checked Operation)).faults = [] := by
    rw [word_ofWord]
    rfl
  rw [fields, Checked.faults_map, Checked.faults_both, Checked.faults_both, faults_region, named,
    faults_keys, List.nil_append, faults]

theorem read_eq_faulty_iff {call : Call} {first : Fault} {more : List Fault} :
    call.read = .faulty first more ↔ call.faults = first :: more := by
  rw [← faults_read]
  cases call.read <;> simp [Checked.faults]

theorem exists_stands_of_faults_eq_nil {call : Call} (sound : call.faults = []) :
    ∃ command, call.Stands command := by
  rw [← faults_read] at sound
  obtain ⟨command, reads⟩ := Checked.faults_eq_nil_iff.1 sound
  exact ⟨command, read_eq_valid_iff_stands.1 reads⟩

theorem regionFault?_eq_none_iff {call : Call} :
    call.regionFault? = none ↔ ∃ region : Region, call.region = .ofWord region := by
  unfold regionFault?
  constructor
  · intro sound
    split at sound
    next region reads => exact ⟨region, word_eq_valid_iff.1 reads⟩
    next => cases sound
  · rintro ⟨region, named⟩
    rw [named, word_ofWord]

theorem keyFaults_eq_nil_iff {call : Call} :
    call.keyFaults = [] ↔ ∀ key ∈ call.keys, ∃ n, integer key = .valid n := by
  simp only [keyFaults, List.filterMap_eq_nil_iff, Option.map_eq_none_iff,
    Checked.defect?_eq_none_iff]
  constructor
  · intro sound key member
    obtain ⟨place, inside, rfl⟩ := List.getElem_of_mem member
    have listed : (call.keys[place], place) ∈ call.keys.zipIdx := by
      rw [List.mk_mem_zipIdx_iff_getElem?]
      exact List.getElem?_eq_getElem inside
    exact sound _ listed
  · intro integers listed member
    exact integers listed.1 (List.fst_mem_of_mem_zipIdx member)

/-- Nothing is wrong with a call exactly if it names a region and all of its keys are integers. -/
theorem faults_eq_nil_iff {call : Call} :
    call.faults = [] ↔ (∃ region : Region, call.region = .ofWord region) ∧
      ∀ key ∈ call.keys, ∃ n, integer key = .valid n := by
  rw [faults, List.append_eq_nil_iff, keyFaults_eq_nil_iff, ← regionFault?_eq_none_iff]
  cases call.regionFault? <;> simp

end Call

end Invalidation
