import Lightyear.Maps

/-!
The map between the entities of two worlds, `entity_map.rs`. An entity that the sender
has mapped already carries a mark, and then names a local entity.
-/
namespace Lightyear.EntityMap
open Maps

/-- `Entity::to_bits` -/
abbrev Entity := BitVec 64

def MARKED : Entity := 1#64 <<< 63

/-- `RemoteEntityMap`; `ReceiveEntityMap` and `SendEntityMap` wrap a hash map each. -/
structure RemoteEntityMap where
  remote_to_local : Map Entity Entity
  local_to_remote : Map Entity Entity

namespace RemoteEntityMap

def default : RemoteEntityMap := ⟨∅,∅⟩

def mark_mapped (entity : Entity) : Entity := entity ||| MARKED
def mark_unmapped (entity : Entity) : Entity := entity &&& ~~~MARKED
def is_mapped (entity : Entity) : Bool := entity &&& MARKED != 0

def insert (self : RemoteEntityMap) (remote_entity local_entity : Entity) : RemoteEntityMap :=
  ⟨self.remote_to_local.insert remote_entity local_entity,self.local_to_remote.insert local_entity remote_entity⟩

def get_local (self : RemoteEntityMap) (remote_entity : Entity) : Option Entity :=
  let unmapped := mark_unmapped remote_entity
  if is_mapped remote_entity then some unmapped else self.remote_to_local.lookup unmapped

def get_remote (self : RemoteEntityMap) (local_entity : Entity) : Option Entity :=
  self.local_to_remote.lookup local_entity

def to_remote (self : RemoteEntityMap) (local_entity : Entity) : Entity :=
  match self.local_to_remote.lookup local_entity with
  | some remote_entity => mark_mapped remote_entity
  | none => local_entity

/-- `remove_by_remote`, with the map after it. -/
def remove_by_remote (self : RemoteEntityMap) (remote_entity : Entity) : RemoteEntityMap × Option Entity :=
  if is_mapped remote_entity then
    let local_entity := mark_unmapped remote_entity
    let remote_to_local := match self.local_to_remote.lookup local_entity with
      | some remote => self.remote_to_local.erase remote
      | none => self.remote_to_local
    (⟨remote_to_local,self.local_to_remote.erase local_entity⟩,some local_entity)
  else match self.remote_to_local.lookup remote_entity with
    | some local_entity =>
      (⟨self.remote_to_local.erase remote_entity,self.local_to_remote.erase local_entity⟩,some local_entity)
    | none => (self,none)

def clear (_self : RemoteEntityMap) : RemoteEntityMap := default

inductive Operation where
  | insert (remote_entity local_entity : Entity)
  | remove_by_remote (remote_entity : Entity)
  | clear

def step (self : RemoteEntityMap) : Operation → RemoteEntityMap
  | .insert remote_entity local_entity => self.insert remote_entity local_entity
  | .remove_by_remote remote_entity => (self.remove_by_remote remote_entity).1
  | .clear => self.clear

def run (operations : List Operation) : RemoteEntityMap := operations.foldl step default

/-- The two directions are inverse partial functions. -/
def Inverse (self : RemoteEntityMap) : Prop := Mutual self.remote_to_local self.local_to_remote

/-- An insert finds neither of its entities mapped to another one. -/
def Free (self : RemoteEntityMap) : Operation → Prop
  | .insert remote_entity local_entity =>
    (∀ other, self.remote_to_local.lookup remote_entity = some other → other = local_entity) ∧
      ∀ other, self.local_to_remote.lookup local_entity = some other → other = remote_entity
  | _ => True

/-- A look-up that finds nothing leaves nothing to erase. -/
private theorem erase_absent {m : Map Entity Entity} {entity : Entity} (absent : m.lookup entity = none) :
    m.erase entity = m := by
  exact AList.ext (List.kerase_of_notMem_keys (AList.lookup_eq_none.mp absent))

private theorem Inverse.remove {self : RemoteEntityMap} (inverse : self.Inverse) (remote_entity : Entity) :
    (self.remove_by_remote remote_entity).1.Inverse := by
  unfold remove_by_remote
  split
  · cases found : self.local_to_remote.lookup (mark_unmapped remote_entity) with
    | none =>
      simp only [found,erase_absent found]
      exact inverse
    | some remote =>
      simp only [found]
      exact Mutual.erase inverse ((inverse remote _).mpr found)
  · cases found : self.remote_to_local.lookup remote_entity with
    | none => exact inverse
    | some local_entity => exact Mutual.erase inverse found

/-- One operation keeps the directions inverse exactly if it is free. -/
private theorem step_inverse_iff {self : RemoteEntityMap} (inverse : self.Inverse) (operation : Operation) :
    (self.step operation).Inverse ↔ self.Free operation := by
  cases operation with
  | insert remote_entity local_entity => exact Mutual.insert_iff inverse remote_entity local_entity
  | remove_by_remote remote_entity => exact iff_of_true (inverse.remove remote_entity) trivial
  | clear => exact iff_of_true mutual_empty trivial

private theorem run_snoc (operations : List Operation) (operation : Operation) :
    run (operations ++ [operation]) = (run operations).step operation := by
  simp [run]

/-- The directions are inverse after every operation of a run exactly if no insert of it meets an entity that is mapped
to another one. -/
theorem directions_inverse (operations : List Operation) :
    (∀ before after, operations = before ++ after → (run before).Inverse) ↔
      ∀ before operation after, operations = before ++ operation :: after → (run before).Free operation := by
  constructor
  · intro inverse before operation after isSplit
    have next := inverse (before ++ [operation]) after (by simpa using isSplit)
    rw [run_snoc] at next
    exact (step_inverse_iff (inverse before (operation :: after) isSplit) operation).mp next
  · intro free before
    induction before using List.reverseRecOn with
    | nil => exact fun _ _ => mutual_empty
    | append_singleton before operation ih =>
      intro after isSplit
      have isSplit' : operations = before ++ operation :: after := by simpa using isSplit
      rw [run_snoc]
      exact (step_inverse_iff (ih _ isSplit') operation).mpr (free before operation after isSplit')

/-- The server maps its entity 1 to the local entity 2, then to 3: the entity 2 still leads to it. -/
theorem remapped_entity_left :
    ¬ ∀ operations (remote_entity local_entity : Entity),
      (run operations).local_to_remote.lookup local_entity = some remote_entity ↔
        (run operations).remote_to_local.lookup remote_entity = some local_entity := by
  intro inverse
  have stale := (inverse [.insert 1 2,.insert 1 3] 1 2).mp (by decide)
  exact absurd stale (by decide)

end RemoteEntityMap
end Lightyear.EntityMap
