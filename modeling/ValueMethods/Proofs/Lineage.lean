import Mathlib.Data.List.Perm.Subperm
import ValueMethods.ClassModel.Identity

/-!
# What a lineage holds

The lineage of a class holds exactly the classes that its superclass links lead to.  It is closed
under taking the superclass, whatever the shape of the links, because the walk is as long as there
are classes.  So the lineage of an ancestor lies in the lineage of the class, and the class has all
identity fields of its ancestors.
-/

namespace ValueMethods
namespace ClassModel

theorem lt_size_of_parent? {model : ClassModel} {id parent : ClassId}
    (link : model.parent? id = some parent) : id < model.size := by
  by_contra outside
  have missing : model.class? id = none := by
    simpa [class?, size] using outside
  simp [parent?, missing] at link

/-! ## Climbing -/

/-- What is closed under taking the superclass is not left by climbing. -/
theorem of_mem_climb {model : ClassModel} (inside : ClassId → Prop)
    (closed : ∀ child parent, inside child → model.parent? child = some parent → inside parent)
    (limit : Nat) (visited : List ClassId) {id member : ClassId} (start : inside id)
    (climbed : member ∈ model.climb limit visited id) : inside member := by
  induction limit generalizing visited id with
  | zero => simp [climb] at climbed
  | succ limit ih =>
      rw [climb] at climbed
      split at climbed
      · simp at climbed
      · split at climbed
        · next parent link =>
            rcases List.mem_cons.mp climbed with rfl | above
            · exact start
            · exact ih (id :: visited) (closed id parent start link) above
        · rw [List.mem_singleton] at climbed
          exact climbed ▸ start

theorem climb_succ (model : ClassModel) (limit : Nat) {visited : List ClassId} {id : ClassId}
    (fresh : id ∉ visited) : ∃ rest, model.climb (limit + 1) visited id = id :: rest := by
  rw [climb, if_neg fresh]
  split
  · exact ⟨_, rfl⟩
  · exact ⟨[], rfl⟩

/-- A climb meets no class twice and none that has been visited before. -/
theorem nodup_climb (model : ClassModel) (limit : Nat) (visited : List ClassId) (id : ClassId) :
    (model.climb limit visited id).Nodup ∧
      ∀ member ∈ model.climb limit visited id, member ∉ visited := by
  induction limit generalizing visited id with
  | zero => simp [climb]
  | succ limit ih =>
      rw [climb]
      split
      · simp
      · next fresh =>
          split
          · next parent _ =>
              obtain ⟨nodup, apart⟩ := ih (id :: visited) parent
              refine ⟨List.nodup_cons.mpr ⟨fun again => ?_, nodup⟩, ?_⟩
              · exact apart id again List.mem_cons_self
              · refine List.forall_mem_cons.mpr ⟨fresh, fun member listed => ?_⟩
                exact fun before => apart member listed (List.mem_cons_of_mem id before)
          · simp [fresh]

/-- Classes that have been visited are classes of the model. -/
private theorem length_visited_le {model : ClassModel} {visited : List ClassId}
    (nodup : visited.Nodup) (within : ∀ seen ∈ visited, seen < model.size) :
    visited.length ≤ model.size := by
  have inRange : visited ⊆ List.range model.size := fun seen member =>
    List.mem_range.mpr (within seen member)
  simpa using (nodup.subperm inRange).length_le

/-- With a limit above the number of classes not visited yet, it is never the limit that ends the
climb: the superclass of a listed class has been visited before or is listed too. -/
theorem parent_mem_climb {model : ClassModel} (limit : Nat) {visited : List ClassId}
    (nodup : visited.Nodup) (within : ∀ seen ∈ visited, seen < model.size)
    (enough : model.size < limit + visited.length) {id child parent : ClassId}
    (member : child ∈ model.climb limit visited id) (link : model.parent? child = some parent) :
    parent ∈ visited ∨ parent ∈ model.climb limit visited id := by
  induction limit generalizing visited id with
  | zero => simp [climb] at member
  | succ limit ih =>
      rw [climb] at member ⊢
      split at member
      · simp at member
      · next fresh =>
          rw [if_neg fresh]
          split at member
          · next next upward =>
              have nodupNext : (id :: visited).Nodup := List.nodup_cons.mpr ⟨fresh, nodup⟩
              have withinNext : ∀ seen ∈ id :: visited, seen < model.size :=
                List.forall_mem_cons.mpr ⟨lt_size_of_parent? upward, within⟩
              have enoughNext : model.size < limit + (id :: visited).length := by
                simp only [List.length_cons]
                omega
              rcases List.mem_cons.mp member with rfl | above
              · obtain rfl : next = parent := by simpa [upward] using link
                by_cases seen : next ∈ child :: visited
                · rcases List.mem_cons.mp seen with rfl | before
                  · exact .inr List.mem_cons_self
                  · exact .inl before
                · -- There is a class left, so the limit still allows for one.
                  have bounded := length_visited_le nodupNext withinNext
                  obtain ⟨smaller, rfl⟩ : ∃ smaller, limit = smaller + 1 :=
                    ⟨limit - 1, by omega⟩
                  obtain ⟨rest, listed⟩ := climb_succ model smaller seen
                  exact .inr (by simp [listed])
              · rcases ih nodupNext withinNext enoughNext above with before | listed
                · rcases List.mem_cons.mp before with rfl | before
                  · exact .inr List.mem_cons_self
                  · exact .inl before
                · exact .inr (List.mem_cons_of_mem id listed)
          · next top =>
              rw [List.mem_singleton] at member
              simp [member, top] at link

/-! ## Lineages -/

/-- A lineage starts with the class itself. -/
theorem lineage_eq_cons (model : ClassModel) (id : ClassId) :
    model.lineage id = id :: (model.lineage id).tail := by
  obtain ⟨rest, listed⟩ := climb_succ model model.size (List.not_mem_nil : id ∉ ([] : List ClassId))
  simp [lineage, listed]

theorem nodup_lineage (model : ClassModel) (id : ClassId) : (model.lineage id).Nodup :=
  (model.nodup_climb _ [] id).1

@[simp]
theorem self_mem_lineage (model : ClassModel) (id : ClassId) : id ∈ model.lineage id := by
  rw [lineage_eq_cons]
  exact List.mem_cons_self

/-- A lineage is closed under taking the superclass. -/
theorem parent_mem_lineage {model : ClassModel} {id child parent : ClassId}
    (member : child ∈ model.lineage id) (link : model.parent? child = some parent) :
    parent ∈ model.lineage id := by
  have listed := parent_mem_climb (model.size + 1) List.nodup_nil (by simp) (by simp) member link
  exact listed.resolve_left List.not_mem_nil

/-- An ancestor brings all of its own ancestors with it. -/
theorem lineage_subset {model : ClassModel} {id ancestor : ClassId}
    (member : ancestor ∈ model.lineage id) : model.lineage ancestor ⊆ model.lineage id :=
  fun _ climbed =>
    of_mem_climb (· ∈ model.lineage id) (fun _ _ listed link => parent_mem_lineage listed link) _
      [] member climbed

/-! ## Identity fields along a lineage -/

/-- The identity fields are the instance fields of the classes in the lineage. -/
theorem mem_identityNames_iff (model : ClassModel) (id : ClassId) (name : String) :
    name ∈ (model.identityFields id).names ↔
      ∃ ancestor ∈ model.lineage id, ∃ field ∈ instanceFields (model.fieldsOf ancestor),
        field.name = name := by
  have split : ∀ ancestor, ancestor ∈ model.lineage id ↔
      ancestor = id ∨ ancestor ∈ (model.lineage id).tail := by
    intro ancestor
    rw [lineage_eq_cons, List.mem_cons, List.tail_cons]
  simp only [IdentityFields.names, IdentityFields.toList, identityFields, ancestorFields, ancestors,
    instanceFields, split, List.mem_map, List.mem_append, List.mem_filter, List.mem_flatMap,
    List.mem_reverse]
  constructor
  · rintro ⟨field, ⟨⟨ancestor, above, declared⟩, counts⟩ | own, rfl⟩
    · exact ⟨ancestor, .inr above, field, ⟨declared, counts⟩, rfl⟩
    · exact ⟨id, .inl rfl, field, own, rfl⟩
  · rintro ⟨ancestor, rfl | above, field, ⟨declared, counts⟩, rfl⟩
    · exact ⟨field, .inr ⟨declared, counts⟩, rfl⟩
    · exact ⟨field, .inl ⟨⟨ancestor, above, declared⟩, counts⟩, rfl⟩

/-- A class has the identity fields of all its ancestors. -/
theorem identityNames_subset {model : ClassModel} {id ancestor : ClassId}
    (member : ancestor ∈ model.lineage id) :
    (model.identityFields ancestor).names ⊆ (model.identityFields id).names := by
  intro name listed
  obtain ⟨declaring, above, field, declared, named⟩ :=
    (model.mem_identityNames_iff ancestor name).mp listed
  exact (model.mem_identityNames_iff id name).mpr
    ⟨declaring, lineage_subset member above, field, declared, named⟩

end ClassModel
end ValueMethods
