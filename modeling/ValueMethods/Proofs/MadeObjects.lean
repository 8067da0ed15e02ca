import Mathlib.Data.List.Basic
import ValueMethods.Evaluation.Allocation
import ValueMethods.Proofs.Answers

/-!
# Objects that have been made

An object is made on a model from values for its fields, with objects among them that have been made
before.  It has all identity fields that its class has in that model, and it knows its height.
-/

namespace ValueMethods

/-! ## Setting fields -/

theorem keys_setField? {name : String} {value : Value} {fields changed : List (String × Value)}
    (set : setField? name value fields = some changed) :
    changed.map Prod.fst = fields.map Prod.fst := by
  induction fields generalizing changed with
  | nil => simp [setField?] at set
  | cons entry rest ih =>
      rw [setField?] at set
      split at set
      · next same =>
          obtain rfl := Option.some.inj set
          simp [same]
      · obtain ⟨others, setRest, rfl⟩ := Option.map_eq_some_iff.mp set
        simp [ih setRest]

theorem mem_setField? {name : String} {value : Value} {fields changed : List (String × Value)}
    (set : setField? name value fields = some changed) {entry : String × Value}
    (member : entry ∈ changed) : entry ∈ fields ∨ entry = (name, value) := by
  induction fields generalizing changed with
  | nil => simp [setField?] at set
  | cons first rest ih =>
      rw [setField?] at set
      split at set
      · obtain rfl := Option.some.inj set
        rcases List.mem_cons.mp member with new | kept
        · exact .inr new
        · exact .inl (List.mem_cons_of_mem first kept)
      · obtain ⟨others, setRest, rfl⟩ := Option.map_eq_some_iff.mp set
        rcases List.mem_cons.mp member with rfl | later
        · exact .inl List.mem_cons_self
        · exact (ih setRest later).imp_left (List.mem_cons_of_mem first)

/-- Setting fields keeps their names, and every value is an old one or one that was given. -/
theorem setFields_eq_ok {values fields changed : List (String × Value)}
    (set : setFields values fields = .ok changed) :
    changed.map Prod.fst = fields.map Prod.fst ∧
      ∀ entry ∈ changed, entry ∈ fields ∨ entry ∈ values := by
  induction values generalizing fields with
  | nil =>
      obtain rfl := Except.ok.inj set
      exact ⟨rfl, fun _ member => .inl member⟩
  | cons given rest ih =>
      obtain ⟨name, value⟩ := given
      simp only [setFields] at set
      split at set
      · next between setOne =>
          obtain ⟨keys, members⟩ := ih set
          refine ⟨keys.trans (keys_setField? setOne), fun entry member => ?_⟩
          rcases members entry member with member | given
          · rcases mem_setField? setOne member with old | rfl
            · exact .inl old
            · exact .inr List.mem_cons_self
          · exact .inr (List.mem_cons_of_mem _ given)
      · simp at set

namespace Instance

/-! ## Making objects -/

/-- An object that has been made on one of the models, and so have all objects in it. -/
inductive MadeOn (models : ClassModel → Prop) : Instance → Prop
  | instantiate {model : ClassModel} {allocator next : Allocator} {owner : ClassId}
      {values : List (String × Value)} {self : Instance} (onModel : models model)
      (inside : ∀ name inner, (name, Value.object inner) ∈ values → inner.MadeOn models)
      (made : allocator.instantiate model owner values = .ok (self, next)) : self.MadeOn models

/-- What is known of a new object. -/
theorem of_instantiate {model : ClassModel} {allocator next : Allocator} {owner : ClassId}
    {values : List (String × Value)} {self : Instance}
    (made : allocator.instantiate model owner values = .ok (self, next)) :
    self.owner = owner ∧ self.height = Value.heightOfFields self.fields + 1 ∧
      self.fields.map Prod.fst = (model.identityFields owner).names ∧
      ∀ inner, self.Holds inner → ∃ name, (name, Value.object inner) ∈ values := by
  unfold Allocator.instantiate at made
  split at made
  · next fields set =>
      obtain ⟨rfl, _⟩ := Prod.mk.inj (Except.ok.inj made)
      obtain ⟨keys, members⟩ := setFields_eq_ok set
      refine ⟨rfl, rfl, ?_, ?_⟩
      · change fields.map Prod.fst = _
        rw [keys, emptyFields, List.map_map]
        exact List.map_id _
      · rintro inner ⟨name, held⟩
        rcases members _ held with empty | given
        · simp [emptyFields] at empty
        · exact ⟨name, given⟩
  · simp at made

namespace MadeOn

variable {models : ClassModel → Prop} {self : Instance}

theorem of_holds (made : self.MadeOn models) {inner : Instance} (held : self.Holds inner) :
    inner.MadeOn models := by
  cases made with
  | instantiate onModel inside made =>
      obtain ⟨name, given⟩ := (of_instantiate made).2.2.2 inner held
      exact inside name inner given

theorem sound (made : self.MadeOn models) : self.Sound := by
  induction made with
  | instantiate onModel inside made ih =>
      obtain ⟨_, height, _, held⟩ := of_instantiate made
      refine .intro height fun inner holds => ?_
      obtain ⟨name, given⟩ := held inner holds
      exact ih name inner given

theorem exists_field? {model : ClassModel} (made : self.MadeOn (· = model)) {name : String}
    (listed : name ∈ (model.identityFields self.owner).names) :
    ∃ value, self.field? name = some value := by
  cases made with
  | instantiate onModel inside made =>
      subst onModel
      obtain ⟨owner, _, keys, _⟩ := of_instantiate made
      rw [owner, ← keys] at listed
      obtain ⟨entry, member, rfl⟩ := List.mem_map.mp listed
      exact Option.isSome_iff_exists.mp (List.lookup_isSome_iff.mpr ⟨entry, member, by simp⟩)

/-- Every identity field of a new object can be read. -/
theorem exists_read {model : ClassModel} (made : self.MadeOn (· = model)) {name : String}
    (listed : name ∈ (model.identityFields self.owner).names) :
    ∃ value, self.read model name = .ok value := by
  obtain ⟨value, found⟩ := made.exists_field? listed
  exact ⟨value, by simp [Instance.read, found]⟩

end MadeOn
end Instance
end ValueMethods
