import ValueMethods.Proofs.Links
import ValueMethods.Proofs.Naming

/-!
# Models built in proper steps

A step is proper if it speaks of classes that are there and adds classes without a superclass.
After any number of proper steps, refused ones included, the superclass links stay inside the model
and have no cycle, classes are found by their names, and the fields of a class have different names.
-/

namespace ValueMethods

/-- The step speaks of classes of the model, and a class that it adds extends nothing yet. -/
def Construction.Proper (model : ClassModel) : Construction → Prop
  | .addClass outline _ => outline.superclass = none
  | .extend child parent => child < model.size ∧ parent < model.size
  | .extendExternal child _ => child < model.size
  | .declare id _ _ => id < model.size

namespace ClassModel

/-- Every step is proper when it is taken. -/
def Properly (model : ClassModel) : List Construction → Prop
  | [] => True
  | step :: rest => step.Proper model ∧ (model.after step).Properly rest

/-- Links, names and fields are as they have to be. -/
structure WellFormed (model : ClassModel) : Prop where
  closed : model.Closed
  acyclic : model.Acyclic
  indexed : model.Indexed
  distinctFields : model.DistinctFields

theorem wellFormed_empty : empty.WellFormed where
  closed child parent link := by simp [Link, parent?, class?, empty] at link
  acyclic id cycle := by
    obtain ⟨parent, link, _⟩ := Relation.TransGen.head'_iff.mp cycle
    simp [Link, parent?, class?, empty] at link
  indexed name id := by simp [class?, empty]
  distinctFields id decl found := by simp [class?, empty] at found

/-! ## One step -/

/-- A class without a superclass changes no link. -/
theorem link_of_addClass {model extended : ClassModel} {decl : ClassDecl}
    (added : model.addClass decl = .ok extended) (root : decl.superclass = none) :
    extended.Link = model.Link := by
  funext child parent
  apply propext
  rw [link_iff, link_iff, class?_of_addClass added]
  by_cases new : child = model.size
  · rw [if_pos new, new, class?_size]
    simp [root]
  · rw [if_neg new]

namespace WellFormed

variable {model : ClassModel} (wellFormed : model.WellFormed)
include wellFormed

theorem addClass {extended : ClassModel} {decl : ClassDecl}
    (added : model.addClass decl = .ok extended) (root : decl.superclass = none) :
    extended.WellFormed where
  closed child parent link := by
    rw [link_of_addClass added root] at link
    have inside := wellFormed.closed child parent link
    rw [size_of_addClass added]
    exact Nat.lt_succ_of_lt inside
  acyclic id := by
    rw [HasAncestor, link_of_addClass added root]
    exact wellFormed.acyclic id
  indexed := wellFormed.indexed.addClass added
  distinctFields := wellFormed.distinctFields.addClass added

theorem setSuperclass {child : ClassId} {superclass : Option Superclass}
    (inside : ∀ parent, superclass = some (.inModel parent) → parent < model.size)
    (apart : ∀ parent, superclass = some (.inModel parent) → ¬model.Reaches parent child) :
    (model.setSuperclass child superclass).WellFormed where
  closed id parent link := by
    rw [ClassModel.setSuperclass, size_modify]
    by_cases changed : id = child
    · subst changed
      exact inside parent (link_setSuperclass_self.mp link).2
    · exact wellFormed.closed id parent ((link_setSuperclass_of_ne changed superclass).mp link)
  acyclic := wellFormed.acyclic.setSuperclass apart
  indexed := wellFormed.indexed.modify child fun _ => rfl
  distinctFields := wellFormed.distinctFields.modify child fun _ => rfl

theorem declare (target : ClassId) (signature : Signature) (source : Option String) :
    (model.modify target fun decl => decl.declareMethod signature source).WellFormed := by
  have sameLinks : (model.modify target fun decl => decl.declareMethod signature source).Link =
      model.Link := by
    funext child parent
    apply propext
    rw [link_iff, link_iff]
    exact exists_class?_modify_iff fun _ => Iff.rfl
  constructor
  · intro child parent link
    rw [sameLinks] at link
    rw [size_modify]
    exact wellFormed.closed child parent link
  · intro id
    rw [HasAncestor, sameLinks]
    exact wellFormed.acyclic id
  · exact wellFormed.indexed.modify target fun _ => rfl
  · exact wellFormed.distinctFields.modify target fun _ => rfl

/-- A proper step keeps a model well-formed; a refused one changes nothing. -/
theorem after {step : Construction} (proper : step.Proper model) :
    (model.after step).WellFormed := by
  have taken := model.taken_construct step
  rw [ClassModel.after]
  generalize model.construct step = result at taken
  cases taken with
  | refused error => exact wellFormed
  | @added outline methods changed added =>
      have root := congrArg Outline.superclass (outline.outline_decl methods)
      exact wellFormed.addClass added (root.trans proper)
  | extended apart =>
      apply wellFormed.setSuperclass
      · rintro _ ⟨⟩
        exact proper.2
      · rintro _ ⟨⟩
        exact mt mem_lineage_iff.mpr apart
  | extendedOutside => exact wellFormed.setSuperclass (by simp) (by simp)
  | declared => exact wellFormed.declare _ _ _

end WellFormed

/-! ## Whole runs -/

theorem WellFormed.constructAll {model : ClassModel} (wellFormed : model.WellFormed)
    {steps : List Construction} (proper : model.Properly steps) :
    (model.constructAll steps).WellFormed := by
  induction steps generalizing model with
  | nil => exact wellFormed
  | cons step rest ih => exact ih (wellFormed.after proper.1) proper.2

/-! ## Any steps -/

/-- Classes are found by their names, and the fields of a class have different names. -/
structure Orderly (model : ClassModel) : Prop where
  indexed : model.Indexed
  distinctFields : model.DistinctFields

/-- Improper steps may break links, but not this. -/
theorem Orderly.after {model : ClassModel} (orderly : model.Orderly) (step : Construction) :
    (model.after step).Orderly := by
  have modified (id : ClassId) {change : ClassDecl → ClassDecl}
      (named : ∀ decl, (change decl).qualifiedName = decl.qualifiedName)
      (fields : ∀ decl, (change decl).fields = decl.fields) : (model.modify id change).Orderly :=
    ⟨orderly.indexed.modify id named, orderly.distinctFields.modify id fields⟩
  have taken := model.taken_construct step
  rw [ClassModel.after]
  generalize model.construct step = result at taken
  cases taken with
  | refused error => exact orderly
  | added added => exact ⟨orderly.indexed.addClass added, orderly.distinctFields.addClass added⟩
  | extended apart => exact modified _ (fun _ => rfl) fun _ => rfl
  | extendedOutside => exact modified _ (fun _ => rfl) fun _ => rfl
  | declared => exact modified _ (fun _ => rfl) fun _ => rfl

theorem Orderly.constructAll {model : ClassModel} (orderly : model.Orderly)
    (steps : List Construction) : (model.constructAll steps).Orderly := by
  induction steps generalizing model with
  | nil => exact orderly
  | cons step rest ih => exact ih (orderly.after step)

theorem Built.orderly {model : ClassModel} (built : model.Built) : model.Orderly := by
  obtain ⟨steps, rfl⟩ := built.exists_steps
  have start : empty.Orderly := ⟨wellFormed_empty.indexed, wellFormed_empty.distinctFields⟩
  exact start.constructAll steps

/-! ## Whole hierarchies -/

/-- After any number of proper steps: climbing from a class ends within as many links as there are
classes, and the search that decides about a new superclass needs no more either; superclasses are
classes of the model; the index has the qualified names of the classes, a class is found by its
qualified name, and by another name if it is the only one with that simple name; field names of a
class differ; a superclass is refused if it is the class or has it as an ancestor, and otherwise
taken, whatever the class extended before; and what is refused changes nothing. -/
theorem hierarchy_wellFormed_after_steps (steps : List Construction)
    (proper : empty.Properly steps) :
    let model := empty.constructAll steps
    (∀ id, id < model.size → ∃ count ≤ model.size, model.ascend count id = none) ∧
    (∀ id decl parent, model.class? id = some decl →
      decl.superclass = some (.inModel parent) → parent < model.size) ∧
    (∀ child parent, parent < model.size →
      ∃ found, model.seek child model.size (some parent) = some found ∧
        (found = true ↔
          model.extend child parent = .error (.inheritanceCycle (model.qualifiedName child)))) ∧
    (∀ name id, model.index.lookup name = some id ↔
      ∃ decl, model.class? id = some decl ∧ decl.qualifiedName = name) ∧
    (∀ id decl, model.class? id = some decl → model.find? decl.qualifiedName = some id) ∧
    (∀ name, (∀ id decl, model.class? id = some decl → decl.qualifiedName ≠ name) →
      ∀ id, model.find? name = some id ↔
        (∃ decl, model.class? id = some decl ∧ decl.name = name) ∧
          ∀ other decl, model.class? other = some decl → decl.name = name → other = id) ∧
    (∀ id decl, model.class? id = some decl → (decl.fields.map Field.name).Nodup) ∧
    (∀ child parent, child < model.size → parent < model.size →
      (model.extend child parent = .error (.inheritanceCycle (model.qualifiedName child)) ↔
        child = parent ∨ model.HasAncestor parent child) ∧
      (¬(child = parent ∨ model.HasAncestor parent child) →
        ∃ changed, model.extend child parent = .ok changed ∧
          changed.parent? child = some parent)) ∧
    ∀ step error, (model.construct step).2 = .error error → (model.construct step).1 = model := by
  intro model
  have wellFormed : model.WellFormed := wellFormed_empty.constructAll proper
  have ends (id : ClassId) (inside : id < model.size) : model.ascend model.size id = none :=
    wellFormed.acyclic.ascend_size wellFormed.closed inside
  refine ⟨?_, ?_, ?_, wellFormed.indexed, ?_, ?_, wellFormed.distinctFields, ?_, ?_⟩
  · intro id inside
    exact ⟨model.size, Nat.le_refl _, ends id inside⟩
  · intro id decl parent found superclass
    exact wellFormed.closed id parent (link_iff.mpr ⟨decl, found, superclass⟩)
  · intro child parent inside
    obtain ⟨found, answered, finds⟩ := exists_seek_eq child (ends parent inside)
    refine ⟨found, answered, finds.trans ?_⟩
    rw [extend_eq_error_iff]
    exact Relation.reflTransGen_iff_eq_or_transGen
  · intro id decl found
    exact wellFormed.indexed.find?_qualifiedName found
  · intro name unqualified id
    exact wellFormed.indexed.find?_eq_some_iff unqualified id
  · intro child parent childInside _
    refine ⟨extend_eq_error_iff, fun apart => ?_⟩
    rw [← Relation.reflTransGen_iff_eq_or_transGen] at apart
    exact ⟨_, extend_of_not_reaches apart, link_setSuperclass_self.mpr ⟨childInside, rfl⟩⟩
  · exact fun step error refused => construct_of_error refused

/-! ### Moving a class in the hierarchy -/

/-- Three classes in a line; then one of the same name as another, a superclass that would close a
cycle, and the class in the middle moved below the new one. -/
def movedClass : List Construction :=
  [.addClass ⟨"A", some "p", false, [⟨"x", "int", false⟩], none⟩ [],
    .addClass ⟨"B", some "p", false, [], none⟩ [],
    .addClass ⟨"C", some "p", false, [], none⟩ [],
    .extend 0 1, .extend 1 2,
    .addClass ⟨"A", some "p", true, [], none⟩ [],
    .addClass ⟨"A", some "q", false, [], none⟩ [],
    .extend 2 0, .extend 1 3]

/-- The steps are proper and two of them are refused; the simple name that two classes share finds
none of them, and the moved class still cannot come below the one that it was above of. -/
theorem hierarchy_wellFormed_after_movedClass :
    let model := empty.constructAll movedClass
    empty.Properly movedClass ∧ model.size = 4 ∧ model.parent? 1 = some 3 ∧
      model.parent? 2 = none ∧ model.find? "p.A" = some 0 ∧ model.find? "A" = none ∧
      (∃ count ≤ 4, model.ascend count 0 = none) ∧
      (model.extend 3 0 = .error (.inheritanceCycle "q.A") ↔
        3 = 0 ∨ model.HasAncestor 0 3) := by
  intro model
  have proper : empty.Properly movedClass := by
    refine ⟨rfl, rfl, rfl, ?_, ?_, rfl, rfl, ?_, ?_, trivial⟩ <;> exact ⟨by decide, by decide⟩
  obtain ⟨ends, _, _, _, _, _, _, refuses, _⟩ := hierarchy_wellFormed_after_steps movedClass proper
  refine ⟨proper, by decide +kernel, by decide +kernel, by decide +kernel, by decide +kernel,
    by decide +kernel, ends 0 (by decide +kernel), ?_⟩
  exact (refuses 3 0 (by decide +kernel) (by decide +kernel)).1

end ClassModel
end ValueMethods
