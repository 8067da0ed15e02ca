import Mathlib.Data.List.Basic
import ValueMethods.ClassModel.Identity
import ValueMethods.Synthesis.Report

/-!
# Outlines

The outline of a class is what anyone may read and write of it: everything except its methods.
Names, superclass links, lineages and identity fields depend on outlines only, and neither settling
a plan nor a generation run changes an outline.
-/

namespace ValueMethods

/-- The parts of a class that are open to everyone. -/
structure Outline where
  /-- Simple name. -/
  name : String
  /-- Package; none and the empty text both mean the default package. -/
  package : Option String
  /-- Whether the class is abstract. -/
  isAbstract : Bool
  /-- Fields in declaration order. -/
  fields : List Field
  /-- The superclass, if one was named. -/
  superclass : Option Superclass
  deriving DecidableEq

/-- The open parts of a class. -/
def ClassDecl.outline (decl : ClassDecl) : Outline where
  name := decl.name
  package := decl.package
  isAbstract := decl.isAbstract
  fields := decl.fields
  superclass := decl.superclass

namespace Outline

/-- A class with these parts and with methods that it was declared with, in order. -/
def decl (outline : Outline) (methods : List (Signature × Option String)) : ClassDecl :=
  let bare : ClassDecl :=
    { name := outline.name
      package := outline.package
      isAbstract := outline.isAbstract
      fields := outline.fields
      superclass := outline.superclass
      methods := []
      generated := [] }
  methods.foldl (fun decl method => decl.declareMethod method.1 method.2) bare

/-- The class with its open parts replaced.  Its methods stay. -/
def overwrite (outline : Outline) (decl : ClassDecl) : ClassDecl :=
  { decl with
    name := outline.name
    package := outline.package
    isAbstract := outline.isAbstract
    fields := outline.fields
    superclass := outline.superclass }

private theorem generated_foldl_declareMethod (methods : List (Signature × Option String))
    (decl : ClassDecl) :
    (methods.foldl (fun decl method => decl.declareMethod method.1 method.2) decl).generated =
      decl.generated := by
  induction methods generalizing decl with
  | nil => rfl
  | cons method rest ih => rw [List.foldl_cons, ih, ClassDecl.declareMethod]

/-- Nothing is generated for a class that has only been declared. -/
@[simp]
theorem generated_decl (outline : Outline) (methods : List (Signature × Option String)) :
    (outline.decl methods).generated = [] :=
  generated_foldl_declareMethod methods _

/-- Declared methods leave the open parts of a class alone. -/
@[simp]
theorem outline_decl (outline : Outline) (methods : List (Signature × Option String)) :
    (outline.decl methods).outline = outline := by
  have kept (decl : ClassDecl) :
      (methods.foldl (fun decl method => decl.declareMethod method.1 method.2) decl).outline =
        decl.outline := by
    induction methods generalizing decl with
    | nil => rfl
    | cons method rest ih =>
        rw [List.foldl_cons, ih]
        rfl
  exact kept _

@[simp]
theorem generated_overwrite (outline : Outline) (decl : ClassDecl) :
    (outline.overwrite decl).generated = decl.generated := rfl

end Outline

@[simp]
theorem ClassDecl.outline_attach (decl : ClassDecl) (method : Method) :
    (decl.attach method).outline = decl.outline := rfl

/-! ## Models with the same outlines -/

namespace ClassModel

/-- The outlines of all classes, in order. -/
def outlines (model : ClassModel) : List Outline :=
  model.classes.map ClassDecl.outline

theorem map_outline_class? (model : ClassModel) (id : ClassId) :
    (model.class? id).map ClassDecl.outline = model.outlines[id]? := by
  simp [class?, outlines]

theorem length_outlines (model : ClassModel) : model.outlines.length = model.size := by
  simp [outlines, size]

section SameOutlines

variable {first second : ClassModel} (same : first.outlines = second.outlines)
include same

theorem size_congr : first.size = second.size := by
  rw [← length_outlines, ← length_outlines, same]

/-- A class of one model has a counterpart with the same outline in the other. -/
theorem class?_congr (id : ClassId) :
    (first.class? id).map ClassDecl.outline = (second.class? id).map ClassDecl.outline := by
  rw [map_outline_class?, map_outline_class?, same]

theorem parent?_congr : first.parent? = second.parent? := by
  funext id
  have shared : (first.class? id).bind ClassDecl.superclass =
      (second.class? id).bind ClassDecl.superclass := by
    simpa [Option.bind_map, Function.comp_def, ClassDecl.outline] using
      congrArg (Option.bind · Outline.superclass) (class?_congr same id)
  rw [parent?, parent?, shared]

theorem fieldsOf_congr : first.fieldsOf = second.fieldsOf := by
  funext id
  simpa [Option.elim_map, Function.comp_def, ClassDecl.outline, fieldsOf] using
    congrArg (Option.elim · [] Outline.fields) (class?_congr same id)

theorem qualifiedName_congr : first.qualifiedName = second.qualifiedName := by
  funext id
  have named := congrArg
    (Option.elim · "" fun outline => qualifyName outline.package outline.name)
    (class?_congr same id)
  rw [Option.elim_map, Option.elim_map] at named
  exact named

theorem climb_congr : first.climb = second.climb := by
  funext limit
  induction limit with
  | zero => rfl
  | succ limit ih =>
      funext visited id
      rw [climb, climb, parent?_congr same, ih]

theorem lineage_congr : first.lineage = second.lineage := by
  funext id
  rw [lineage, lineage, size_congr same, climb_congr same]

theorem identityFields_congr : first.identityFields = second.identityFields := by
  funext id
  simp only [identityFields, ancestorFields, ancestors, lineage_congr same, fieldsOf_congr same]

end SameOutlines

/-! ## What settling and generating leave alone -/

theorem class?_modify (model : ClassModel) (id other : ClassId) (change : ClassDecl → ClassDecl) :
    (model.modify id change).class? other =
      if id = other then (model.class? other).map change else model.class? other := by
  simp only [class?, modify, List.getElem?_modify]
  split <;> simp

theorem outlines_modify (model : ClassModel) (id : ClassId) (change : ClassDecl → ClassDecl)
    (keeps : ∀ decl, model.class? id = some decl → (change decl).outline = decl.outline) :
    (model.modify id change).outlines = model.outlines := by
  apply List.ext_getElem?
  intro position
  simp only [outlines, modify, List.getElem?_map, List.getElem?_modify]
  split
  · next chosen =>
      subst chosen
      cases found : model.classes[id]? with
      | none => rfl
      | some decl => simpa using keeps decl found
  · simp

end ClassModel

theorem Plan.outline_settleAll (decl : ClassDecl) (decisions : List (ValueMethod × Decision)) :
    (settleAll decl decisions).1.outline = decl.outline := by
  induction decisions generalizing decl with
  | nil => rfl
  | cons entry rest ih =>
      obtain ⟨kind, decision⟩ := entry
      simp only [settleAll]
      rw [ih]
      cases decision with
      | generate method =>
          simp only [Decision.settle]
          split <;> simp
      | leaveOut reason => rfl

@[simp]
theorem Plan.outlines_settle (plan : Plan) (model : ClassModel) :
    (plan.settle model).1.outlines = model.outlines := by
  unfold settle
  split
  · next decl found =>
      apply ClassModel.outlines_modify
      intro other foundOther
      obtain rfl : decl = other := by simpa [found] using foundOther
      exact outline_settleAll decl plan.decisions
  · rfl

namespace ClassModel

@[simp]
theorem outlines_generateFor (model : ClassModel) (options : Options) (id : ClassId) :
    (model.generateFor options id).1.outlines = model.outlines := by
  simp [generateFor]

theorem outlines_generateForAll (options : Options) (model : ClassModel) (ids : List ClassId) :
    (generateForAll options model ids).1.outlines = model.outlines := by
  induction ids generalizing model with
  | nil => rfl
  | cons id rest ih => simp [generateForAll, ih]

@[simp]
theorem outlines_generate (model : ClassModel) (options : Options) :
    (model.generate options).1.outlines = model.outlines :=
  outlines_generateForAll options model model.ids

end ClassModel

end ValueMethods
