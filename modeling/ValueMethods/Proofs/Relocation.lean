import Mathlib.Logic.Equiv.Basic
import ValueMethods.Documents.Loading
import ValueMethods.Proofs.Independence
import ValueMethods.Proofs.Naming
import ValueMethods.Source.Unit

/-!
# Classes at other places

The handle of a class is its position in the model.  A model with the same classes in another order
has other handles, and its superclass links lead to other positions; apart from that it is the same.
Whatever is looked up, walked, planned or written in one of the models is what it is in the other,
with the handles replaced.  So everything that is said by names alone is equal.
-/

namespace ValueMethods

/-- The superclass, with the classes of the model at other places. -/
def Superclass.relocate (move : ClassId → ClassId) : Superclass → Superclass
  | .inModel id => .inModel (move id)
  | .external name => .external name

/-- The class, with the classes of the model at other places. -/
def ClassDecl.relocate (move : ClassId → ClassId) (decl : ClassDecl) : ClassDecl :=
  { decl with superclass := decl.superclass.map (Superclass.relocate move) }

/-- The second model has the classes of the first, each at the place it is moved to. -/
structure ClassModel.Relocated (move : Equiv.Perm ClassId) (first second : ClassModel) :
    Prop where
  size : second.size = first.size
  class? : ∀ id, second.class? (move id) = (first.class? id).map (ClassDecl.relocate move)
  lookup : ∀ name, second.index.lookup name = (first.index.lookup name).map move

/-- Of the source text of a class, only the head says what it extends. -/
theorem ClassDecl.texts_relocate (decl : ClassDecl) (move : ClassId → ClassId) :
    (decl.relocate move).packageText = decl.packageText ∧
    (decl.relocate move).importText = decl.importText ∧
    (decl.relocate move).fieldsText = decl.fieldsText ∧
    (decl.relocate move).declaredMethods.map (decl.relocate move).declaredText =
      decl.declaredMethods.map decl.declaredText ∧
    (decl.relocate move).generated = decl.generated := by
  have sameImports : (decl.relocate move).imports = decl.imports := rfl
  refine ⟨rfl, ?_, rfl, rfl, rfl⟩
  rw [importText, sameImports, importText]

private theorem map_move_eq_some_iff {move : Equiv.Perm ClassId} {found : Option ClassId}
    {id : ClassId} : found.map move = some (move id) ↔ found = some id :=
  (Option.map_injective move.injective).eq_iff' rfl

/-- If names lead to the classes that have them, they do so after the move. -/
theorem ClassModel.Indexed.relocated {move : Equiv.Perm ClassId} {first second : ClassModel}
    (indexed : first.Indexed) (indexedToo : second.Indexed) (size : second.size = first.size)
    (classes : ∀ id,
      second.class? (move id) = (first.class? id).map (ClassDecl.relocate move)) :
    ClassModel.Relocated move first second where
  size := size
  class? := classes
  lookup name := by
    ext moved
    obtain ⟨id, rfl⟩ := move.surjective moved
    rw [map_move_eq_some_iff, indexedToo name (move id), indexed name id, classes]
    cases first.class? id with
    | none => simp
    | some decl => simp [ClassDecl.relocate, ClassDecl.qualifiedName]

/-! ## Settling -/

/-- Decisions do the same to a class wherever its superclass is. -/
theorem Plan.settleAll_relocate (move : ClassId → ClassId) (decl : ClassDecl)
    (decisions : List (ValueMethod × Decision)) :
    settleAll (decl.relocate move) decisions =
      ((settleAll decl decisions).1.relocate move, (settleAll decl decisions).2) := by
  induction decisions generalizing decl with
  | nil => rfl
  | cons entry rest ih =>
      obtain ⟨kind, decision⟩ := entry
      have first : decision.settle (decl.relocate move) =
          ((decision.settle decl).1.relocate move, (decision.settle decl).2) := by
        cases decision with
        | leaveOut reason => rfl
        | generate method =>
            have sameMethods : (decl.relocate move).hasMethod method.signature =
                decl.hasMethod method.signature := rfl
            simp only [Decision.settle, sameMethods]
            split <;> rfl
      simp only [settleAll, first, ih]

namespace ClassModel.Relocated

variable {move : Equiv.Perm ClassId} {first second : ClassModel}
  (relocated : Relocated move first second)
include relocated

/-! ## Reading a model -/

theorem qualifiedName (id : ClassId) :
    second.qualifiedName (move id) = first.qualifiedName id := by
  rw [ClassModel.qualifiedName, relocated.class?, Option.elim_map]
  rfl

theorem fieldsOf (id : ClassId) : second.fieldsOf (move id) = first.fieldsOf id := by
  rw [ClassModel.fieldsOf, relocated.class?, Option.elim_map]
  rfl

theorem parent? (id : ClassId) : second.parent? (move id) = (first.parent? id).map move := by
  rw [ClassModel.parent?, ClassModel.parent?, relocated.class?]
  cases first.class? id with
  | none => rfl
  | some decl =>
      rw [Option.map_some, Option.bind_some, Option.bind_some, ClassDecl.relocate]
      cases decl.superclass with
      | none => rfl
      | some superclass => cases superclass <;> rfl

theorem climb (limit : Nat) (visited : List ClassId) (id : ClassId) :
    second.climb limit (visited.map move) (move id) = (first.climb limit visited id).map move := by
  induction limit generalizing visited id with
  | zero => rfl
  | succ limit ih =>
      have sameMembers : move id ∈ visited.map move ↔ id ∈ visited :=
        List.mem_map_of_injective move.injective
      simp only [ClassModel.climb, sameMembers, relocated.parent?]
      split
      · rfl
      · cases first.parent? id with
        | none => rfl
        | some parent => exact congrArg (List.cons (move id)) (ih (id :: visited) parent)

theorem lineage (id : ClassId) : second.lineage (move id) = (first.lineage id).map move := by
  rw [ClassModel.lineage, relocated.size]
  exact relocated.climb _ [] id

theorem identityFields (id : ClassId) :
    second.identityFields (move id) = first.identityFields id := by
  simp only [ClassModel.identityFields, ancestorFields, ancestors, relocated.lineage,
    relocated.fieldsOf, ← List.map_tail, ← List.map_reverse, List.flatMap_map]

/-! ## Finding a class -/

/-- The classes with a simple name are the same, though perhaps in another order. -/
theorem namesakes_perm (name : String) :
    (second.namesakes name).Perm ((first.namesakes name).map move) := by
  rw [List.perm_ext_iff_of_nodup (second.nodup_namesakes name)
    ((first.nodup_namesakes name).map move.injective)]
  intro moved
  obtain ⟨id, rfl⟩ := move.surjective moved
  rw [List.mem_map_of_injective move.injective, mem_namesakes_iff, mem_namesakes_iff,
    relocated.class?]
  cases first.class? id with
  | none => simp
  | some decl => simp [ClassDecl.relocate]

theorem find? (name : String) : second.find? name = (first.find? name).map move := by
  cases listed : first.index.lookup name with
  | some id =>
      have moved := relocated.lookup name
      rw [listed, Option.map_some] at moved
      simp only [ClassModel.find?, listed, moved, Option.map_some]
  | none =>
      have unlisted := relocated.lookup name
      rw [listed, Option.map_none] at unlisted
      -- A simple name finds a class if it is the only one, which does not depend on the order.
      ext moved
      obtain ⟨id, rfl⟩ := move.surjective moved
      rw [find?_eq_some_iff_namesakes unlisted, map_move_eq_some_iff,
        find?_eq_some_iff_namesakes listed,
        ← List.perm_singleton, (relocated.namesakes_perm name).congr_left, List.perm_singleton,
        ← List.map_singleton, (List.map_injective_iff.mpr move.injective).eq_iff]

/-- A name means the same class to a class in either place. -/
theorem resolveFrom (child : ClassId) (name : String) :
    second.resolveFrom (move child) name = (first.resolveFrom child name).map move := by
  have samePackage : (second.class? (move child)).bind ClassDecl.package =
      (first.class? child).bind ClassDecl.package := by
    rw [relocated.class?, Option.bind_map]
    rfl
  simp only [ClassModel.resolveFrom, resolveName, relocated.find?, samePackage]
  split
  · rfl
  · cases first.find? (qualifyName ((first.class? child).bind ClassDecl.package) name) <;> rfl

/-! ## Writing a class -/

/-- The source text of a class is the same in both places. -/
theorem unit (id : ClassId) : second.unit (move id) = first.unit id := by
  have sameSuperclass (decl : ClassDecl) :
      second.superclassText (decl.relocate move) = first.superclassText decl := by
    rw [superclassText, superclassText, ClassDecl.relocate]
    cases decl.superclass with
    | none => rfl
    | some superclass =>
        cases superclass with
        | external name => rfl
        | inModel parent =>
            simp only [Option.map_some, Superclass.relocate, relocated.class?, Option.map_map]
            rfl
  have sameHead (decl : ClassDecl) :
      second.headText (decl.relocate move) = first.headText decl := by
    rw [headText, headText, sameSuperclass]
    rfl
  have sameUnit (decl : ClassDecl) :
      second.unitOf (decl.relocate move) = first.unitOf decl := by
    obtain ⟨package, imports, fields, declared, generated⟩ := decl.texts_relocate move
    unfold unitOf
    rw [package, imports, sameHead, fields, declared, generated]
  rw [ClassModel.unit, relocated.class?, Option.elim_map, ClassModel.unit]
  simp only [Function.comp_def, sameUnit]

/-! ## Generation runs -/

theorem decisions_plan (options : Options) (id : ClassId) :
    (second.plan options (move id)).decisions = (first.plan options id).decisions := by
  simp only [plan, relocated.class?, relocated.identityFields]
  cases first.class? id <;> rfl

theorem outcomes_plan (options : Options) (id : ClassId) :
    ((second.plan options (move id)).settle second).2 =
      ((first.plan options id).settle first).2 := by
  have moved : second.class? (second.plan options (move id)).target =
      (first.class? id).map (ClassDecl.relocate move) := relocated.class? id
  have here : first.class? (first.plan options id).target = first.class? id := rfl
  simp only [Plan.settle, moved, here, relocated.decisions_plan]
  cases first.class? id with
  | none => rfl
  | some decl => simp only [Option.map_some, Plan.settleAll_relocate]

/-- A run keeps each class at its place. -/
theorem generate (options : Options) :
    Relocated move (first.generate options).1 (second.generate options).1 where
  size := by
    rw [size_congr (outlines_generate second options), relocated.size,
      size_congr (outlines_generate first options)]
  class? id := by
    rw [class?_generate, class?_generate, relocated.class?, relocated.decisions_plan,
      Option.map_map, Option.map_map]
    simp only [Function.comp_def, Plan.settleAll_relocate]
  lookup name := by
    rw [generate_eq, generate_eq, index_settleEach, index_settleEach, relocated.lookup]

end ClassModel.Relocated

/-! ## What is said by names alone -/

/-- What a class extends, by name. -/
inductive SuperclassName where
  /-- The class of the model with that qualified name. -/
  | inModel (qualifiedName : String)
  /-- A class outside the model. -/
  | external (name : String)

/-- What a generation run leaves of a class, without any handle. -/
structure Published where
  /-- Simple name. -/
  name : String
  /-- Package, if there is one. -/
  package : Option String
  /-- Whether the class is abstract. -/
  isAbstract : Bool
  /-- Fields in declaration order. -/
  fields : List Field
  /-- Declared methods in ascending order, with the sources that are known. -/
  declared : List (Signature × Option String)
  /-- The superclass, if one was named. -/
  superclass : Option SuperclassName
  /-- Generated methods in the order in which they were attached. -/
  generated : List Method
  /-- What the report says of each value method. -/
  outcomes : Option (List Outcome)
  /-- The source text. -/
  unit : String

namespace ClassModel

/-- The superclass of a class of the model, by name. -/
def superclassName (model : ClassModel) : Superclass → SuperclassName
  | .inModel id => .inModel (model.qualifiedName id)
  | .external name => .external name

/-- What a run with these options leaves of the class that a name finds. -/
def published (model : ClassModel) (options : Options) (name : String) : Option Published :=
  let run := model.generate options
  (run.1.find? name).bind fun id =>
    (run.1.class? id).map fun decl =>
      { name := decl.name
        package := decl.package
        isAbstract := decl.isAbstract
        fields := decl.fields
        declared := decl.declaredMethods.map fun signature =>
          (signature, decl.methodSource? signature)
        superclass := decl.superclass.map run.1.superclassName
        generated := decl.generated
        outcomes := (run.2.class? decl.qualifiedName).map ClassReport.outcomes
        unit := run.1.unit id }

/-- The report has each class under its qualified name. -/
theorem Indexed.class?_report {model : ClassModel} (indexed : model.Indexed) (options : Options)
    {id : ClassId} (inside : id < model.size) :
    ((model.generate options).2.class? (model.qualifiedName id)).map ClassReport.outcomes =
      some ((model.plan options id).settle model).2 := by
  have foundBy (other : ClassId) (inModel : other < model.size) :
      model.find? (model.qualifiedName other) = some other := by
    have found : model.class? other = some _ := List.getElem?_eq_getElem inModel
    rw [qualifiedName, found, Option.elim_some]
    exact indexed.find?_qualifiedName found
  have present : (model.ids.find? fun other =>
      model.qualifiedName other == model.qualifiedName id).isSome = true :=
    List.find?_isSome.mpr ⟨id, List.mem_range.mpr inside, beq_self_eq_true _⟩
  obtain ⟨first, chosen⟩ := Option.isSome_iff_exists.mp present
  have sameName : model.qualifiedName first = model.qualifiedName id := by
    simpa using List.find?_some chosen
  obtain rfl : first = id := by
    have back := foundBy first (List.mem_range.mp (List.mem_of_find?_eq_some chosen))
    rw [sameName, foundBy id inside] at back
    exact (Option.some.inj back).symm
  rw [generate_eq, Report.class?, List.find?_map, Function.comp_def, chosen]
  rfl

theorem Relocated.superclassName {move : Equiv.Perm ClassId} {first second : ClassModel}
    (relocated : Relocated move first second) (superclass : Superclass) :
    second.superclassName (superclass.relocate move) = first.superclassName superclass := by
  cases superclass with
  | external name => rfl
  | inModel id => exact congrArg SuperclassName.inModel (relocated.qualifiedName id)

/-- By names alone, runs on the two models cannot be told apart. -/
theorem Relocated.published {move : Equiv.Perm ClassId} {first second : ClassModel}
    (relocated : Relocated move first second) (indexed : first.Indexed)
    (indexedToo : second.Indexed) (options : Options) :
    second.published options = first.published options := by
  funext name
  have runs := relocated.generate options
  simp only [ClassModel.published, runs.find?, Option.bind_map]
  refine congrArg (Option.bind _) (funext fun id => ?_)
  rw [Function.comp_apply, runs.class?]
  cases found : (first.generate options).1.class? id with
  | none => rfl
  | some decl =>
      have inside : id < first.size := by
        rw [← size_congr (outlines_generate first options)]
        exact lt_size_of_class? found
      have moved : second.class? (move id) = some _ :=
        (relocated.class? id).trans (congrArg _ (List.getElem?_eq_getElem inside))
      have named : decl.qualifiedName = first.qualifiedName id := by
        rw [← qualifiedName_congr (outlines_generate first options), ClassModel.qualifiedName,
          found, Option.elim_some]
      have namedToo : (decl.relocate move).qualifiedName = second.qualifiedName (move id) :=
        named.trans (relocated.qualifiedName id).symm
      have reported := indexed.class?_report options inside
      have reportedToo := indexedToo.class?_report options (lt_size_of_class? moved)
      rw [← named] at reported
      rw [← namedToo, relocated.outcomes_plan, ← reported] at reportedToo
      have superclass : (decl.relocate move).superclass.map
          (second.generate options).1.superclassName =
            decl.superclass.map (first.generate options).1.superclassName := by
        rw [ClassDecl.relocate, Option.map_map]
        simp only [Function.comp_def, runs.superclassName]
      simp only [Option.map_some, superclass, reportedToo, runs.unit]
      rfl

/-- Each class can be seen under its qualified name. -/
theorem Indexed.exists_published {model : ClassModel} (indexed : model.Indexed)
    (options : Options) {id : ClassId} {decl : ClassDecl} (found : model.class? id = some decl) :
    ∃ view, model.published options decl.qualifiedName = some view ∧
      qualifyName view.package view.name = decl.qualifiedName := by
  have sameIndex : (model.generate options).1.index = model.index := by
    rw [generate_eq, index_settleEach]
  have finds : (model.generate options).1.find? decl.qualifiedName = some id := by
    rw [find?, sameIndex, (indexed decl.qualifiedName id).mpr ⟨decl, found, rfl⟩]
  have outline := Plan.outline_settleAll decl (model.plan options id).decisions
  have sameName := congrArg (fun outline => qualifyName outline.package outline.name) outline
  rw [published, finds, Option.bind_some, class?_generate, found, Option.map_some, Option.map_some]
  exact ⟨_, rfl, sameName⟩

end ClassModel

end ValueMethods
