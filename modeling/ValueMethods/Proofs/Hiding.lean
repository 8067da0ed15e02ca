import ValueMethods.Proofs.Hierarchy
import ValueMethods.Proofs.Policy

/-!
# What a field name means

Generated bodies read fields by name.  A name means the field of the class itself that has it,
static or not, and only failing that what it means in the superclass; so a field hides the fields of
its name that are declared further up.  The classifier passes over static fields and lists what is
left of each class, and names are new only within one class.  Hence a body reads what it was
generated for exactly if no class hides an instance field of an ancestor; a hidden one is not read
at all, and the field that hides it stands in for it, be it static.
-/

namespace ValueMethods

/-! ## Looking up a field name -/

namespace ClassModel

/-- The field of that name that a class declares, static or not. -/
def declaredField? (model : ClassModel) (owner : ClassId) (name : String) : Option Field :=
  (model.fieldsOf owner).find? fun field => field.name == name

/-- The field that a name means, and the class that declares it, if these are the class and its
ancestors in order. -/
def denotedAlong? (model : ClassModel) (owners : List ClassId) (name : String) :
    Option (ClassId × Field) :=
  owners.findSome? fun owner => (model.declaredField? owner name).map (Prod.mk owner)

/-- The field that a name means in a class, and the class that declares it. -/
def denoted? (model : ClassModel) (id : ClassId) (name : String) : Option (ClassId × Field) :=
  model.denotedAlong? (model.lineage id) name

/-- The instance fields that these classes declare, those of the last class first. -/
def placesAlong (model : ClassModel) (owners : List ClassId) : List (ClassId × Field) :=
  owners.reverse.flatMap fun owner => (instanceFields (model.fieldsOf owner)).map (Prod.mk owner)

/-- The identity fields of a class, each with the class that declares it. -/
def identityPlaces (model : ClassModel) (id : ClassId) : List (ClassId × Field) :=
  model.placesAlong (model.lineage id)

/-- No class declares a field, static or not, with the name of an instance field of a class further
up. -/
def UnhiddenAlong (model : ClassModel) (owners : List ClassId) : Prop :=
  owners.Pairwise fun lower upper =>
    ∀ field ∈ instanceFields (model.fieldsOf upper), model.declaredField? lower field.name = none

/-- No identity field of the class is hidden by a field of its name further down. -/
def Unhidden (model : ClassModel) (id : ClassId) : Prop :=
  model.UnhiddenAlong (model.lineage id)

/-- Each identity field of the class is read by a name of its own, which means that field. -/
structure Unambiguous (model : ClassModel) (id : ClassId) : Prop where
  distinct : (model.identityFields id).names.Nodup
  denotes : (model.identityFields id).names.map (model.denoted? id) =
    (model.identityPlaces id).map some

instance (model : ClassModel) (id : ClassId) : Decidable (model.Unhidden id) :=
  inferInstanceAs (Decidable (List.Pairwise _ _))

/-- The places are those of the identity fields, in order. -/
theorem map_snd_identityPlaces (model : ClassModel) (id : ClassId) :
    (model.identityPlaces id).map Prod.snd = (model.identityFields id).toList := by
  rw [identityPlaces, placesAlong, lineage_eq_cons, List.reverse_cons, List.flatMap_append,
    List.flatMap_singleton, IdentityFields.toList, identityFields, ancestorFields, ancestors]
  simp [instanceFields, List.map_flatMap, List.filter_flatMap, Function.comp_def]

section Places

variable {model : ClassModel}

theorem mem_placesAlong_iff {owners : List ClassId} {owner : ClassId} {field : Field} :
    (owner, field) ∈ model.placesAlong owners ↔
      owner ∈ owners ∧ field ∈ instanceFields (model.fieldsOf owner) := by
  simp only [placesAlong, List.mem_flatMap, List.mem_reverse, List.mem_map, Prod.mk.injEq]
  constructor
  · rintro ⟨_, listed, _, declared, rfl, rfl⟩
    exact ⟨listed, declared⟩
  · rintro ⟨listed, declared⟩
    exact ⟨owner, listed, field, declared, rfl, rfl⟩

variable (distinct : model.DistinctFields)
include distinct

theorem DistinctFields.nodup_fieldNames (owner : ClassId) :
    ((model.fieldsOf owner).map Field.name).Nodup := by
  rw [fieldsOf]
  cases found : model.class? owner with
  | none => exact List.nodup_nil
  | some decl => exact distinct owner decl found

/-- In the class that declares it, a field is found by its name. -/
theorem DistinctFields.declaredField?_eq {owner : ClassId} {field : Field}
    (declared : field ∈ model.fieldsOf owner) :
    model.declaredField? owner field.name = some field := by
  have present : (model.declaredField? owner field.name).isSome = true :=
    List.find?_isSome.mpr ⟨field, declared, beq_self_eq_true field.name⟩
  obtain ⟨chosen, first⟩ := Option.isSome_iff_exists.mp present
  have sameName : chosen.name = field.name := by simpa using List.find?_some first
  have same := List.inj_on_of_nodup_map (distinct.nodup_fieldNames owner)
    (List.mem_of_find?_eq_some first) declared sameName
  rw [first, same]

/-- Names mean the fields that they are taken from exactly if none of these is hidden. -/
theorem DistinctFields.denotes_iff {owners : List ClassId} (nodup : owners.Nodup) :
    (∀ place ∈ model.placesAlong owners,
      model.denotedAlong? owners place.2.name = some place) ↔ model.UnhiddenAlong owners := by
  -- On the classes from the lowest one up: it hides fields of the others or it does not.
  induction owners with
  | nil => simp [placesAlong, UnhiddenAlong]
  | cons owner rest ih =>
      obtain ⟨fresh, nodupRest⟩ := List.nodup_cons.mp nodup
      have own (name : String) : model.denotedAlong? (owner :: rest) name =
          ((model.declaredField? owner name).map (Prod.mk owner)).or
            (model.denotedAlong? rest name) := by
        rw [denotedAlong?, List.findSome?_cons, denotedAlong?]
        cases model.declaredField? owner name <;> rfl
      rw [UnhiddenAlong, List.pairwise_cons]
      constructor
      · intro denotes
        have notHidden : ∀ place ∈ model.placesAlong rest,
            model.declaredField? owner place.2.name = none ∧
              model.denotedAlong? rest place.2.name = some place := by
          rintro ⟨upper, field⟩ member
          obtain ⟨above, declared⟩ := mem_placesAlong_iff.mp member
          have means := denotes (upper, field)
            (mem_placesAlong_iff.mpr ⟨List.mem_cons_of_mem owner above, declared⟩)
          rw [own] at means
          cases hides : model.declaredField? owner field.name with
          | none => simpa [hides] using means
          | some other =>
              -- The field that hides it is in another class, so it is not the one that is meant.
              obtain ⟨rfl, _⟩ : owner = upper ∧ other = field := by simpa [hides] using means
              exact absurd above fresh
        refine ⟨fun upper above field declared => ?_, ?_⟩
        · exact (notHidden (upper, field) (mem_placesAlong_iff.mpr ⟨above, declared⟩)).1
        · exact (ih nodupRest).mp fun place member => (notHidden place member).2
      · rintro ⟨unhidden, unhiddenRest⟩ ⟨declaring, field⟩ member
        obtain ⟨listed, declared⟩ := mem_placesAlong_iff.mp member
        rw [own]
        rcases List.mem_cons.mp listed with rfl | above
        · rw [distinct.declaredField?_eq (List.mem_of_mem_filter declared)]
          rfl
        · rw [unhidden declaring above field declared, Option.map_none, Option.none_or]
          exact (ih nodupRest).mpr unhiddenRest (declaring, field)
            (mem_placesAlong_iff.mpr ⟨above, declared⟩)

theorem DistinctFields.nodup_placesAlong {owners : List ClassId} (nodup : owners.Nodup) :
    (model.placesAlong owners).Nodup := by
  have nodupFields (owner : ClassId) : (instanceFields (model.fieldsOf owner)).Nodup :=
    (distinct.nodup_fieldNames owner).of_map.filter _
  refine List.nodup_flatMap.mpr ⟨fun owner _ => ?_, ?_⟩
  · exact (nodupFields owner).map (Prod.mk_right_injective owner)
  · refine (List.nodup_reverse.mpr nodup).imp fun different => ?_
    rintro ⟨owner, field⟩ member memberToo
    obtain ⟨_, _, same⟩ := List.mem_map.mp member
    obtain ⟨_, _, sameToo⟩ := List.mem_map.mp memberToo
    exact different ((congrArg Prod.fst same).trans (congrArg Prod.fst sameToo).symm)

end Places

section Class

variable {model : ClassModel} (distinct : model.DistinctFields) (id : ClassId)
include distinct

theorem DistinctFields.map_denoted?_iff :
    (model.identityFields id).names.map (model.denoted? id) = (model.identityPlaces id).map some ↔
      model.Unhidden id := by
  rw [IdentityFields.names, ← map_snd_identityPlaces, List.map_map, List.map_map, List.map_inj_left]
  exact distinct.denotes_iff (model.nodup_lineage id)

theorem DistinctFields.unambiguous_iff : model.Unambiguous id ↔ model.Unhidden id := by
  rw [← distinct.map_denoted?_iff id]
  refine ⟨Unambiguous.denotes, fun denotes => ⟨?_, denotes⟩⟩
  -- Names that mean different fields are different.
  have nodup : ((model.identityPlaces id).map some).Nodup :=
    (distinct.nodup_placesAlong (model.nodup_lineage id)).map (Option.some_injective _)
  rw [← denotes] at nodup
  exact nodup.of_map

end Class

/-! ## Models that have been built -/

/-- However a model has been built, no class of it has two fields of one name. -/
theorem Built.distinctFields {model : ClassModel} (built : model.Built) :
    model.DistinctFields :=
  built.orderly.distinctFields

end ClassModel

/-! ## Field names in bodies -/

mutual

/-- The names of the fields that an expression reads, from left to right and repeats kept. -/
def Expr.fieldNames : Expr → List String
  | .this => []
  | .null => []
  | .bool _ => []
  | .local _ => []
  | .ownField name => [name]
  | .fieldOf target name => target.fieldNames ++ [name]
  | .ownCall _ arguments => Expr.fieldNamesOfAll arguments
  | .callOn target _ arguments => target.fieldNames ++ Expr.fieldNamesOfAll arguments
  | .staticCall _ _ arguments => Expr.fieldNamesOfAll arguments
  | .cast _ operand => operand.fieldNames
  | .binary _ left right => left.fieldNames ++ right.fieldNames
  | .listing content => content.entries.map LabelledField.field

/-- The names of the fields that the expressions of a list read, in order. -/
def Expr.fieldNamesOfAll : List Expr → List String
  | [] => []
  | first :: rest => first.fieldNames ++ Expr.fieldNamesOfAll rest

end

mutual

/-- The names of the fields that a statement reads, in order. -/
def Stmt.fieldNames : Stmt → List String
  | .branch condition body => condition.fieldNames ++ Stmt.fieldNamesOfAll body
  | .declare _ _ initial => initial.fieldNames
  | .result value => value.fieldNames

/-- The names of the fields that the statements of a list read, in order. -/
def Stmt.fieldNamesOfAll : List Stmt → List String
  | [] => []
  | first :: rest => first.fieldNames ++ Stmt.fieldNamesOfAll rest

end

/-- The names of the fields that the body of a method reads, in order. -/
def Method.fieldNames (method : Method) : List String :=
  Stmt.fieldNamesOfAll method.body

/-- How often a value method reads a field: `equals` reads it on both objects. -/
def ValueMethod.readings : ValueMethod → Nat
  | .equals => 2
  | _ => 1

namespace Synthesis

theorem fieldNamesOfAll_ownFields (names : List String) :
    Expr.fieldNamesOfAll (names.map .ownField) = names := by
  induction names with
  | nil => rfl
  | cons name rest ih => rw [List.map_cons, Expr.fieldNamesOfAll, ih]; rfl

theorem fieldNames_fieldComparisons {objects : TypeName} {names : List String} {comparison : Expr}
    (joined : fieldComparisons? objects names = some comparison) :
    comparison.fieldNames = names.flatMap (List.replicate 2) := by
  have fromLeft (rest : List String) (front : Expr) :
      (rest.foldl (fun joined name => .binary .both joined (fieldComparison objects name))
        front).fieldNames = front.fieldNames ++ rest.flatMap (List.replicate 2) := by
    induction rest generalizing front with
    | nil => simp
    | cons name rest ih =>
        rw [List.foldl_cons, ih, Expr.fieldNames, List.flatMap_cons, List.append_assoc]
        rfl
  cases names with
  | nil => simp [fieldComparisons?] at joined
  | cons first rest =>
      obtain rfl := Option.some.inj joined
      rw [fromLeft, List.flatMap_cons]
      rfl

/-- A generated body reads the fields that it was generated for and no others. -/
theorem fieldNames_method {helpers : Helpers} {className : String} {names : List String}
    {kind : ValueMethod} {method : Method}
    (built : method? helpers className names kind = some method) :
    method.fieldNames = names.flatMap (List.replicate kind.readings) := by
  cases kind with
  | toString =>
      obtain rfl := Option.some.inj built
      have listed : (toStringMethod helpers className names).fieldNames = names := by
        simp [Method.fieldNames, toStringMethod, Stmt.fieldNamesOfAll, Stmt.fieldNames,
          Expr.fieldNames, fieldListing, Function.comp_def]
      exact listed.trans (List.flatMap_singleton' names).symm
  | hashCode =>
      cases names with
      | nil => simp [method?, hashCodeMethod?] at built
      | cons first rest =>
          obtain rfl := Option.some.inj built
          have hashed := fieldNamesOfAll_ownFields (first :: rest)
          simp only [Method.fieldNames, Stmt.fieldNamesOfAll, Stmt.fieldNames, Expr.fieldNames,
            hashed, List.append_nil]
          exact (List.flatMap_singleton' _).symm
  | equals =>
      obtain ⟨comparison, joined, rfl⟩ := Option.map_eq_some_iff.mp built
      simp [Method.fieldNames, Stmt.fieldNamesOfAll, Stmt.fieldNames, answerIf, Expr.fieldNames,
        Expr.fieldNamesOfAll, fieldNames_fieldComparisons joined, ValueMethod.readings]

end Synthesis

/-- Lists with each member repeated equally often are equal only if the lists are. -/
theorem flatMap_replicate_injective {α : Type} {count : Nat} (positive : 0 < count) :
    Function.Injective fun members : List α => members.flatMap (List.replicate count) := by
  obtain ⟨fewer, rfl⟩ : ∃ fewer, count = fewer + 1 := ⟨count - 1, by omega⟩
  intro first second same
  induction first generalizing second with
  | nil => cases second with
    | nil => rfl
    | cons => simp [List.replicate_succ] at same
  | cons member rest ih => cases second with
    | nil => simp [List.replicate_succ] at same
    | cons other others =>
        simp only [List.flatMap_cons] at same
        obtain ⟨front, back⟩ := List.append_inj same (by simp)
        obtain ⟨rfl, _⟩ : member = other ∧ _ := by simpa [List.replicate_succ] using front
        rw [ih back]

/-! ## Runs on models that have been built -/

namespace ClassModel

/-- What a run generates on a model that has been built reads the identity fields in order. -/
theorem Built.fieldNames_generated {model : ClassModel} (built : model.Built) {options : Options}
    {id : ClassId} {decl : ClassDecl} (found : (model.generate options).1.class? id = some decl)
    {method : Method} (member : method ∈ decl.generated) :
    method.fieldNames =
      (model.identityFields id).names.flatMap (List.replicate method.kind.readings) := by
  cases before : model.class? id with
  | none =>
      rw [class?_generate, before, Option.map_none] at found
      simp at found
  | some bare =>
      rw [class?_generate_eq_attachAll before] at found
      obtain rfl := Option.some.inj found
      rw [ClassDecl.generated_attachAll, built.generated_eq_nil before, List.nil_append,
        Plan.mem_methods_iff] at member
      obtain ⟨_, _, _, _, body⟩ := of_generates_plan member
      exact Synthesis.fieldNames_method body

/-- On a model that has been built, the identity fields of a class have different names that mean
them exactly if no class hides an instance field of an ancestor.  Identity fields are never static,
and exactly in that case a generated method reads, name by name, the fields it was generated for. -/
theorem names_denote_iff_unhidden {model : ClassModel} (built : model.Built) (id : ClassId) :
    (model.Unambiguous id ↔ model.Unhidden id) ∧
    (∀ place ∈ model.identityPlaces id, place.2.isStatic = false) ∧
    ∀ options decl, (model.generate options).1.class? id = some decl →
      ∀ method ∈ decl.generated,
        (method.fieldNames.map (model.denoted? id) =
          ((model.identityPlaces id).flatMap (List.replicate method.kind.readings)).map some ↔
            model.Unhidden id) := by
  have distinct := built.distinctFields
  refine ⟨distinct.unambiguous_iff id, ?_, ?_⟩
  · rintro ⟨owner, field⟩ member
    have counts := List.of_mem_filter (mem_placesAlong_iff.mp member).2
    simpa using counts
  · intro options decl found method member
    have often : 0 < method.kind.readings := by cases method.kind <;> decide
    have spread {α β : Type} (members : List α) (image : α → β) :
        (members.flatMap (List.replicate method.kind.readings)).map image =
          (members.map image).flatMap (List.replicate method.kind.readings) := by
      simp [List.map_flatMap, List.flatMap_map]
    rw [built.fieldNames_generated found member, spread, spread,
      (flatMap_replicate_injective often).eq_iff]
    exact distinct.map_denoted?_iff id

/-! ### Three subclasses -/

/-- A class with an instance field and a static one, and three classes that extend it.  The first
has another field, the second an instance field of the same name, the third a static one. -/
def subclasses : ClassModel :=
  empty.constructAll
    [.addClass ⟨"Base", none, false, [⟨"x", "int", false⟩, ⟨"s", "int", true⟩], none⟩ [],
      .addClass ⟨"Plain", none, false, [⟨"s", "int", false⟩], none⟩ [],
      .addClass ⟨"Copy", none, false, [⟨"x", "int", false⟩], none⟩ [],
      .addClass ⟨"Mask", none, false, [⟨"x", "int", true⟩], none⟩ [],
      .extend 1 0, .extend 2 0, .extend 3 0]

/-- In the first subclass all names mean the fields that they are taken from, in the others not. -/
theorem names_denote_iff_unhidden_on_subclasses :
    (subclasses.Unambiguous 0 ∧ subclasses.Unambiguous 1) ∧
    ¬subclasses.Unambiguous 2 ∧ ¬subclasses.Unambiguous 3 ∧
    ∃ decl, (subclasses.generate .default).1.class? 1 = some decl ∧
      decl.generated.map Method.fieldNames = [["x", "s"], ["x", "s"], ["x", "x", "s", "s"]] ∧
      ∀ method ∈ decl.generated,
        method.fieldNames.map (subclasses.denoted? 1) =
          ((subclasses.identityPlaces 1).flatMap
            (List.replicate method.kind.readings)).map some := by
  have built : subclasses.Built := .inSteps _
  have same (id : ClassId) := (names_denote_iff_unhidden built id).1
  refine ⟨⟨(same 0).mpr (by decide +kernel), (same 1).mpr (by decide +kernel)⟩,
    mt (same 2).mp (by decide +kernel), mt (same 3).mp (by decide +kernel), ?_⟩
  obtain ⟨decl, found, names⟩ : ∃ decl, (subclasses.generate .default).1.class? 1 = some decl ∧
      decl.generated.map Method.fieldNames = [["x", "s"], ["x", "s"], ["x", "x", "s", "s"]] :=
    ⟨_, rfl, rfl⟩
  refine ⟨decl, found, names, fun method member => ?_⟩
  have reads := (names_denote_iff_unhidden built 1).2.2 .default decl found method member
  exact reads.mpr (by decide +kernel)

/-- A class that declares the name of an inherited field again has two identity fields of one name,
and both are read as its own; where it declares it as static, the static field is read for the
inherited one. -/
theorem hidden_fields_are_misread :
    (¬∀ model : ClassModel, model.Built → ∀ id, model.Unambiguous id) ∧
    (subclasses.identityFields 2).names = ["x", "x"] ∧
    (subclasses.identityPlaces 2).map Prod.fst = [0, 2] ∧
    (subclasses.denoted? 2 "x").map Prod.fst = some 2 ∧
    (subclasses.identityFields 3).names = ["x"] ∧
    subclasses.denoted? 3 "x" = some (3, ⟨"x", "int", true⟩) := by
  have repeated : (subclasses.identityFields 2).names = ["x", "x"] := by decide +kernel
  refine ⟨fun always => ?_, repeated, by decide +kernel, by decide +kernel, by decide +kernel,
    by decide +kernel⟩
  have distinct := (always subclasses (.inSteps _) 2).distinct
  rw [repeated] at distinct
  exact absurd distinct (by decide)

end ClassModel

end ValueMethods
