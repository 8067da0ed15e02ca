import ValueMethods.Proofs.History
import ValueMethods.Proofs.Imports

/-!
# What the names of helpers denote

Generated methods call helper classes by their simple names, and the unit of a class imports the
helpers that are in other packages.  Names are looked up as in Java: a variable comes first, then
the declared class and the imports, then the classes of the package and last those of `java.lang`.
The imports of a unit are apart exactly if no two imported helpers share a simple name and none has
the name of the class, and a name denotes its helper exactly if nothing that is looked up earlier
has that name.
-/

namespace ValueMethods

/-! ## Qualified names -/

/-- The type is given as a simple name in a package that is not the default one. -/
structure TypeName.IsQualified (type : TypeName) : Prop where
  hasPackage : type.package ≠ none
  nonempty : type.package ≠ some ""
  simple : '.' ∉ type.name.toList

namespace TypeName

instance (type : TypeName) : Decidable type.IsQualified :=
  decidable_of_iff
    (type.package ≠ none ∧ type.package ≠ some "" ∧ '.' ∉ type.name.toList)
    ⟨fun ⟨hasPackage, nonempty, simple⟩ => ⟨hasPackage, nonempty, simple⟩,
      fun ⟨hasPackage, nonempty, simple⟩ => ⟨hasPackage, nonempty, simple⟩⟩

namespace IsQualified

variable {type : TypeName}

theorem exists_package (qualified : type.IsQualified) :
    ∃ package, type.package = some package ∧ package ≠ "" := by
  obtain ⟨package, same⟩ := Option.ne_none_iff_exists'.mp qualified.hasPackage
  exact ⟨package, same, fun empty => qualified.nonempty (same.trans (congrArg some empty))⟩

/-- A qualified name reads back. -/
theorem parse_qualified (qualified : type.IsQualified) : parse type.qualified = type := by
  obtain ⟨package, inPackage, _⟩ := qualified.exists_package
  obtain ⟨_, name⟩ := type
  obtain rfl : _ = some package := inPackage
  have text : (package ++ "." ++ name).toList = package.toList ++ '.' :: name.toList := by simp
  rw [TypeName.qualified, parse, text, Text.beforeLast?_append_cons _ qualified.simple,
    Text.afterLast_append_cons _ qualified.simple, Option.map_some, String.ofList_toList,
    String.ofList_toList]

end IsQualified

end TypeName

/-- Both helpers are named with their packages. -/
def Helpers.AreQualified (helpers : Helpers) : Prop :=
  helpers.toStringType.IsQualified ∧ helpers.objectsType.IsQualified

instance (helpers : Helpers) : Decidable helpers.AreQualified :=
  inferInstanceAs (Decidable (_ ∧ _))

/-! ## Helpers of generated methods -/

/-- The helper that a generated method of that kind calls. -/
def Helpers.typeFor (helpers : Helpers) : ValueMethod → TypeName
  | .toString => helpers.toStringType
  | .hashCode => helpers.objectsType
  | .equals => helpers.objectsType

theorem Helpers.AreQualified.typeFor {helpers : Helpers} (qualified : helpers.AreQualified)
    (kind : ValueMethod) : (helpers.typeFor kind).IsQualified := by
  cases kind with
  | toString => exact qualified.1
  | hashCode => exact qualified.2
  | equals => exact qualified.2

namespace Synthesis

theorem types_ownFields (names : List String) : Expr.typesOfAll (names.map .ownField) = [] := by
  induction names with
  | nil => rfl
  | cons name rest ih => simp [Expr.typesOfAll, Expr.types, ih]

/-- Comparisons of fields call one helper, however many there are. -/
theorem mem_types_comparisons_iff {objects : TypeName} {names : List String} {comparison : Expr}
    (compared : fieldComparisons? objects names = some comparison) (type : TypeName) :
    type ∈ comparison.types ↔ type = objects := by
  have single (name : String) : (fieldComparison objects name).types = [objects] := rfl
  cases names with
  | nil => simp [fieldComparisons?] at compared
  | cons first rest =>
      obtain rfl := Option.some.inj compared
      -- The induction is on the comparisons that are still to be joined.
      suffices joined : ∀ start : Expr, (type ∈ start.types ↔ type = objects) →
          (type ∈ (rest.foldl (fun joined name =>
            .binary .both joined (fieldComparison objects name)) start).types ↔
              type = objects) from
        joined _ (by simp [single])
      clear compared
      induction rest with
      | nil => exact fun _ holds => holds
      | cons name rest ih =>
          intro start holds
          exact ih _ (by simp [Expr.types, single, holds])

/-- A generated method calls the helper for its kind and no other class. -/
theorem mem_types_iff {helpers : Helpers} {className : String} {names : List String}
    {method : Method} (built : method? helpers className names method.kind = some method)
    (type : TypeName) : type ∈ method.types ↔ type = helpers.typeFor method.kind := by
  cases kind : method.kind with
  | toString =>
      simp only [kind, method?, Option.some.injEq] at built
      rw [← built]
      exact List.mem_singleton
  | hashCode =>
      cases names with
      | nil => simp [kind, method?, hashCodeMethod?] at built
      | cons first rest =>
          simp only [kind, method?, hashCodeMethod?, Option.some.injEq] at built
          rw [← built]
          have read := types_ownFields (first :: rest)
          simp [Method.types, Stmt.typesOfAll, Stmt.types, Expr.types, read, Helpers.typeFor,
            -List.map_cons]
  | equals =>
      simp only [kind, method?, equalsMethod?, Option.map_eq_some_iff] at built
      obtain ⟨comparison, compared, same⟩ := built
      rw [← same]
      simpa [Method.types, Stmt.typesOfAll, Stmt.types, Expr.types, answerIf, Helpers.typeFor,
        Expr.typesOfAll] using mem_types_comparisons_iff compared type

end Synthesis

/-! ## Helpers of a run -/

/-- The helpers are among the options of one of the operations. -/
def ConfiguredIn (operations : List Operation) (helpers : Helpers) : Prop :=
  ∃ operation ∈ operations, ∃ options, operation.options? = some options ∧
    options.helpers = helpers

/-- The method has been built with some of the helpers. -/
def Method.BuiltWith (method : Method) (configured : Helpers → Prop) : Prop :=
  ∃ helpers, configured helpers ∧
    ∃ className names, Synthesis.method? helpers className names method.kind = some method

namespace ClassModel

variable {configured : Helpers → Prop}

/-- The generated methods of all classes have been built with some of the helpers. -/
def BuiltWith (configured : Helpers → Prop) (model : ClassModel) : Prop :=
  ∀ id, ∀ method ∈ model.generatedOf id, method.BuiltWith configured

theorem BuiltWith.of_generatesNothing {before after : ClassModel}
    (built : before.BuiltWith configured) (nothing : before.GeneratesNothing after) :
    after.BuiltWith configured := by
  intro id method member
  cases found : after.class? id with
  | none => simp [generatedOf_of_class?_none found] at member
  | some decl =>
      rw [generatedOf_of_class? found] at member
      cases earlier : before.class? id with
      | none => simp [nothing.new id decl earlier found] at member
      | some old =>
          obtain ⟨changed, foundChanged, same, _⟩ := nothing.old id old earlier
          obtain rfl : changed = decl := by simpa [foundChanged] using found
          exact built id method (by rwa [generatedOf_of_class? earlier, ← same])

theorem BuiltWith.settle {model : ClassModel} (built : model.BuiltWith configured) {plan : Plan}
    (planned : ∀ method, Plan.Generates plan.decisions method → method.BuiltWith configured) :
    (plan.settle model).1.BuiltWith configured := by
  intro id method member
  cases found : (plan.settle model).1.class? id with
  | none => simp [generatedOf_of_class?_none found] at member
  | some decl =>
      rw [generatedOf_of_class? found] at member
      rw [Plan.class?_settle] at found
      split at found
      · obtain ⟨old, earlier, rfl⟩ := Option.map_eq_some_iff.mp found
        rcases (Plan.settled_settleAll old plan.decisions).attached method member with
          kept | ⟨new, _⟩
        · exact built id method (by rwa [generatedOf_of_class? earlier])
        · exact planned method new
      · exact built id method (by rwa [generatedOf_of_class? found])

theorem builtWith_of_generates_plan {model : ClassModel} {options : Options} {id : ClassId}
    {method : Method} (given : configured options.helpers)
    (planned : Plan.Generates (model.plan options id).decisions method) :
    method.BuiltWith configured := by
  obtain ⟨decl, _, _, _, built⟩ := of_generates_plan planned
  exact ⟨options.helpers, given, decl.name, _, built⟩

end ClassModel

/-- What has been generated in the course of operations calls helpers that they were given. -/
theorem Workshop.builtWith_run (operations : List Operation) :
    (empty.run operations).model.BuiltWith (ConfiguredIn operations) := by
  have keeps : Keeps (ClassModel.BuiltWith (ConfiguredIn operations)) fun plan =>
      ∀ method, Plan.Generates plan.decisions method →
        method.BuiltWith (ConfiguredIn operations) := by
    refine ⟨fun model step built => ?_, fun model id outline built => ?_,
      fun _ _ planned built => built.settle planned⟩
    · exact built.of_generatesNothing (model.generatesNothing_after step)
    · exact built.of_generatesNothing (model.generatesNothing_modify id
        (outline.generated_overwrite ·) (fun _ _ owned => owned))
  refine (keeps.run ?_ ?_).1
  · intro id method member
    have missing : ClassModel.empty.class? id = none := rfl
    simp [ClassModel.generatedOf_of_class?_none missing] at member
  · intro operation member options given model id method planned
    exact ClassModel.builtWith_of_generates_plan ⟨operation, member, options, given, rfl⟩ planned

/-! ## Imports of a unit -/

namespace ClassDecl

/-- The helpers that the generated methods of the class call, in order and repeats kept. -/
def usedTypes (decl : ClassDecl) : List TypeName :=
  decl.generated.flatMap Method.types

/-- The class as a type.  The empty package is the default one. -/
def type (decl : ClassDecl) : TypeName where
  package := if decl.package = some "" then none else decl.package
  name := decl.name

/-- The type is neither in `java.lang` nor in the package of the class. -/
def IsForeign (decl : ClassDecl) (type : TypeName) : Prop :=
  type.package ≠ some "java.lang" ∧ type.package ≠ decl.type.package

instance (decl : ClassDecl) (type : TypeName) : Decidable (decl.IsForeign type) :=
  inferInstanceAs (Decidable (_ ∧ _))

/-- One of the import lines is that of the type. -/
def Imports (decl : ClassDecl) (type : TypeName) : Prop :=
  ∃ line ∈ decl.imports, TypeName.parse line = type

/-- No two import lines end in the same simple name, and none ends in the name of the class unless
it is the line of the class. -/
def ImportsApart (decl : ClassDecl) : Prop :=
  (∀ line ∈ decl.imports, ∀ other ∈ decl.imports,
    (TypeName.parse line).name = (TypeName.parse other).name → line = other) ∧
  ∀ line ∈ decl.imports, (TypeName.parse line).name = decl.name → line = decl.qualifiedName

instance (decl : ClassDecl) : Decidable decl.ImportsApart :=
  inferInstanceAs (Decidable (_ ∧ _))

/-- No two foreign helpers share a simple name, and none has the name of the class. -/
def HelpersApart (decl : ClassDecl) : Prop :=
  (∀ type ∈ decl.usedTypes, ∀ other ∈ decl.usedTypes, decl.IsForeign type →
    decl.IsForeign other → type.name = other.name → type = other) ∧
  ∀ type ∈ decl.usedTypes, decl.IsForeign type → type.name ≠ decl.name

instance (decl : ClassDecl) : Decidable decl.HelpersApart :=
  inferInstanceAs (Decidable (_ ∧ _))

variable {decl : ClassDecl}

theorem importsType_iff {type : TypeName} (qualified : type.IsQualified) :
    decl.importsType type = true ↔ decl.IsForeign type := by
  obtain ⟨package, inPackage, nonempty⟩ := qualified.exists_package
  have own : some package ≠ decl.type.package ↔ some package ≠ decl.package := by
    rw [ClassDecl.type]
    split
    · next empty => simp [empty, nonempty]
    · rfl
  rw [importsType, TypeName.needsImport, IsForeign, inPackage, own]
  simp

section Qualified

variable (qualified : ∀ type ∈ decl.usedTypes, type.IsQualified)
include qualified

theorem mem_imports_iff (line : String) :
    line ∈ decl.imports ↔
      ∃ type ∈ decl.usedTypes, decl.IsForeign type ∧ type.qualified = line := by
  simp only [imports, mem_sortedTexts_iff, List.mem_map, List.mem_filter, and_assoc]
  refine exists_congr fun type => and_congr_right fun used => and_congr_left fun _ => ?_
  exact importsType_iff (qualified type used)

/-- The imported types are the foreign ones among those that are used. -/
theorem imports_iff (type : TypeName) :
    decl.Imports type ↔ type ∈ decl.usedTypes ∧ decl.IsForeign type := by
  constructor
  · rintro ⟨line, member, rfl⟩
    obtain ⟨used, isUsed, foreign, rfl⟩ := (mem_imports_iff qualified line).mp member
    rw [(qualified used isUsed).parse_qualified]
    exact ⟨isUsed, foreign⟩
  · rintro ⟨isUsed, foreign⟩
    refine ⟨type.qualified, (mem_imports_iff qualified _).mpr ⟨type, isUsed, foreign, rfl⟩, ?_⟩
    exact (qualified type isUsed).parse_qualified

/-- A class is not foreign to itself. -/
theorem qualified_ne_qualifiedName {type : TypeName} (used : type ∈ decl.usedTypes)
    (foreign : decl.IsForeign type) (named : type.name = decl.name) :
    type.qualified ≠ decl.qualifiedName := by
  intro same
  obtain ⟨package, inPackage, _⟩ := (qualified type used).exists_package
  simp only [TypeName.qualified, inPackage, qualifiedName, qualifyName, named] at same
  have longer : (package ++ "." ++ decl.name) ≠ decl.name := by
    intro same
    have lengths := congrArg String.length same
    simp [String.length_append] at lengths
  split at same
  · next own inOwn =>
      split at same
      · exact longer same
      · next nonempty =>
          obtain rfl : package = own := by simpa using same
          refine foreign.2 (inPackage.trans ?_)
          rw [ClassDecl.type, if_neg, inOwn]
          rw [inOwn, Option.some_inj]
          exact fun empty => nonempty (by simp [empty])
  · exact longer same

/-- The import lines are apart exactly if the imported helpers are. -/
theorem importsApart_iff : decl.ImportsApart ↔ decl.HelpersApart := by
  have lines := mem_imports_iff qualified
  have parsed (type : TypeName) (used : type ∈ decl.usedTypes) :
      TypeName.parse type.qualified = type :=
    (qualified type used).parse_qualified
  constructor
  · rintro ⟨different, notOwn⟩
    constructor
    · intro type used other usedToo foreign foreignToo named
      have same := different _ ((lines _).mpr ⟨type, used, foreign, rfl⟩) _
        ((lines _).mpr ⟨other, usedToo, foreignToo, rfl⟩)
      rw [parsed type used, parsed other usedToo] at same
      rw [← parsed type used, ← parsed other usedToo, same named]
    · intro type used foreign named
      have same := notOwn _ ((lines _).mpr ⟨type, used, foreign, rfl⟩)
      rw [parsed type used] at same
      exact qualified_ne_qualifiedName qualified used foreign named (same named)
  · rintro ⟨different, notOwn⟩
    constructor
    · intro line member other memberToo named
      obtain ⟨type, used, foreign, rfl⟩ := (lines line).mp member
      obtain ⟨second, usedToo, foreignToo, rfl⟩ := (lines other).mp memberToo
      rw [parsed type used, parsed second usedToo] at named
      rw [different type used second usedToo foreign foreignToo named]
    · intro line member named
      obtain ⟨type, used, foreign, rfl⟩ := (lines line).mp member
      rw [parsed type used] at named
      exact absurd named (notOwn type used foreign)

end Qualified

/-! ## Looking names up -/

/-- The name is taken in the unit, by the class or by an import line. -/
def Binds (decl : ClassDecl) (name : String) : Prop :=
  name = decl.name ∨ ∃ type, decl.Imports type ∧ type.name = name

/-- What a simple name means as the name of a type.  The class and the imports come first, then the
classes of the package, and the classes of `java.lang` come last. -/
inductive Means (known : TypeName → Prop) (decl : ClassDecl) : String → TypeName → Prop
  | declared : Means known decl decl.name decl.type
  | imported {type : TypeName} : decl.Imports type → Means known decl type.name type
  | neighbour {name : String} : ¬decl.Binds name → known ⟨decl.type.package, name⟩ →
      Means known decl name ⟨decl.type.package, name⟩
  | standard {name : String} : ¬decl.Binds name → ¬known ⟨decl.type.package, name⟩ →
      known ⟨some "java.lang", name⟩ → Means known decl name ⟨some "java.lang", name⟩

/-- Nothing that is looked up earlier than the type has its name. -/
structure Clear (known : TypeName → Prop) (decl : ClassDecl) (type : TypeName) : Prop where
  declared : type.name = decl.name → type = decl.type
  imported : ∀ other ∈ decl.usedTypes, decl.IsForeign other → other.name = type.name → other = type
  neighbour : type.package = some "java.lang" → decl.type.package ≠ some "java.lang" →
    ¬known ⟨decl.type.package, type.name⟩

instance (known : TypeName → Prop) [DecidablePred known] (type : TypeName) :
    Decidable (Clear known decl type) :=
  decidable_of_iff
    ((type.name = decl.name → type = decl.type) ∧
      (∀ other ∈ decl.usedTypes, decl.IsForeign other → other.name = type.name → other = type) ∧
      (type.package = some "java.lang" → decl.type.package ≠ some "java.lang" →
        ¬known ⟨decl.type.package, type.name⟩))
    ⟨fun ⟨declared, imported, neighbour⟩ => ⟨declared, imported, neighbour⟩,
      fun ⟨declared, imported, neighbour⟩ => ⟨declared, imported, neighbour⟩⟩

/-- The simple name of a type that is used means this type and no other exactly if nothing that is
looked up earlier has the name. -/
theorem means_iff_clear {known : TypeName → Prop} {type : TypeName}
    (qualified : ∀ type ∈ decl.usedTypes, type.IsQualified) (used : type ∈ decl.usedTypes)
    (found : known type) :
    (∀ other, Means known decl type.name other ↔ other = type) ↔ Clear known decl type := by
  have imports := imports_iff qualified
  constructor
  · intro means
    refine ⟨fun named => ?_, fun other usedToo foreign named => ?_, fun standard own near => ?_⟩
    · exact ((means decl.type).mp (named ▸ .declared)).symm
    · exact (means other).mp (named ▸ .imported ((imports other).mpr ⟨usedToo, foreign⟩))
    · have notOwn : type ≠ decl.type := fun same => own (same ▸ standard)
      have notImported : ¬decl.IsForeign type := fun foreign => foreign.1 standard
      by_cases bound : decl.Binds type.name
      · rcases bound with named | ⟨other, imported, named⟩
        · exact notOwn ((means decl.type).mp (named ▸ .declared)).symm
        · obtain rfl := (means other).mp (named ▸ .imported imported)
          exact notImported ((imports other).mp imported).2
      · have same := (means _).mp (.neighbour bound near)
        exact own (by rw [← standard, ← same])
  · intro clear
    have elsewhere (free : ¬decl.Binds type.name) :
        type = ⟨decl.type.package, type.name⟩ ∨
          type = ⟨some "java.lang", type.name⟩ ∧ ¬known ⟨decl.type.package, type.name⟩ := by
      have inside : ¬decl.IsForeign type := fun foreign =>
        free (.inr ⟨type, (imports type).mpr ⟨used, foreign⟩, rfl⟩)
      by_cases own : type.package = decl.type.package
      · exact .inl (by rw [← own])
      · have standard : type.package = some "java.lang" := by
          by_contra other
          exact inside ⟨other, own⟩
        exact .inr ⟨by rw [← standard], clear.neighbour standard fun same =>
          own (standard.trans same.symm)⟩
    intro other
    constructor
    · generalize named : type.name = name
      rintro (_ | imported | ⟨free, near⟩ | ⟨free, absent, _⟩)
      · exact (clear.declared named).symm
      · obtain ⟨usedToo, foreign⟩ := (imports _).mp imported
        exact clear.imported _ usedToo foreign named.symm
      · subst named
        rcases elsewhere free with same | ⟨_, absent⟩
        · exact same.symm
        · exact absurd near absent
      · subst named
        rcases elsewhere free with same | ⟨same, _⟩
        · exact absurd (same ▸ found) absent
        · exact same.symm
    · rintro rfl
      by_cases bound : decl.Binds other.name
      · rcases bound with named | ⟨second, imported, named⟩
        · rw [clear.declared named]
          exact .declared
        · obtain ⟨usedToo, foreign⟩ := (imports _).mp imported
          rw [← clear.imported second usedToo foreign named]
          exact .imported imported
      · rcases elsewhere bound with same | ⟨same, absent⟩
        · rw [same] at found ⊢
          exact .neighbour bound found
        · rw [same] at found ⊢
          exact .standard bound absent found

end ClassDecl

/-! ## Helpers in generated methods -/

/-- The variables that the body of a method may name: its parameters and its local variables. -/
def Method.variables (method : Method) : List String :=
  method.parameters.map Parameter.name ++ method.body.flatMap fun statement =>
    match statement with
    | .declare _ name _ => [name]
    | _ => []

/-- The variables that are in scope in a method of a class, its fields and inherited ones among
them. -/
def ClassModel.variablesIn (model : ClassModel) (id : ClassId) (method : Method) : List String :=
  method.variables ++ (model.fieldsOf id ++ model.ancestorFields id).map Field.name

/-- In a method of a class, the simple name of a type denotes this type.  It is not the name of a
variable, since that would come first, and it means no other type. -/
def ClassModel.Denotes (known : TypeName → Prop) (model : ClassModel) (id : ClassId)
    (method : Method) (type : TypeName) : Prop :=
  type.name ∉ model.variablesIn id method ∧
    ∃ decl, model.class? id = some decl ∧
      ∀ other, decl.Means known type.name other ↔ other = type

/-- After any operations with qualified helpers, a generated method calls the helper for its kind of
one of the runs or plans.  The import lines of a unit are apart exactly if no two foreign helpers
share a simple name and none has the name of the class, and the name that is written for a helper
denotes it exactly if no variable, no class and no other import comes first. -/
theorem helper_names_denote_iff (operations : List Operation)
    (qualified : ∀ helpers, ConfiguredIn operations helpers → helpers.AreQualified) {id : ClassId}
    {decl : ClassDecl} (found : (Workshop.empty.run operations).model.class? id = some decl) :
    let model := (Workshop.empty.run operations).model
    (∀ method ∈ decl.generated, ∃ helpers, ConfiguredIn operations helpers ∧
      ∀ type, type ∈ method.types ↔ type = helpers.typeFor method.kind) ∧
    (decl.ImportsApart ↔ decl.HelpersApart) ∧
    ∀ known : TypeName → Prop, (∀ type ∈ decl.usedTypes, known type) →
      ∀ method ∈ decl.generated, ∀ type ∈ method.types,
        (model.Denotes known id method type ↔
          type.name ∉ model.variablesIn id method ∧ decl.Clear known type) := by
  intro model
  have helper : ∀ method ∈ decl.generated, ∃ helpers, ConfiguredIn operations helpers ∧
      ∀ type, type ∈ method.types ↔ type = helpers.typeFor method.kind := by
    intro method member
    rw [← ClassModel.generatedOf_of_class? found] at member
    obtain ⟨helpers, configured, className, names, built⟩ :=
      Workshop.builtWith_run operations id method member
    exact ⟨helpers, configured, Synthesis.mem_types_iff built⟩
  have used : ∀ type ∈ decl.usedTypes, type.IsQualified := by
    intro type isUsed
    obtain ⟨method, member, named⟩ := List.mem_flatMap.mp isUsed
    obtain ⟨helpers, configured, types⟩ := helper method member
    rw [(types type).mp named]
    exact (qualified helpers configured).typeFor method.kind
  refine ⟨helper, ClassDecl.importsApart_iff used, ?_⟩
  intro known exist method member type named
  have isUsed : type ∈ decl.usedTypes := List.mem_flatMap.mpr ⟨method, member, named⟩
  refine and_congr_right fun _ => ?_
  rw [← ClassDecl.means_iff_clear used isUsed (exist type isUsed)]
  constructor
  · rintro ⟨other, foundToo, means⟩
    obtain rfl : decl = other := Option.some.inj (found.symm.trans foundToo)
    exact means
  · exact fun means => ⟨decl, found, means⟩

/-! ### Names that clash -/

/-- A generation run over one class of package `p` with one field. -/
def runOver (name : String) (helpers : Helpers) : List Operation :=
  [.build (.addClass ⟨name, some "p", false, [⟨"x", "int", false⟩], none⟩ []),
    .generate ⟨false, helpers⟩]

theorem eq_of_configuredIn_runOver {name : String} {helpers other : Helpers}
    (configured : ConfiguredIn (runOver name helpers) other) : other = helpers := by
  obtain ⟨operation, member, options, given, rfl⟩ := configured
  rcases List.mem_pair.mp member with rfl | rfl
  · simp [Operation.options?] at given
  · rw [← Option.some.inj given]

/-- In a class called `Objects`, the name `MoreObjects` denotes the helper and `Objects` does
not. -/
theorem helper_names_in_class_like_helper :
    (∀ helpers, ConfiguredIn (runOver "Objects" .default) helpers → helpers.AreQualified) ∧
    ∃ decl, (Workshop.empty.run (runOver "Objects" .default)).model.class? 0 = some decl ∧
      ¬decl.ImportsApart ∧
      ∀ method ∈ decl.generated, ∀ type ∈ method.types,
        ((Workshop.empty.run (runOver "Objects" .default)).model.Denotes (fun _ => True) 0 method
          type ↔ type.name ≠ "Objects") := by
  have qualified : ∀ helpers, ConfiguredIn (runOver "Objects" .default) helpers →
      helpers.AreQualified := by
    intro helpers configured
    rw [eq_of_configuredIn_runOver configured]
    decide +kernel
  obtain ⟨decl, found, clash, clear⟩ : ∃ decl,
      (Workshop.empty.run (runOver "Objects" .default)).model.class? 0 = some decl ∧
      ¬decl.HelpersApart ∧
      ∀ method ∈ decl.generated, ∀ type ∈ method.types,
        (type.name ∉
            (Workshop.empty.run (runOver "Objects" .default)).model.variablesIn 0 method ∧
          decl.Clear (fun _ => True) type ↔ type.name ≠ "Objects") :=
    ⟨_, rfl, by decide +kernel, by decide +kernel⟩
  obtain ⟨_, apart, denotes⟩ :=
    helper_names_denote_iff (runOver "Objects" .default) qualified found
  refine ⟨qualified, decl, found, mt apart.mp clash, fun method member type named => ?_⟩
  exact (denotes (fun _ => True) (fun _ _ => trivial) method member type named).trans
    (clear method member type named)

/-- A unit can import a class with the name of its own, and two classes of one name.  If it imports
one of two helpers of one name and the other is in its package, both names denote the imported
one. -/
theorem helper_names_clash :
    (¬∀ operations : List Operation,
      (∀ helpers, ConfiguredIn operations helpers → helpers.AreQualified) →
        ∀ id decl, (Workshop.empty.run operations).model.class? id = some decl →
          decl.ImportsApart) ∧
    (∃ decl, (Workshop.empty.run (runOver "Objects" .default)).model.class? 0 = some decl ∧
      decl.imports = ["com.google.common.base.MoreObjects", "java.util.Objects"]) ∧
    (∃ decl, (Workshop.empty.run (runOver "C" ⟨"a.H", "b.H"⟩)).model.class? 0 = some decl ∧
      decl.imports = ["a.H", "b.H"] ∧ ¬decl.ImportsApart) ∧
    ∃ decl, (Workshop.empty.run (runOver "C" ⟨"p.H", "b.H"⟩)).model.class? 0 = some decl ∧
      decl.imports = ["b.H"] ∧ decl.ImportsApart ∧ (⟨some "p", "H"⟩ : TypeName) ∈ decl.usedTypes ∧
      ∀ known, decl.Means known "H" ⟨some "b", "H"⟩ := by
  refine ⟨fun always => ?_, ⟨_, rfl, by decide +kernel⟩,
    ⟨_, rfl, by decide +kernel, by decide +kernel⟩, ?_⟩
  · have apart := always (runOver "Objects" .default) (fun helpers configured => by
      rw [eq_of_configuredIn_runOver configured]
      decide +kernel) 0 _ rfl
    exact absurd apart (by decide +kernel)
  · obtain ⟨decl, found, listed, apart, used⟩ : ∃ decl,
        (Workshop.empty.run (runOver "C" ⟨"p.H", "b.H"⟩)).model.class? 0 = some decl ∧
        decl.imports = ["b.H"] ∧ decl.ImportsApart ∧ ⟨some "p", "H"⟩ ∈ decl.usedTypes :=
      ⟨_, rfl, by decide +kernel, by decide +kernel, by decide +kernel⟩
    have imported : decl.Imports ⟨some "b", "H"⟩ := ⟨"b.H", by simp [listed], by decide +kernel⟩
    exact ⟨decl, found, listed, apart, used, fun _ => .imported imported⟩

end ValueMethods
