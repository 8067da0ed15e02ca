import ValueMethods.Proofs.Acceptance
import ValueMethods.Proofs.Hierarchy
import ValueMethods.Source.Unit

/-!
# What a printed superclass names

The head of a class names its superclass, by the simple name if both are in the same package and by
the qualified name otherwise.  As long as simple names have no dots, that name means the superclass
again, also for a superclass of the default package, which has no name but its simple one.  So a
document with the printed names in place of its own describes the same model.
-/

namespace ValueMethods

/-- A qualified name without a dot is a simple name. -/
theorem qualifyName_of_not_dotted {package : Option String} {name : String}
    (plain : '.' ∉ (qualifyName package name).toList) : qualifyName package name = name := by
  unfold qualifyName at plain ⊢
  split at plain
  · next package =>
      split at plain
      · next empty => exact if_pos empty
      · simp at plain
  · rfl

namespace ClassModel

variable {model : ClassModel}

/-- What a name says about the superclass of a class. -/
def superclassNamed (model : ClassModel) (id : ClassId) (name : String) : Superclass :=
  match model.resolveFrom id name with
  | some parent => .inModel parent
  | none => .external name

theorem superclassNamed_eq_inModel_iff {id parent : ClassId} {name : String} :
    model.superclassNamed id name = .inModel parent ↔ model.resolveFrom id name = some parent := by
  unfold superclassNamed
  split
  · next found => simp [found]
  · next missing => simp [missing]

theorem superclassNamed_eq_external_iff {id : ClassId} {name other : String} :
    model.superclassNamed id name = .external other ↔
      name = other ∧ model.resolveFrom id name = none := by
  unfold superclassNamed
  split
  · next found => simp [found]
  · next missing => simp [missing]

/-- A class is found by its qualified or by its simple name. -/
theorem Indexed.of_find? (indexed : model.Indexed) {name : String} {id : ClassId}
    (found : model.find? name = some id) :
    ∃ decl, model.class? id = some decl ∧ (decl.qualifiedName = name ∨ decl.name = name) := by
  cases known : model.index.lookup name with
  | some other =>
      rw [find?, known] at found
      obtain rfl := Option.some.inj found
      obtain ⟨decl, here, named⟩ := (indexed name other).mp known
      exact ⟨decl, here, .inl named⟩
  | none =>
      have only := (find?_eq_some_iff_namesakes known id).mp found
      obtain ⟨decl, here, named⟩ := mem_namesakes_iff.mp (only ▸ List.mem_singleton_self id)
      exact ⟨decl, here, .inr named⟩

/-- A name means the class that has it, or the one that has it behind the package of the child. -/
theorem find?_of_resolveFrom {child parent : ClassId} {decl : ClassDecl} {name : String}
    (found : model.class? child = some decl) (meant : model.resolveFrom child name = some parent) :
    model.find? name = some parent ∨ model.find? (qualifyName decl.package name) = some parent := by
  rw [resolveFrom, found, Option.bind_some, resolveName] at meant
  split at meant
  · exact .inl meant
  · split at meant
    · next sibling => exact .inr (sibling.trans meant)
    · exact .inl meant

theorem Indexed.exists_class?_of_resolveFrom (indexed : model.Indexed) {child parent : ClassId}
    {decl : ClassDecl} {name : String} (found : model.class? child = some decl)
    (meant : model.resolveFrom child name = some parent) :
    ∃ above, model.class? parent = some above := by
  rcases find?_of_resolveFrom found meant with direct | sibling
  · exact (indexed.of_find? direct).imp fun _ named => named.1
  · exact (indexed.of_find? sibling).imp fun _ named => named.1

section Simple

variable (indexed : model.Indexed)
  (simple : ∀ id decl, model.class? id = some decl → '.' ∉ decl.name.toList)
  {child parent : ClassId} {decl above : ClassDecl} {name : String}
include indexed simple

/-- A class of the default package is only meant by its simple name. -/
theorem Indexed.eq_name_of_resolveFrom (found : model.class? child = some decl)
    (foundAbove : model.class? parent = some above)
    (meant : model.resolveFrom child name = some parent)
    (unpackaged : above.qualifiedName = above.name) : name = above.name := by
  have searched {text : String} (reached : model.find? text = some parent) : text = above.name := by
    obtain ⟨other, here, named⟩ := indexed.of_find? reached
    obtain rfl := Option.some.inj (foundAbove.symm.trans here)
    rw [unpackaged, or_self] at named
    exact named.symm
  rcases find?_of_resolveFrom found meant with direct | sibling
  · exact searched direct
  · have plain := simple parent above foundAbove
    rw [← searched sibling] at plain ⊢
    exact (qualifyName_of_not_dotted plain).symm

/-- The name that is printed for a superclass means it again. -/
theorem Indexed.resolveFrom_printed (found : model.class? child = some decl)
    (foundAbove : model.class? parent = some above)
    (meant : model.resolveFrom child name = some parent) :
    model.resolveFrom child
      (if above.package = decl.package then above.name else above.qualifiedName) = some parent := by
  have known := indexed.find?_qualifiedName foundAbove
  split
  · next samePackage =>
      have sibling : qualifyName decl.package above.name = above.qualifiedName :=
        congrArg (qualifyName · above.name) samePackage.symm
      rw [resolveFrom, found, Option.bind_some, resolveName,
        if_neg (by simpa using simple parent above foundAbove), sibling, known]
  · by_cases dotted : '.' ∈ above.qualifiedName.toList
    · rw [resolveFrom, resolveName, if_pos (by simpa using dotted), known]
    · have unpackaged : above.qualifiedName = above.name := qualifyName_of_not_dotted dotted
      rw [unpackaged, ← indexed.eq_name_of_resolveFrom simple found foundAbove meant unpackaged]
      exact meant

end Simple

end ClassModel

/-! ## Superclasses in units -/

/-- The unit of a class with `text` as the name of its superclass. -/
def ClassDecl.unitExtending (decl : ClassDecl) (text : String) : String :=
  "// Generated by valuegen. Do not edit manually.\n" ++ decl.packageText ++ decl.importText ++
    "\n" ++ ((if decl.isAbstract then "public abstract" else "public") ++ " class " ++ decl.name ++
      (" extends " ++ text) ++ " \x7b\n") ++ decl.fieldsText ++
    Text.concat (decl.declaredMethods.map decl.declaredText) ++
    Text.concat (decl.generated.map fun method => "\n" ++ method.text 1) ++ "\x7d\n"

theorem ClassModel.unit_of_superclassText {model : ClassModel} {id : ClassId} {decl : ClassDecl}
    {text : String} (found : model.class? id = some decl)
    (written : model.superclassText decl = some text) :
    model.unit id = decl.unitExtending text := by
  have head : model.headText decl =
      (if decl.isAbstract then "public abstract" else "public") ++ " class " ++ decl.name ++
        (" extends " ++ text) ++ " \x7b\n" := by
    unfold headText
    rw [written]
  have rendered : model.unit id = model.unitOf decl := by
    rw [unit, found, Option.elim_some]
  rw [rendered]
  unfold unitOf ClassDecl.unitExtending
  rw [head]

namespace Document

variable {document : Document} {model : ClassModel}

theorem superclassOf_eq_map (document : Document) (id : ClassId) :
    document.superclassOf id =
      (document.classes[id]?.bind ClassEntry.superclass).map
        (document.unlinked.superclassNamed id) := rfl

section Loaded

variable (loads : document.model = .ok model)
include loads

theorem resolveFrom_of_model (id : ClassId) (name : String) :
    model.resolveFrom id name = document.unlinked.resolveFrom id name := by
  obtain ⟨_, _, rfl⟩ := of_model_eq_ok loads
  exact document.resolveFrom_linkedUpTo _ id name

theorem superclass_of_model {id : ClassId} {decl : ClassDecl}
    (found : model.class? id = some decl) : decl.superclass = document.superclassOf id := by
  obtain ⟨_, _, rfl⟩ := of_model_eq_ok loads
  rw [class?_linkedUpTo] at found
  obtain ⟨entry, here, rfl⟩ := Option.map_eq_some_iff.mp found
  exact if_pos (List.getElem?_eq_some_iff.mp here).1

theorem superclassNamed_unlinked (id : ClassId) :
    document.unlinked.superclassNamed id = model.superclassNamed id := by
  funext name
  rw [ClassModel.superclassNamed, ← resolveFrom_of_model loads]
  rfl

/-- The printed name says about the superclass what the document says. -/
theorem superclassNamed_superclassText
    (simple : ∀ decl ∈ model.classes, '.' ∉ decl.name.toList) {id : ClassId} {decl : ClassDecl}
    (found : model.class? id = some decl) :
    (model.superclassText decl).map (model.superclassNamed id) = decl.superclass := by
  have indexed := (ClassModel.Built.fromDocument loads).orderly.indexed
  have sound := superclass_of_model loads found
  rw [superclassOf_eq_map, superclassNamed_unlinked loads] at sound
  rw [ClassModel.superclassText]
  cases extended : decl.superclass with
  | none => rfl
  | some superclass =>
      rw [extended, eq_comm, Option.map_eq_some_iff] at sound
      obtain ⟨name, _, means⟩ := sound
      cases superclass with
      | external other =>
          obtain ⟨rfl, _⟩ := ClassModel.superclassNamed_eq_external_iff.mp means
          exact congrArg some means
      | inModel parent =>
          have meant := ClassModel.superclassNamed_eq_inModel_iff.mp means
          obtain ⟨above, foundAbove⟩ := indexed.exists_class?_of_resolveFrom found meant
          have printed := indexed.resolveFrom_printed
            (fun id decl here => simple decl (List.mem_of_getElem? here)) found foundAbove meant
          simp only [foundAbove, Option.map_some, Option.some.injEq]
          exact ClassModel.superclassNamed_eq_inModel_iff.mpr printed

end Loaded

/-! ## The document with the printed names -/

/-- The document in which each class extends what is printed for it. -/
def reprinted (document : Document) (model : ClassModel) : Document :=
  { document with
    classes := document.classes.mapIdx fun id entry =>
      { entry with superclass := (model.class? id).bind model.superclassText } }

theorem getElem?_reprinted (document : Document) (model : ClassModel) (id : ClassId) :
    (document.reprinted model).classes[id]? = document.classes[id]?.map fun entry =>
      { entry with superclass := (model.class? id).bind model.superclassText } :=
  List.getElem?_mapIdx

theorem map_reprinted {α : Type} (document : Document) (model : ClassModel)
    (view : ClassEntry → α)
    (blind : ∀ entry superclass, view { entry with superclass } = view entry) :
    (document.reprinted model).classes.map view = document.classes.map view := by
  apply List.ext_getElem?
  intro id
  rw [List.getElem?_map, List.getElem?_map, getElem?_reprinted, Option.map_map]
  exact congrArg (Option.map · _) (funext fun entry => blind entry _)

theorem unlinked_reprinted (document : Document) (model : ClassModel) :
    (document.reprinted model).unlinked = document.unlinked := by
  have decls := document.map_reprinted model (fun entry => entry.decl document.package)
    fun _ _ => rfl
  have names := document.map_reprinted model (ClassEntry.qualifiedName document.package)
    fun _ _ => rfl
  unfold unlinked ClassModel.ofEntries
  exact congrArg₂ ClassModel.mk decls (congrArg List.zipIdx names)

theorem faultless_reprinted
    (faultless : ClassEntry.Faultless document.package document.classes) (model : ClassModel) :
    ClassEntry.Faultless (document.reprinted model).package (document.reprinted model).classes where
  names := by
    rw [document.map_reprinted model _ fun _ _ => rfl]
    exact faultless.names
  fields := by
    have same := document.map_reprinted model ClassEntry.fieldNames fun _ _ => rfl
    rw [← List.forall_mem_map, same, List.forall_mem_map]
    exact faultless.fields

section Loaded

variable (loads : document.model = .ok model)
  (simple : ∀ decl ∈ model.classes, '.' ∉ decl.name.toList)
include loads simple

theorem superclassOf_reprinted (id : ClassId) :
    (document.reprinted model).superclassOf id = document.superclassOf id := by
  rw [superclassOf_eq_map, getElem?_reprinted, unlinked_reprinted,
    superclassNamed_unlinked loads]
  cases here : document.classes[id]? with
  | none => rw [superclassOf, here]; rfl
  | some entry =>
      obtain ⟨decl, found⟩ : ∃ decl, model.class? id = some decl := by
        obtain ⟨_, _, rfl⟩ := of_model_eq_ok loads
        exact ⟨_, by rw [class?_linkedUpTo, here, Option.map_some]⟩
      rw [Option.map_some, Option.bind_some, found, Option.bind_some,
        superclassNamed_superclassText loads simple found, superclass_of_model loads found]

theorem linkedUpTo_reprinted (count : Nat) :
    (document.reprinted model).linkedUpTo count = document.linkedUpTo count := by
  induction count with
  | zero => exact document.unlinked_reprinted model
  | succ count ih =>
      rw [linkedUpTo, linkedUpTo, ih, superclassOf_reprinted loads simple]

theorem isCycle_reprinted_iff {members : List ClassId} :
    (document.reprinted model).IsCycle members ↔ document.IsCycle members := by
  have sameExtends : (document.reprinted model).Extends = document.Extends := by
    funext child parent
    rw [Extends, superclassOf_reprinted loads simple]
    rfl
  rw [IsCycle, sameExtends]
  rfl

/-- The printed names describe the same model. -/
theorem model_reprinted : (document.reprinted model).model = .ok model := by
  obtain ⟨faultless, noCycle, linked⟩ := of_model_eq_ok loads
  rcases model_of_faultless (faultless_reprinted faultless model) with
    ⟨_, reloaded⟩ | ⟨culprit, closes, _⟩
  · have sameLength : (document.reprinted model).classes.length = document.classes.length :=
      List.length_mapIdx
    rw [reloaded, sameLength, linkedUpTo_reprinted loads simple, linked]
  · obtain ⟨members, cycle, _⟩ := closes.exists_isCycle
    exact absurd ((isCycle_reprinted_iff loads simple).mp cycle) (noCycle members)

end Loaded

end Document

/-- In a model that a document describes, and in which no simple name has a dot, the name that a
class prints for its superclass means that superclass; for one outside of the model it is the name
in the document, and no class of the model answers to it.  With the printed names, the document
describes the same model. -/
theorem Document.printed_superclasses_resolve {document : Document} {model : ClassModel}
    (loads : document.model = .ok model)
    (simple : ∀ decl ∈ model.classes, '.' ∉ decl.name.toList) :
    (∀ id decl superclass, model.class? id = some decl → decl.superclass = some superclass →
      ∃ text, model.superclassText decl = some text ∧
        model.unit id = decl.unitExtending text ∧
        match superclass with
        | .inModel parent => model.resolveFrom id text = some parent
        | .external name => text = name ∧
            document.classes[id]?.bind ClassEntry.superclass = some name ∧
            model.resolveFrom id text = none) ∧
    (document.reprinted model).model = .ok model := by
  refine ⟨?_, model_reprinted loads simple⟩
  intro id decl superclass found extended
  have named := superclassNamed_superclassText loads simple found
  rw [extended, Option.map_eq_some_iff] at named
  obtain ⟨text, written, means⟩ := named
  refine ⟨text, written, ClassModel.unit_of_superclassText found written, ?_⟩
  cases superclass with
  | inModel parent => exact ClassModel.superclassNamed_eq_inModel_iff.mp means
  | external name =>
      obtain ⟨rfl, outside⟩ := ClassModel.superclassNamed_eq_external_iff.mp means
      refine ⟨rfl, ?_, outside⟩
      have sound := superclass_of_model loads found
      rw [extended, superclassOf_eq_map, superclassNamed_unlinked loads, eq_comm,
        Option.map_eq_some_iff] at sound
      obtain ⟨said, here, meansSaid⟩ := sound
      rw [here, (ClassModel.superclassNamed_eq_external_iff.mp meansSaid).1]

/-! ### One name for two superclasses -/

/-- Two classes of one name, one of which has no package, and classes that extend them or a class
of no document. -/
def namesakeBases : Document where
  package := none
  classes :=
    [⟨"Base", none, none, false, [], []⟩,
      ⟨"Base", some "a", none, false, [], []⟩,
      ⟨"Inner", some "a", some "Base", false, [], []⟩,
      ⟨"Outer", some "b", some "Base", true, [], []⟩,
      ⟨"Last", some "b", some "java.util.List", false, [], []⟩]

/-- Two classes extend different classes by one printed name. -/
theorem Document.printed_superclasses_resolve_on_namesakeBases :
    ∃ model inner outer last, namesakeBases.model = .ok model ∧
      (∀ decl ∈ model.classes, '.' ∉ decl.name.toList) ∧
      (model.class? 2 = some inner ∧ inner.superclass = some (.inModel 1) ∧
        model.unit 2 = inner.unitExtending "Base" ∧ model.resolveFrom 2 "Base" = some 1) ∧
      (model.class? 3 = some outer ∧ outer.superclass = some (.inModel 0) ∧
        model.unit 3 = outer.unitExtending "Base" ∧ model.resolveFrom 3 "Base" = some 0) ∧
      (model.class? 4 = some last ∧ last.superclass = some (.external "java.util.List") ∧
        model.unit 4 = last.unitExtending "java.util.List" ∧
        model.resolveFrom 4 "java.util.List" = none) ∧
      (namesakeBases.reprinted model).model = .ok model := by
  have loaded : namesakeBases.model.toOption.isSome = true := by decide +kernel
  have plain : ∀ model ∈ namesakeBases.model.toOption, ∀ decl ∈ model.classes,
      '.' ∉ decl.name.toList := by decide +kernel
  have printed : ∀ model ∈ namesakeBases.model.toOption, [2, 3, 4].map (fun id =>
      (model.class? id).map fun decl => (decl.superclass, model.superclassText decl)) =
        [some (some (.inModel 1), some "Base"), some (some (.inModel 0), some "Base"),
          some (some (.external "java.util.List"), some "java.util.List")] := by
    decide +kernel
  cases loads : namesakeBases.model with
  | error error => simp [loads, Except.toOption] at loaded
  | ok model =>
      have simple := plain model (by simp [loads, Except.toOption])
      have texts := printed model (by simp [loads, Except.toOption])
      simp only [List.map_cons, List.map_nil, List.cons.injEq, and_true, Option.map_eq_some_iff,
        Prod.mk.injEq] at texts
      obtain ⟨⟨inner, foundInner, extendsInner, textInner⟩,
        ⟨outer, foundOuter, extendsOuter, textOuter⟩, last, foundLast, extendsLast, textLast⟩ :=
          texts
      obtain ⟨resolve, reloads⟩ := Document.printed_superclasses_resolve loads simple
      obtain ⟨_, sameInner, unitInner, meansInner⟩ := resolve 2 inner _ foundInner extendsInner
      obtain ⟨_, sameOuter, unitOuter, meansOuter⟩ := resolve 3 outer _ foundOuter extendsOuter
      obtain ⟨_, _, unitLast, rfl, _, outside⟩ := resolve 4 last _ foundLast extendsLast
      obtain rfl := Option.some.inj (textInner.symm.trans sameInner)
      obtain rfl := Option.some.inj (textOuter.symm.trans sameOuter)
      exact ⟨model, inner, outer, last, rfl, simple,
        ⟨foundInner, extendsInner, unitInner, meansInner⟩,
        ⟨foundOuter, extendsOuter, unitOuter, meansOuter⟩,
        ⟨foundLast, extendsLast, unitLast, outside⟩, reloads⟩

end ValueMethods
