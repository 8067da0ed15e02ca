import ValueMethods.Proofs.Construction
import ValueMethods.Proofs.Settling

/-!
# Working on a model

A model may be built further, overwritten, generated for and settled in any order, and a plan may be
settled long after it was made.  Through all of this the `hashCode` and the `equals` that a class
has been given stay together: they read the same fields, and a class with one of them generated owns
both signatures.  What carries this is that no plan generates one of them for a class that is left
without the other.
-/

namespace ValueMethods

/-! ## Operations -/

/-- What can be done to a model before something is evaluated on it. -/
inductive Operation where
  /-- A step in building the model. -/
  | build (step : Construction)
  /-- Replaces the open parts of a class. -/
  | overwrite (id : ClassId) (outline : Outline)
  /-- A generation run. -/
  | generate (options : Options)
  /-- Makes a plan for a class and keeps it. -/
  | prepare (options : Options) (id : ClassId)
  /-- Settles one of the plans that have been kept, whatever has happened since. -/
  | settle (position : Nat)

/-- A model that is being worked on. -/
structure Workshop where
  /-- The model. -/
  model : ClassModel
  /-- The plans that have been kept, in the order in which they were made. -/
  plans : List Plan

namespace Workshop

/-- The start: a model without classes, and no plans. -/
def empty : Workshop where
  model := .empty
  plans := []

/-- Carries out one operation. -/
def step (workshop : Workshop) : Operation → Workshop
  | .build step => { workshop with model := workshop.model.after step }
  | .overwrite id outline =>
      { workshop with model := workshop.model.modify id outline.overwrite }
  | .generate options => { workshop with model := (workshop.model.generate options).1 }
  | .prepare options id =>
      { workshop with plans := workshop.plans ++ [workshop.model.plan options id] }
  | .settle position =>
      match workshop.plans[position]? with
      | some plan => { workshop with model := (plan.settle workshop.model).1 }
      | none => workshop

/-- Carries out operations in order. -/
def run (workshop : Workshop) (operations : List Operation) : Workshop :=
  operations.foldl step workshop

end Workshop

/-! ## What stays together -/

/-- The generated `hashCode` and `equals` of the class belong together. -/
structure ClassDecl.Coherent (decl : ClassDecl) : Prop where
  /-- Every generated method has been built for some class name and fields. -/
  built : ∀ method ∈ decl.generated, ∃ className names, method.BuiltFor className names
  /-- Every generated `hashCode` and `equals` reads the same fields. -/
  sameFields : ∃ names, ∀ method ∈ decl.generated, method.kind ≠ .toString →
    ∃ className, method.BuiltFor className names
  /-- If one of them is generated, the class has both. -/
  ownsBoth : ∀ method ∈ decl.generated, method.kind ≠ .toString →
    ∀ kind : ValueMethod, kind ≠ .toString → decl.hasMethod kind.signature = true

/-- The `hashCode` and `equals` that decisions about a class generate belong together. -/
structure Plan.Paired (decisions : List (ValueMethod × Decision)) (decl : ClassDecl) : Prop where
  /-- Every method has been built for some class name and fields. -/
  built : ∀ method, Generates decisions method → ∃ className names, method.BuiltFor className names
  /-- Every `hashCode` and `equals` reads the same fields. -/
  sameFields : ∃ names, ∀ method, Generates decisions method → method.kind ≠ .toString →
    ∃ className, method.BuiltFor className names
  /-- If one of them is generated, so is the other, unless the class has it. -/
  both : ∀ method, Generates decisions method → method.kind ≠ .toString →
    ∀ kind : ValueMethod, kind ≠ .toString →
      (∃ other, Generates decisions other ∧ other.kind = kind) ∨
        decl.hasMethod kind.signature = true

/-- Settling paired decisions keeps together what belongs together. -/
theorem ClassDecl.Coherent.settled {decisions : List (ValueMethod × Decision)}
    {before after : ClassDecl} (coherent : before.Coherent) (paired : Plan.Paired decisions before)
    (settled : Plan.Settled decisions before after) : after.Coherent where
  built method member := by
    rcases settled.attached method member with old | ⟨planned, _⟩
    · exact coherent.built method old
    · exact paired.built method planned
  sameFields := by
    by_cases earlier : ∃ method ∈ before.generated, method.kind ≠ .toString
    · -- The class has both already, so neither of them is attached.
      obtain ⟨old, oldMember, oldKind⟩ := earlier
      obtain ⟨names, reads⟩ := coherent.sameFields
      refine ⟨names, fun method member needsField => ?_⟩
      rcases settled.attached method member with kept | ⟨planned, missing⟩
      · exact reads method kept needsField
      · obtain ⟨className, others, built⟩ := paired.built method planned
        rw [built.signature_eq,
          coherent.ownsBoth old oldMember oldKind method.kind needsField] at missing
        simp at missing
    · obtain ⟨names, reads⟩ := paired.sameFields
      refine ⟨names, fun method member needsField => ?_⟩
      rcases settled.attached method member with kept | ⟨planned, _⟩
      · exact absurd ⟨method, kept, needsField⟩ earlier
      · exact reads method planned needsField
  ownsBoth method member needsField kind other := by
    rcases settled.attached method member with kept | ⟨planned, _⟩
    · exact settled.keeps _ (coherent.ownsBoth method kept needsField kind other)
    · rcases paired.both method planned needsField kind other with ⟨sibling, also, rfl⟩ | owned
      · obtain ⟨className, names, built⟩ := paired.built sibling also
        rw [← built.signature_eq]
        exact settled.owns sibling also
      · exact settled.keeps _ owned

/-- A class keeps its coherence when it only gains declared methods. -/
theorem ClassDecl.Coherent.of_generated_eq {before after : ClassDecl} (coherent : before.Coherent)
    (same : after.generated = before.generated)
    (keeps : ∀ signature, before.hasMethod signature = true → after.hasMethod signature = true) :
    after.Coherent where
  built := same ▸ coherent.built
  sameFields := same ▸ coherent.sameFields
  ownsBoth method member needsField kind other :=
    keeps _ (coherent.ownsBoth method (same ▸ member) needsField kind other)

theorem ClassDecl.Coherent.of_generated_nil {decl : ClassDecl} (nothing : decl.generated = []) :
    decl.Coherent where
  built := by simp [nothing]
  sameFields := ⟨[], by simp [nothing]⟩
  ownsBoth := by simp [nothing]

theorem Plan.Paired.mono {decisions : List (ValueMethod × Decision)} {before after : ClassDecl}
    (paired : Paired decisions before)
    (keeps : ∀ signature, before.hasMethod signature = true → after.hasMethod signature = true) :
    Paired decisions after where
  built := paired.built
  sameFields := paired.sameFields
  both method planned needsField kind other :=
    (paired.both method planned needsField kind other).imp_right (keeps _)

namespace ClassModel

/-- A new plan pairs what it generates. -/
theorem paired_plan {model : ClassModel} (options : Options) {id : ClassId} {decl : ClassDecl}
    (found : model.class? id = some decl) :
    Plan.Paired (model.plan options id).decisions decl := by
  have generates {method : Method}
      (planned : Plan.Generates (model.plan options id).decisions method) :
      decl.isAbstract = false ∧
        Synthesis.method? options.helpers decl.name (model.identityFields id).names method.kind =
          some method := by
    obtain ⟨other, foundOther, concrete, _, built⟩ := of_generates_plan planned
    obtain rfl : decl = other := by simpa [found] using foundOther
    exact ⟨concrete, built⟩
  constructor
  · intro method planned
    exact ⟨decl.name, _, options.helpers, (generates planned).2⟩
  · refine ⟨(model.identityFields id).names, fun method planned _ => ?_⟩
    exact ⟨decl.name, options.helpers, (generates planned).2⟩
  · intro method planned needsField kind other
    obtain ⟨concrete, built⟩ := generates planned
    cases owned : decl.hasMethod kind.signature with
    | true => exact .inr rfl
    | false =>
        have hasFields := Synthesis.names_ne_nil built needsField
        exact .inl (generates_plan model options found concrete hasFields other owned)

/-! ## Models under work -/

/-- The generated `hashCode` and `equals` of every class belong together. -/
def Coherent (model : ClassModel) : Prop :=
  ∀ id decl, model.class? id = some decl → decl.Coherent

/-- The plan pairs what it generates for its class.  A plan for a class that was not there decides
nothing. -/
def Pairs (model : ClassModel) (plan : Plan) : Prop :=
  plan.decisions = [] ∨
    ∃ decl, model.class? plan.target = some decl ∧ Plan.Paired plan.decisions decl

/-- Every class of the first model is in the second one, with at least its methods. -/
def KeepsMethods (before after : ClassModel) : Prop :=
  ∀ id decl, before.class? id = some decl → ∃ changed, after.class? id = some changed ∧
    ∀ signature, decl.hasMethod signature = true → changed.hasMethod signature = true

theorem KeepsMethods.refl (model : ClassModel) : model.KeepsMethods model :=
  fun _ decl found => ⟨decl, found, fun _ owned => owned⟩

theorem KeepsMethods.trans {first second third : ClassModel} (before : first.KeepsMethods second)
    (after : second.KeepsMethods third) : first.KeepsMethods third := by
  intro id decl found
  obtain ⟨between, foundBetween, keptBefore⟩ := before id decl found
  obtain ⟨changed, foundChanged, keptAfter⟩ := after id between foundBetween
  exact ⟨changed, foundChanged, fun signature owned =>
    keptAfter signature (keptBefore signature owned)⟩

theorem Pairs.mono {before after : ClassModel} {plan : Plan} (pairs : before.Pairs plan)
    (keeps : before.KeepsMethods after) : after.Pairs plan := by
  rcases pairs with nothing | ⟨decl, found, paired⟩
  · exact .inl nothing
  · obtain ⟨changed, foundChanged, kept⟩ := keeps _ decl found
    exact .inr ⟨changed, foundChanged, paired.mono kept⟩

theorem pairs_plan (model : ClassModel) (options : Options) (id : ClassId) :
    model.Pairs (model.plan options id) := by
  cases found : model.class? id with
  | none => exact .inl (by simp [plan, found])
  | some decl => exact .inr ⟨decl, found, paired_plan options found⟩

theorem GeneratesNothing.keepsMethods {before after : ClassModel}
    (nothing : before.GeneratesNothing after) : before.KeepsMethods after := by
  intro id decl found
  obtain ⟨changed, foundChanged, _, kept⟩ := nothing.old id decl found
  exact ⟨changed, foundChanged, kept⟩

theorem Coherent.of_generatesNothing {before after : ClassModel} (coherent : before.Coherent)
    (nothing : before.GeneratesNothing after) : after.Coherent := by
  intro id decl found
  cases earlier : before.class? id with
  | none => exact .of_generated_nil (nothing.new id decl earlier found)
  | some old =>
      obtain ⟨changed, foundChanged, same, kept⟩ := nothing.old id old earlier
      obtain rfl : changed = decl := by simpa [foundChanged] using found
      exact (coherent id old earlier).of_generated_eq same kept

theorem keepsMethods_settle (plan : Plan) (model : ClassModel) :
    model.KeepsMethods (plan.settle model).1 := by
  intro id decl found
  rw [Plan.class?_settle, found]
  split
  · exact ⟨_, rfl, (Plan.settled_settleAll decl plan.decisions).keeps⟩
  · exact ⟨decl, rfl, fun _ owned => owned⟩

theorem Coherent.settle {model : ClassModel} (coherent : model.Coherent) {plan : Plan}
    (pairs : model.Pairs plan) : (plan.settle model).1.Coherent := by
  intro id decl found
  rw [Plan.class?_settle] at found
  split at found
  · next chosen =>
      obtain ⟨old, earlier, rfl⟩ := Option.map_eq_some_iff.mp found
      rcases pairs with nothing | ⟨other, same, paired⟩
      · rw [nothing]
        exact coherent id old earlier
      · obtain rfl : other = old := by simpa [chosen, earlier] using same.symm
        exact (coherent id other earlier).settled paired
          (Plan.settled_settleAll other plan.decisions)
  · exact coherent id decl found

/-- A generation run takes no method away, and what belongs together stays together. -/
theorem Coherent.generateForAll {model : ClassModel} (coherent : model.Coherent)
    (options : Options) (ids : List ClassId) :
    (ClassModel.generateForAll options model ids).1.Coherent ∧
      model.KeepsMethods (ClassModel.generateForAll options model ids).1 := by
  induction ids generalizing model with
  | nil => exact ⟨coherent, .refl model⟩
  | cons id rest ih =>
      have settled := coherent.settle (pairs_plan model options id)
      obtain ⟨still, kept⟩ := ih settled
      exact ⟨still, (keepsMethods_settle (model.plan options id) model).trans kept⟩

theorem Coherent.synthesized {model : ClassModel} (coherent : model.Coherent) :
    model.Synthesized :=
  fun id decl found => (coherent id decl found).built

end ClassModel

namespace Workshop

/-- All that belongs together in a workshop is together: in the classes of the model and in the
plans that have been kept. -/
structure Coherent (workshop : Workshop) : Prop where
  /-- The classes of the model. -/
  model : workshop.model.Coherent
  /-- The plans that have been kept. -/
  plans : ∀ plan ∈ workshop.plans, workshop.model.Pairs plan

private theorem Coherent.withModel {workshop : Workshop} (coherent : workshop.Coherent)
    {changed : ClassModel} (still : changed.Coherent)
    (keeps : workshop.model.KeepsMethods changed) :
    Coherent { workshop with model := changed } where
  model := still
  plans plan kept := (coherent.plans plan kept).mono keeps

/-- No operation takes apart what belongs together. -/
theorem Coherent.step {workshop : Workshop} (coherent : workshop.Coherent)
    (operation : Operation) : (workshop.step operation).Coherent := by
  cases operation with
  | build step =>
      have nothing := ClassModel.generatesNothing_after workshop.model step
      exact coherent.withModel (coherent.model.of_generatesNothing nothing) nothing.keepsMethods
  | overwrite id outline =>
      have nothing := workshop.model.generatesNothing_modify id
        (outline.generated_overwrite ·) (fun _ _ owned => owned)
      exact coherent.withModel (coherent.model.of_generatesNothing nothing) nothing.keepsMethods
  | generate options =>
      obtain ⟨still, keeps⟩ := coherent.model.generateForAll options workshop.model.ids
      exact coherent.withModel still keeps
  | prepare options id =>
      refine ⟨coherent.model, fun plan kept => ?_⟩
      rcases List.mem_append.mp kept with kept | new
      · exact coherent.plans plan kept
      · obtain rfl := List.mem_singleton.mp new
        exact workshop.model.pairs_plan options id
  | settle position =>
      simp only [Workshop.step]
      split
      · next plan kept =>
          have pairs := coherent.plans plan (List.mem_of_getElem? kept)
          exact coherent.withModel (coherent.model.settle pairs)
            (ClassModel.keepsMethods_settle plan workshop.model)
      · exact coherent

theorem Coherent.run {workshop : Workshop} (coherent : workshop.Coherent)
    (operations : List Operation) : (workshop.run operations).Coherent := by
  induction operations generalizing workshop with
  | nil => exact coherent
  | cons operation rest ih => exact ih (coherent.step operation)

/-- Whatever is done, in whatever order, what belongs together is together. -/
theorem coherent_run_empty (operations : List Operation) : (empty.run operations).Coherent := by
  apply Coherent.run
  constructor
  · intro id decl found
    simp [empty, ClassModel.class?, ClassModel.empty] at found
  · simp [empty]

end Workshop
end ValueMethods
