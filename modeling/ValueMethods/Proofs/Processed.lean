import ValueMethods.Proofs.Construction
import ValueMethods.Proofs.Settling

/-!
# Processed models

A model that has been built and then only been processed by generation runs.  Its outlines are those
that were built, so every generated method is for the present name and identity fields of its class,
and a method that was not generated has been there before.
-/

namespace ValueMethods

namespace ClassModel

/-- The model after generation runs with the given options. -/
def processed (model : ClassModel) (runs : List Options) : ClassModel :=
  runs.foldl (fun model options => (model.generate options).1) model

/-- The model comes from the one that was built by settling new plans only. -/
structure Follows (built model : ClassModel) : Prop where
  /-- No outline has changed. -/
  outlines : model.outlines = built.outlines
  /-- Every generated method is for the name and the identity fields of its class. -/
  upToDate : ∀ id decl, model.class? id = some decl → ∀ method ∈ decl.generated,
    method.BuiltFor decl.name (model.identityFields id).names
  /-- A method without a generated body was there when the model was built. -/
  accounted : ∀ id decl, model.class? id = some decl → ∀ signature,
    decl.hasMethod signature = true → (∃ method ∈ decl.generated, method.signature = signature) ∨
      ∃ original, built.class? id = some original ∧ original.hasMethod signature = true

theorem Follows.settle_plan {built model : ClassModel} (follows : built.Follows model)
    (options : Options) (id : ClassId) :
    built.Follows ((model.plan options id).settle model).1 := by
  have kept := Plan.outlines_settle (model.plan options id) model
  -- What becomes of each class: the old class, and what settling has made of it.
  have history : ∀ other decl, ((model.plan options id).settle model).1.class? other = some decl →
      ∃ old, model.class? other = some old ∧ decl.name = old.name ∧
        (∀ method ∈ decl.generated, method ∈ old.generated ∨
          other = id ∧ Plan.Generates (model.plan options id).decisions method) ∧
        (∀ method ∈ old.generated, method ∈ decl.generated) ∧
        ∀ signature, decl.hasMethod signature = true → old.hasMethod signature = true ∨
          ∃ method ∈ decl.generated, method.signature = signature := by
    intro other decl found
    rw [Plan.class?_settle] at found
    split at found
    · next chosen =>
        obtain ⟨old, before, rfl⟩ := Option.map_eq_some_iff.mp found
        have settled := Plan.settled_settleAll old (model.plan options id).decisions
        refine ⟨old, before, ?_, ?_, settled.keepsGenerated, settled.accounted⟩
        · exact congrArg Outline.name (Plan.outline_settleAll old _)
        · intro method member
          refine (settled.attached method member).imp_right fun ⟨planned, _⟩ => ?_
          exact ⟨chosen.symm, planned⟩
    · exact ⟨decl, found, rfl, fun _ member => .inl member, fun _ member => member,
        fun _ owned => .inl owned⟩
  refine ⟨kept.trans follows.outlines, ?_, ?_⟩
  · intro other decl found method member
    obtain ⟨old, before, named, attached, _, _⟩ := history other decl found
    rw [identityFields_congr kept, named]
    rcases attached method member with kept | ⟨rfl, planned⟩
    · exact follows.upToDate other old before method kept
    · obtain ⟨same, present, _, _, built⟩ := of_generates_plan planned
      obtain rfl : same = old := by simpa [before] using present.symm
      exact ⟨options.helpers, built⟩
  · intro other decl found signature owned
    obtain ⟨old, before, _, _, keeps, accounted⟩ := history other decl found
    rcases accounted signature owned with owned | generated
    · refine (follows.accounted other old before signature owned).imp_left ?_
      exact fun ⟨method, member, same⟩ => ⟨method, keeps method member, same⟩
    · exact .inl generated

theorem Follows.generateForAll {built model : ClassModel} (follows : built.Follows model)
    (options : Options) (ids : List ClassId) :
    built.Follows (ClassModel.generateForAll options model ids).1 := by
  induction ids generalizing model with
  | nil => exact follows
  | cons id rest ih => exact ih (follows.settle_plan options id)

theorem Follows.processed {built model : ClassModel} (follows : built.Follows model)
    (runs : List Options) : built.Follows (model.processed runs) := by
  induction runs generalizing model with
  | nil => exact follows
  | cons options rest ih => exact ih (follows.generateForAll options model.ids)

theorem Built.follows {built : ClassModel} (isBuilt : built.Built) : built.Follows built where
  outlines := rfl
  upToDate id decl found := by simp [isBuilt.generated_eq_nil found]
  accounted id decl found signature owned := .inr ⟨decl, found, owned⟩

/-- Generation runs on a model that has been built. -/
theorem Built.follows_processed {built : ClassModel} (isBuilt : built.Built)
    (runs : List Options) : built.Follows (built.processed runs) :=
  isBuilt.follows.processed runs

/-! ## Looking up methods -/

theorem Follows.synthesized {built model : ClassModel} (follows : built.Follows model) :
    model.Synthesized :=
  fun id decl found method member => ⟨decl.name, _, follows.upToDate id decl found method member⟩

/-- Where a look-up fails, a class has the method and no generated one of that kind. -/
theorem error_of_nearestMethod {model : ClassModel} {kind : ValueMethod} {ids : List ClassId}
    {error : EvalError} (failed : model.nearestMethod kind ids = .error error) :
    ∃ id decl, model.class? id = some decl ∧ decl.hasMethod kind.signature = true ∧
      (∀ method ∈ decl.generated, method.kind ≠ kind) ∧
      error = .opaqueMethod decl.qualifiedName kind := by
  induction ids with
  | nil => simp [nearestMethod] at failed
  | cons id rest ih =>
      cases found : model.class? id with
      | none => exact ih (by simpa [nearestMethod, found] using failed)
      | some decl =>
          rw [nearestMethod_cons found] at failed
          split at failed
          · simp at failed
          · next other offered =>
              obtain rfl := Except.error.inj failed
              exact ⟨id, decl, found, ClassDecl.of_offer?_error offered⟩
          · exact ih failed

/-- A look-up in a processed model fails only at a class that had the method when it was built. -/
theorem Follows.error_of_resolve {built model : ClassModel} (follows : built.Follows model)
    {id : ClassId} {kind : ValueMethod} {error : EvalError}
    (failed : model.resolve id kind = .error error) :
    ∃ ancestor original, built.class? ancestor = some original ∧
      original.hasMethod kind.signature = true ∧
      error = .opaqueMethod original.qualifiedName kind := by
  obtain ⟨ancestor, decl, found, owned, absent, rfl⟩ := error_of_nearestMethod failed
  rcases follows.accounted ancestor decl found _ owned with ⟨method, member, same⟩ | earlier
  · have built := follows.upToDate ancestor decl found method member
    have kind := ValueMethod.signature_injective (built.signature_eq.symm.trans same)
    exact absurd kind (absent method member)
  · obtain ⟨original, before, owned⟩ := earlier
    have sameOutline : decl.outline = original.outline := by
      simpa [found, before] using class?_congr follows.outlines ancestor
    have named : decl.qualifiedName = original.qualifiedName := by
      simp only [ClassDecl.outline, Outline.mk.injEq] at sameOutline
      rw [ClassDecl.qualifiedName, ClassDecl.qualifiedName, sameOutline.1, sameOutline.2.1]
    exact ⟨ancestor, original, before, owned, by rw [named]⟩

/-- The method that is found is for the name and the identity fields of an ancestor. -/
theorem Follows.of_resolve {built model : ClassModel} (follows : built.Follows model)
    {id : ClassId} {kind : ValueMethod} {method : Method}
    (resolved : model.resolve id kind = .ok (some method)) :
    ∃ ancestor ∈ model.lineage id, ∃ decl, model.class? ancestor = some decl ∧
      method.BuiltFor decl.name (model.identityFields ancestor).names := by
  obtain ⟨ancestor, above, decl, found, member, _⟩ := ClassModel.of_resolve resolved
  exact ⟨ancestor, above, decl, found, follows.upToDate ancestor decl found method member⟩

/-- An ancestor can be named in a cast. -/
theorem isInstance_of_mem_lineage {model : ClassModel} {id ancestor : ClassId}
    (above : ancestor ∈ model.lineage id) {decl : ClassDecl}
    (found : model.class? ancestor = some decl) : model.isInstance id decl.name = true := by
  simp only [isInstance, List.any_eq_true]
  exact ⟨ancestor, above, by simp [found]⟩

end ClassModel
end ValueMethods
