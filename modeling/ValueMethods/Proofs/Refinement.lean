import ValueMethods.Proofs.Lineage
import ValueMethods.Proofs.MadeObjects
import ValueMethods.Proofs.Processed

/-!
# What generated methods mean

The meaning of the value methods of a class in terms of its identity fields alone, without code
trees, look-ups and limits.  Where all three methods of a class have been generated, evaluating them
gives just this.
-/

namespace ValueMethods
namespace Instance

variable (model : ClassModel) (self : Instance)

/-! ## Meaning -/

/-- Whether two objects agree on the listed fields, up to the first on which they do not. -/
def agreeOn (other : Instance) : List String → Except EvalError Bool
  | [] => .ok true
  | name :: rest => do
      let left ← self.read model name
      let right ← other.read model name
      match ← Value.equals model left right with
      | true => agreeOn other rest
      | false => .ok false

/-- An object equals itself, and objects of exactly its class that agree with it. -/
def structuralEquals (names : List String) : Value → Except EvalError Bool
  | .object other =>
      if self.same other then
        .ok true
      else if self.owner = other.owner then
        self.agreeOn model other names
      else
        .ok false
  | _ => .ok false

/-- The hashes of the listed fields, each taken in after 31 times what came before. -/
def structuralHash (names : List String) : Except EvalError Int32 := do
  let values ← self.readAll model names
  values.foldlM (fun hash value => do .ok (31 * hash + (← Value.hash model value))) 1

/-- The listed fields that are not null, with their values as text. -/
def shownFields : List String → Except EvalError (List String)
  | [] => .ok []
  | name :: rest => do
      match ← self.read model name with
      | .null => shownFields rest
      | value => do
          let shown ← Value.shown model value
          let items ← shownFields rest
          .ok ((name ++ "=" ++ shown) :: items)

/-- The simple name of the class and in braces the listed fields that are not null. -/
def structuralText (names : List String) : Except EvalError String := do
  let items ← self.shownFields model names
  .ok (model.simpleName self.owner ++ "\x7b" ++ Text.joinWith ", " items ++ "\x7d")

/-! ## Bodies have this meaning -/

theorem fieldsEqual_eq_agreeOn (other : Instance) (names : List String) :
    model.dispatch.fieldsEqual model self other names = self.agreeOn model other names := by
  induction names with
  | nil => rfl
  | cons name rest ih =>
      rw [Dispatch.fieldsEqual, agreeOn, ih, Dispatch.fieldEqual]
      cases self.read model name with
      | error error => rfl
      | ok left =>
          cases other.read model name with
          | error error => rfl
          | ok right =>
              change bothHold (Value.equals model left right) _ =
                (Value.equals model left right).bind _
              rcases Value.equals model left right with error | _ | _ <;> rfl

theorem equalsByFields_eq_structuralEquals {className : String} {names : List String}
    (cast : model.isInstance self.owner className = true) (other : Value) :
    model.dispatch.equalsByFields model className names self other =
      self.structuralEquals model names other := by
  cases other with
  | object content =>
      rw [Dispatch.equalsByFields, structuralEquals]
      split
      · rfl
      · split
        · next owners => rw [← owners, cast, if_pos rfl, fieldsEqual_eq_agreeOn]
        · rfl
  | _ => rfl

private theorem hashValues_eq_foldlM (values : List Value) (start : Int32) :
    (model.dispatch.hashValues values).map (Hash.fold start) =
      values.foldlM (fun hash value => do .ok (31 * hash + (← Value.hash model value))) start := by
  induction values generalizing start with
  | nil => rfl
  | cons value rest ih =>
      rw [List.foldlM_cons, Dispatch.hashValues]
      cases hashed : model.dispatch.hashValue value with
      | error error => simp [Value.hash, hashed, bind, Except.bind, Except.map]
      | ok hash =>
          have combined : 31 * start + hash = Hash.combine start hash := by
            rw [Hash.combine, Int32.mul_comm]
          simp only [Value.hash, hashed, bind, Except.bind, combined] at ih ⊢
          rw [← ih (Hash.combine start hash)]
          cases model.dispatch.hashValues rest <;> rfl

theorem hashAll_eq_structuralHash (names : List String) :
    (self.readAll model names).bind model.dispatch.hashAll =
      self.structuralHash model names := by
  rw [structuralHash]
  cases self.readAll model names with
  | error error => rfl
  | ok values =>
      change model.dispatch.hashAll values = values.foldlM _ 1
      rw [← hashValues_eq_foldlM, Dispatch.hashAll]
      cases model.dispatch.hashValues values <;> rfl

private theorem listingItems_eq_shownFields (names : List String) :
    listingItems model model.dispatch self true (names.map fun name => ⟨name, name⟩) =
      self.shownFields model names := by
  induction names with
  | nil => rfl
  | cons name rest ih =>
      rw [List.map_cons, shownFields]
      cases read : self.read model name with
      | error error => simp [listingItems, read, bind, Except.bind]
      | ok value =>
          by_cases null : value = .null
          · subst null
            rw [listingItems_cons_null read, ih]
            rfl
          · rw [listingItems_cons_value read null, ih]
            simp only [bind, Except.bind, Value.shown]

theorem listingText_eq_structuralText (helper : TypeName) (className : String)
    (names : List String) :
    listingText model model.dispatch self (Synthesis.fieldListing helper className names) =
      self.structuralText model names := by
  rw [listingText, structuralText, Synthesis.fieldListing, listingItems_eq_shownFields]

end Instance

namespace ClassModel

/-- A class that has a generated method of a kind runs one of its own. -/
theorem exists_resolve_of_generated {model : ClassModel} {id : ClassId} {decl : ClassDecl}
    (found : model.class? id = some decl) {kind : ValueMethod}
    (generated : ∃ method ∈ decl.generated, method.kind = kind) :
    ∃ method ∈ decl.generated, model.resolve id kind = .ok (some method) := by
  obtain ⟨method, offered⟩ := ClassDecl.exists_offer?_ok generated
  refine ⟨method, (ClassDecl.of_offer?_ok offered).1, ?_⟩
  rw [resolve, lineage_eq_cons, nearestMethod_cons found, offered]

end ClassModel

/-- If all three value methods of a class have been generated, they have their meaning in terms of
the identity fields: for every object of exactly this class and every argument.  All these fields
can be read where the object has been made on the model. -/
theorem generated_methods_refine_structure {built : ClassModel} (isBuilt : built.Built)
    (runs : List Options) {id : ClassId} {decl : ClassDecl}
    (found : (built.processed runs).class? id = some decl)
    (complete : ∀ kind, ∃ method ∈ decl.generated, method.kind = kind) {self : Instance}
    {models : ClassModel → Prop} (made : self.MadeOn models) (owner : self.owner = id) :
    let model := built.processed runs
    let names := (model.identityFields id).names
    (∀ other, self.equals model other = self.structuralEquals model names other) ∧
      self.hashCode model = self.structuralHash model names ∧
      self.text model = self.structuralText model names ∧
      (self.MadeOn (· = model) → ∀ name ∈ names, ∃ value, self.read model name = .ok value) := by
  intro model names
  subst owner
  have follows : built.Follows model := isBuilt.follows_processed runs
  have sound := made.sound
  have runsOwn (kind : ValueMethod) : ∃ method,
      model.resolve self.owner kind = .ok (some method) ∧ method.BuiltFor decl.name names := by
    obtain ⟨method, member, resolved⟩ :=
      ClassModel.exists_resolve_of_generated found (complete kind)
    exact ⟨method, resolved, follows.upToDate self.owner decl found method member⟩
  have cast : model.isInstance self.owner decl.name = true :=
    ClassModel.isInstance_of_mem_lineage (ClassModel.self_mem_lineage model self.owner) found
  refine ⟨fun other => ?_, ?_, ?_, fun onModel name listed => onModel.exists_read listed⟩
  · obtain ⟨method, resolved, body⟩ := runsOwn .equals
    rw [Instance.equals_of_resolve follows.synthesized sound resolved body]
    exact self.equalsByFields_eq_structuralEquals model cast other
  · obtain ⟨method, resolved, body⟩ := runsOwn .hashCode
    rw [Instance.hashCode_of_resolve follows.synthesized sound resolved body]
    exact self.hashAll_eq_structuralHash model names
  · obtain ⟨method, resolved, body⟩ := runsOwn .toString
    obtain ⟨helper, shown⟩ := Instance.text_of_resolve follows.synthesized sound resolved body
    rw [shown]
    exact self.listingText_eq_structuralText model helper decl.name names

/-! ### A point without a label -/

/-- A class of points that may have a label, with all value methods. -/
def labelledPoints : ClassModel :=
  .constructAll .empty
    [.addClass ⟨"Point", none, false, [⟨"x", "int", false⟩, ⟨"label", "String", false⟩], none⟩ []]

/-- A point whose label is null. -/
def unlabelled : Instance := .make 1 0 5 [("x", .int 3), ("label", .null)]

/-- The methods of the point are those that its two fields define. -/
theorem generated_methods_refine_structure_on_points :
    let model := labelledPoints.processed [.default]
    (∀ other, unlabelled.equals model other =
        unlabelled.structuralEquals model ["x", "label"] other) ∧
      unlabelled.hashCode model = unlabelled.structuralHash model ["x", "label"] ∧
      unlabelled.text model = unlabelled.structuralText model ["x", "label"] ∧
      unlabelled.structuralText model ["x", "label"] = .ok "Point{x=3}" := by
  intro model
  have instantiated : Allocator.instantiate ⟨1, 5⟩ model 0 [("x", .int 3)] =
      .ok (unlabelled, .next ⟨1, 5⟩) := rfl
  have made : unlabelled.MadeOn (· = model) := .instantiate rfl (by simp) instantiated
  have kinds : (model.class? 0).map (fun decl => decl.generated.map Method.kind) =
      some ValueMethod.all := by decide +kernel
  obtain ⟨decl, found, generated⟩ := Option.map_eq_some_iff.mp kinds
  have complete (kind : ValueMethod) : ∃ method ∈ decl.generated, method.kind = kind := by
    have listed : kind ∈ decl.generated.map Method.kind := by
      rw [generated]
      cases kind <;> decide
    exact List.mem_map.mp listed
  have named : (model.identityFields 0).names = ["x", "label"] := by decide +kernel
  have isBuilt : labelledPoints.Built := .inSteps _
  obtain ⟨equals, hashes, text, _⟩ :=
    generated_methods_refine_structure isBuilt [.default] found complete made rfl
  rw [← named]
  exact ⟨equals, hashes, text, by decide +kernel⟩

end ValueMethods
