import ValueMethods.Proofs.Calls

/-!
# What the value methods answer

The answer of a value method on an object, by what its class resolves to: the error of a method
without a body, the root method, or the function of the fields that a generated body computes.
-/

namespace ValueMethods

/-! ## Value methods of any value -/

namespace Value

/-- Null-safe equality of two values. -/
def equals (model : ClassModel) (first second : Value) : Except EvalError Bool :=
  model.dispatch.objectsEqual first second

/-- The hash of a value, zero for null. -/
def hash (model : ClassModel) (value : Value) : Except EvalError Int32 :=
  model.dispatch.hashValue value

/-- A value as text. -/
def shown (model : ClassModel) (value : Value) : Except EvalError String :=
  model.dispatch.display model value

/-- The value is one of the objects if it is an object at all. -/
def Within (objects : Instance → Prop) (value : Value) : Prop :=
  ∀ inner, value = .object inner → objects inner

end Value

private theorem expectBool_map (answer : Except EvalError Bool) :
    (answer.map Value.bool).bind Value.expectBool = answer := by
  cases answer <;> rfl

private theorem expectInt_map (answer : Except EvalError Int32) :
    (answer.map Value.int).bind Value.expectInt = answer := by
  cases answer <;> rfl

private theorem expectText_map (answer : Except EvalError String) :
    (answer.map Value.text).bind Value.expectText = answer := by
  cases answer <;> rfl

/-- Equality with an object first is the `equals` of that object, except that the same object is
equal to itself without a call. -/
theorem Value.equals_object (model : ClassModel) (self : Instance) (other : Value) :
    Value.equals model (.object self) other =
      if (Value.object self).sameReference other then .ok true else self.equals model other := by
  cases other <;> rfl

theorem Value.object_or_plain (value : Value) :
    (∃ inner, value = .object inner) ∨ ∀ inner, value ≠ .object inner := by
  cases value with
  | object inner => exact .inl ⟨inner, rfl⟩
  | _ => exact .inr fun inner => by simp

/-- What is not an object is equal to itself only. -/
theorem Value.equals_plain (model : ClassModel) {first : Value}
    (plain : ∀ inner, first ≠ .object inner) (second : Value) :
    ∃ answer, Value.equals model first second = .ok answer ∧ (answer = true ↔ first = second) := by
  cases first with
  | object inner => exact absurd rfl (plain inner)
  | _ =>
      cases second <;> simp [Value.equals, Dispatch.objectsEqual, Value.sameReference] <;>
        exact (Decidable.em _).symm

/-- Agreement on a field is a comparison of its two values. -/
theorem Dispatch.fieldEqual_eq_ok {model : ClassModel} {first second : Instance}
    {name : String} {answer : Bool}
    (answered : model.dispatch.fieldEqual model first second name = .ok answer) :
    ∃ left right, first.read model name = .ok left ∧ second.read model name = .ok right ∧
      Value.equals model left right = .ok answer := by
  obtain ⟨left, leftRead, answered⟩ := exists_of_bind_eq_ok answered
  obtain ⟨right, rightRead, answered⟩ := exists_of_bind_eq_ok answered
  exact ⟨left, right, leftRead, rightRead, answered⟩

/-! ## Items of a listing -/

section Listing

variable {model : ClassModel} {dispatch : Dispatch} {self : Instance} {entry : LabelledField}
  {rest : List LabelledField}

/-- A field that is null is left out. -/
theorem listingItems_cons_null (read : self.read model entry.field = .ok .null) :
    listingItems model dispatch self true (entry :: rest) =
      listingItems model dispatch self true rest := by
  simp only [listingItems, read]
  rfl

/-- A field that is not null is shown after its label. -/
theorem listingItems_cons_value {value : Value} (read : self.read model entry.field = .ok value)
    (present : value ≠ .null) :
    listingItems model dispatch self true (entry :: rest) =
      (dispatch.display model value).bind fun shown =>
        (listingItems model dispatch self true rest).bind fun items =>
          .ok ((entry.label ++ "=" ++ shown) :: items) := by
  simp only [listingItems, read]
  cases value with
  | null => exact absurd rfl present
  | _ => rfl

end Listing

namespace Instance

variable {model : ClassModel} (synthesized : model.Synthesized) {self : Instance}
  (sound : self.Sound)
include synthesized sound

/-! ## Without a body to run -/

/-- What a class answers whose method cannot be resolved or is the one of the root. -/
theorem invoke_of_resolve_error {kind : ValueMethod} {error : EvalError}
    (resolved : model.resolve self.owner kind = .error error) (arguments : List Value) :
    self.invoke model kind arguments = .error error := by
  change model.dispatch self kind arguments = _
  simp only [dispatch_eq synthesized sound, resolved]

theorem invoke_of_resolve_none {kind : ValueMethod}
    (resolved : model.resolve self.owner kind = .ok none) (arguments : List Value) :
    self.invoke model kind arguments = .ok (rootMethod model self kind arguments) := by
  change model.dispatch self kind arguments = _
  simp only [dispatch_eq synthesized sound, resolved]

theorem invoke_of_resolve_some {kind : ValueMethod} {method : Method}
    (resolved : model.resolve self.owner kind = .ok (some method)) (arguments : List Value) :
    self.invoke model kind arguments = method.run model model.dispatch self arguments := by
  change model.dispatch self kind arguments = _
  simp only [dispatch_eq synthesized sound, resolved]

/-! ## With a generated body -/

variable {method : Method} {className : String} {names : List String}

theorem equals_of_resolve (resolved : model.resolve self.owner .equals = .ok (some method))
    (built : method.BuiltFor className names) (other : Value) :
    self.equals model other = model.dispatch.equalsByFields model className names self other := by
  obtain ⟨_, _, _, _, _, kind⟩ := ClassModel.of_resolve resolved
  obtain ⟨helpers, built⟩ := built
  simp only [kind, Synthesis.method?] at built
  change (self.invoke model .equals [other]).bind Value.expectBool = _
  rw [invoke_of_resolve_some synthesized sound resolved, Synthesis.run_equalsMethod built,
    expectBool_map]

theorem hashCode_of_resolve (resolved : model.resolve self.owner .hashCode = .ok (some method))
    (built : method.BuiltFor className names) :
    self.hashCode model = (self.readAll model names).bind model.dispatch.hashAll := by
  obtain ⟨_, _, _, _, _, kind⟩ := ClassModel.of_resolve resolved
  obtain ⟨helpers, built⟩ := built
  simp only [kind, Synthesis.method?] at built
  change (self.invoke model .hashCode []).bind Value.expectInt = _
  rw [invoke_of_resolve_some synthesized sound resolved, Synthesis.run_hashCodeMethod _ _ _ built,
    expectInt_map]

theorem text_of_resolve (resolved : model.resolve self.owner .toString = .ok (some method))
    (built : method.BuiltFor className names) :
    ∃ helper, self.text model =
      listingText model model.dispatch self (Synthesis.fieldListing helper className names) := by
  obtain ⟨_, _, _, _, _, kind⟩ := ClassModel.of_resolve resolved
  obtain ⟨helpers, built⟩ := built
  simp only [kind, Synthesis.method?, Option.some.injEq] at built
  refine ⟨helpers.toStringType, ?_⟩
  change (self.invoke model .toString []).bind Value.expectText = _
  rw [invoke_of_resolve_some synthesized sound resolved, ← built,
    Synthesis.run_toStringMethod, expectText_map]

/-! ## With the root method -/

/-- Without any `equals` an object is equal to itself only. -/
theorem equals_of_resolve_none (resolved : model.resolve self.owner .equals = .ok none)
    (other : Value) :
    self.equals model other = .ok ((Value.object self).sameReference other) := by
  change (self.invoke model .equals [other]).bind Value.expectBool = _
  rw [invoke_of_resolve_none synthesized sound resolved]
  cases other <;> rfl

theorem hashCode_of_resolve_none (resolved : model.resolve self.owner .hashCode = .ok none) :
    self.hashCode model = .ok self.identity := by
  change (self.invoke model .hashCode []).bind Value.expectInt = _
  rw [invoke_of_resolve_none synthesized sound resolved]
  rfl

theorem text_of_resolve_none (resolved : model.resolve self.owner .toString = .ok none) :
    self.text model = .ok (model.qualifiedName self.owner ++ "@" ++
      Text.hexText self.identity.toUInt32.toNat) := by
  change (self.invoke model .toString []).bind Value.expectText = _
  rw [invoke_of_resolve_none synthesized sound resolved]
  rfl

/-! ## With a method that cannot be run -/

theorem equals_of_resolve_error {error : EvalError}
    (resolved : model.resolve self.owner .equals = .error error) (other : Value) :
    self.equals model other = .error error := by
  change (self.invoke model .equals [other]).bind Value.expectBool = _
  rw [invoke_of_resolve_error synthesized sound resolved]
  rfl

theorem hashCode_of_resolve_error {error : EvalError}
    (resolved : model.resolve self.owner .hashCode = .error error) :
    self.hashCode model = .error error := by
  change (self.invoke model .hashCode []).bind Value.expectInt = _
  rw [invoke_of_resolve_error synthesized sound resolved]
  rfl

theorem text_of_resolve_error {error : EvalError}
    (resolved : model.resolve self.owner .toString = .error error) :
    self.text model = .error error := by
  change (self.invoke model .toString []).bind Value.expectText = _
  rw [invoke_of_resolve_error synthesized sound resolved]
  rfl

end Instance
end ValueMethods
