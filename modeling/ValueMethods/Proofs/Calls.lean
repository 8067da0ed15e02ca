import ValueMethods.Evaluation.Invocation
import ValueMethods.Proofs.Bodies

/-!
# Calls on objects

A generated method only calls methods of objects that are fields of its own object.  So the limit on
nested calls does not show: on an object that knows its height, a call is the run of the method that
the class resolves to, with calls of the same kind inside.
-/

namespace ValueMethods

/-! ## Generated methods -/

/-- The method is the generated one of its kind for a class of that name with those fields. -/
def Method.BuiltFor (method : Method) (className : String) (names : List String) : Prop :=
  ∃ helpers, Synthesis.method? helpers className names method.kind = some method

/-- All generated methods of the model have been built from a class name and field names. -/
def ClassModel.Synthesized (model : ClassModel) : Prop :=
  ∀ id decl, model.class? id = some decl → ∀ method ∈ decl.generated,
    ∃ className names, method.BuiltFor className names

/-! ## Looking up methods -/

namespace ClassDecl

/-- What a look-up meets at a class: a generated method, one without a body, or none. -/
def offer? (decl : ClassDecl) (kind : ValueMethod) : Option (Except EvalError Method) :=
  match decl.generated.find? fun method => method.kind == kind with
  | some method => some (.ok method)
  | none =>
      if decl.hasMethod kind.signature then
        some (.error (.opaqueMethod decl.qualifiedName kind))
      else
        none

variable {decl : ClassDecl} {kind : ValueMethod}

theorem of_offer?_ok {method : Method} (offered : decl.offer? kind = some (.ok method)) :
    method ∈ decl.generated ∧ method.kind = kind := by
  unfold offer? at offered
  split at offered
  · next chosen first =>
      obtain rfl : chosen = method := by simpa using offered
      exact ⟨List.mem_of_find?_eq_some first, by simpa using List.find?_some first⟩
  · split at offered <;> simp at offered

theorem of_offer?_error {error : EvalError} (offered : decl.offer? kind = some (.error error)) :
    decl.hasMethod kind.signature = true ∧ (∀ method ∈ decl.generated, method.kind ≠ kind) ∧
      error = .opaqueMethod decl.qualifiedName kind := by
  unfold offer? at offered
  split at offered
  · simp at offered
  · next absent =>
      split at offered
      · next owned =>
          obtain rfl : _ = error := by simpa using offered
          exact ⟨owned, by simpa using absent, rfl⟩
      · simp at offered

theorem of_offer?_none (offered : decl.offer? kind = none) :
    decl.hasMethod kind.signature = false := by
  unfold offer? at offered
  split at offered
  · simp at offered
  · split at offered
    · simp at offered
    · next free => simpa using free

/-- A class that has a generated method of the kind offers one. -/
theorem exists_offer?_ok (generated : ∃ method ∈ decl.generated, method.kind = kind) :
    ∃ method, decl.offer? kind = some (.ok method) := by
  obtain ⟨chosen, member, sameKind⟩ := generated
  unfold offer?
  split
  · next method _ => exact ⟨method, rfl⟩
  · next absent => exact absurd sameKind (by simpa using List.find?_eq_none.mp absent chosen member)

end ClassDecl

namespace ClassModel

theorem nearestMethod_cons {model : ClassModel} {kind : ValueMethod} {id : ClassId}
    {decl : ClassDecl} (found : model.class? id = some decl) (rest : List ClassId) :
    model.nearestMethod kind (id :: rest) =
      match decl.offer? kind with
      | some (.ok method) => .ok (some method)
      | some (.error error) => .error error
      | none => model.nearestMethod kind rest := by
  simp only [nearestMethod, found, ClassDecl.offer?]
  cases decl.generated.find? fun method => method.kind == kind with
  | some method => rfl
  | none => cases decl.hasMethod kind.signature <;> rfl

/-- A method that is found is a generated one of that kind, of one of the classes. -/
theorem of_nearestMethod {model : ClassModel} {kind : ValueMethod} {ids : List ClassId}
    {method : Method} (nearest : model.nearestMethod kind ids = .ok (some method)) :
    ∃ id ∈ ids, ∃ decl, model.class? id = some decl ∧ method ∈ decl.generated ∧
      method.kind = kind := by
  induction ids with
  | nil => simp [nearestMethod] at nearest
  | cons id rest ih =>
      have above (further : model.nearestMethod kind rest = .ok (some method)) :
          ∃ other ∈ id :: rest, ∃ decl, model.class? other = some decl ∧
            method ∈ decl.generated ∧ method.kind = kind := by
        obtain ⟨other, member, decl, found⟩ := ih further
        exact ⟨other, List.mem_cons_of_mem id member, decl, found⟩
      cases found : model.class? id with
      | none => exact above (by simpa [nearestMethod, found] using nearest)
      | some decl =>
          rw [nearestMethod_cons found] at nearest
          split at nearest
          · next chosen offered =>
              obtain rfl : chosen = method := by simpa using nearest
              exact ⟨id, List.mem_cons_self, decl, found, ClassDecl.of_offer?_ok offered⟩
          · simp at nearest
          · exact above nearest

theorem of_resolve {model : ClassModel} {kind : ValueMethod} {id : ClassId} {method : Method}
    (resolved : model.resolve id kind = .ok (some method)) :
    ∃ ancestor ∈ model.lineage id, ∃ decl, model.class? ancestor = some decl ∧
      method ∈ decl.generated ∧ method.kind = kind :=
  of_nearestMethod resolved

end ClassModel

/-! ## Nested objects -/

/-- The second object is the value of a field of the first. -/
def Instance.Holds (self inner : Instance) : Prop :=
  ∃ name, (name, Value.object inner) ∈ self.fields

/-- An object that knows its height, and so do all objects in it. -/
inductive Instance.Sound : Instance → Prop
  | intro {self : Instance} (height : self.height = Value.heightOfFields self.fields + 1)
      (nested : ∀ inner, self.Holds inner → inner.Sound) : self.Sound

namespace Instance

theorem Sound.of_holds {self inner : Instance} (sound : self.Sound) (held : self.Holds inner) :
    inner.Sound := by
  cases sound with
  | intro _ nested => exact nested inner held

private theorem le_heightOfFields {name : String} {value : Value} {fields : List (String × Value)}
    (member : (name, value) ∈ fields) : value.height ≤ Value.heightOfFields fields := by
  induction fields with
  | nil => simp at member
  | cons entry rest ih =>
      simp only [Value.heightOfFields, List.foldr_cons] at ih ⊢
      rcases List.mem_cons.mp member with rfl | later
      · exact Nat.le_max_left _ _
      · exact Nat.le_trans (ih later) (Nat.le_max_right _ _)

theorem height_le_of_holds {self inner : Instance} (held : self.Holds inner) :
    inner.height ≤ Value.heightOfFields self.fields := by
  obtain ⟨name, member⟩ := held
  exact le_heightOfFields member

/-- A nested object is lower. -/
theorem Sound.height_lt {self inner : Instance} (sound : self.Sound) (held : self.Holds inner) :
    inner.height < self.height := by
  cases sound with
  | intro height _ =>
      have bounded := height_le_of_holds held
      omega

theorem mem_fields_of_field? {self : Instance} {name : String} {value : Value}
    (found : self.field? name = some value) : (name, value) ∈ self.fields := by
  obtain ⟨front, back, split, _⟩ := List.lookup_eq_some_iff.mp found
  simp [split]

/-- An object that is read from a field is nested. -/
theorem holds_of_read {model : ClassModel} {self inner : Instance} {name : String}
    (read : self.read model name = .ok (.object inner)) : self.Holds inner := by
  unfold Instance.read at read
  split at read
  · next value found =>
      obtain rfl : value = .object inner := by simpa using read
      exact ⟨name, mem_fields_of_field? found⟩
  · simp at read

end Instance

/-! ## Bodies call only nested objects -/

section Congruence

variable {model : ClassModel} {first second : Dispatch} {self : Instance}

theorem Dispatch.objectsEqual_congr {left right : Value}
    (agree : ∀ inner, left = .object inner → first inner = second inner) :
    first.objectsEqual left right = second.objectsEqual left right := by
  cases left with
  | object inner => simp only [objectsEqual, agree inner rfl]
  | _ => cases right <;> rfl

theorem Dispatch.hashValue_congr {value : Value}
    (agree : ∀ inner, value = .object inner → first inner = second inner) :
    first.hashValue value = second.hashValue value := by
  cases value with
  | object inner => simp only [hashValue, agree inner rfl]
  | _ => rfl

theorem Dispatch.display_congr {value : Value}
    (agree : ∀ inner, value = .object inner → first inner = second inner) :
    Dispatch.display model first value = Dispatch.display model second value := by
  cases value with
  | object inner => simp only [display, agree inner rfl]
  | bool value => cases value <;> rfl
  | _ => rfl

variable (agree : ∀ inner, self.Holds inner → first inner = second inner)
include agree

theorem Dispatch.fieldsEqual_congr (other : Instance) (names : List String) :
    first.fieldsEqual model self other names = second.fieldsEqual model self other names := by
  have fieldEqual_congr (name : String) :
      first.fieldEqual model self other name = second.fieldEqual model self other name := by
    unfold fieldEqual
    cases read : self.read model name with
    | error error => rfl
    | ok value =>
        cases other.read model name with
        | error error => rfl
        | ok compared =>
            refine objectsEqual_congr fun inner isObject => agree inner ?_
            exact Instance.holds_of_read (isObject ▸ read)
  induction names with
  | nil => rfl
  | cons name rest ih => rw [fieldsEqual, fieldsEqual, fieldEqual_congr, ih]

theorem Dispatch.equalsByFields_congr (className : String) (names : List String) (other : Value) :
    first.equalsByFields model className names self other =
      second.equalsByFields model className names self other := by
  cases other with
  | object content => simp only [equalsByFields, fieldsEqual_congr agree]
  | _ => rfl

theorem Instance.hashAll_congr (names : List String) :
    (self.readAll model names).bind first.hashAll =
      (self.readAll model names).bind second.hashAll := by
  have hashValues_congr : (self.readAll model names).bind first.hashValues =
      (self.readAll model names).bind second.hashValues := by
    induction names with
    | nil => rfl
    | cons name rest ih =>
        simp only [readAll]
        cases read : self.read model name with
        | error error => rfl
        | ok value =>
            have sameHash : first.hashValue value = second.hashValue value :=
              Dispatch.hashValue_congr fun inner isObject =>
                agree inner (holds_of_read (isObject ▸ read))
            cases further : self.readAll model rest with
            | error error => rfl
            | ok values =>
                rw [further] at ih
                simp only [Except.bind] at ih
                simp [bind, Except.bind, Dispatch.hashValues, sameHash, ih]
  cases values : self.readAll model names with
  | error error => rfl
  | ok values =>
      rw [values] at hashValues_congr
      simp only [Except.bind] at hashValues_congr
      simp [Except.bind, Dispatch.hashAll, hashValues_congr]

theorem Instance.listingItems_congr (omitNulls : Bool) (entries : List LabelledField) :
    listingItems model first self omitNulls entries =
      listingItems model second self omitNulls entries := by
  induction entries with
  | nil => rfl
  | cons entry rest ih =>
      simp only [listingItems]
      cases read : self.read model entry.field with
      | error error => rfl
      | ok value =>
          have sameText :
              Dispatch.display model first value = Dispatch.display model second value :=
            Dispatch.display_congr fun inner isObject =>
              agree inner (holds_of_read (isObject ▸ read))
          cases value <;> cases omitNulls <;> simp only [bind, Except.bind, ih, sameText]

/-- A generated method does the same with two ways of calling that agree on nested objects. -/
theorem Method.run_congr {method : Method} {className : String} {names : List String}
    (built : method.BuiltFor className names) (arguments : List Value) :
    method.run model first self arguments = method.run model second self arguments := by
  obtain ⟨helpers, built⟩ := built
  cases kind : method.kind with
  | toString =>
      simp only [kind, Synthesis.method?, Option.some.injEq] at built
      subst built
      rw [Synthesis.run_toStringMethod, Synthesis.run_toStringMethod, listingText, listingText,
        Instance.listingItems_congr agree]
  | hashCode =>
      simp only [kind, Synthesis.method?] at built
      rw [Synthesis.run_hashCodeMethod _ _ _ built, Synthesis.run_hashCodeMethod _ _ _ built,
        Instance.hashAll_congr agree]
  | equals =>
      simp only [kind, Synthesis.method?] at built
      cases arguments with
      | nil => rw [Synthesis.run_equalsMethod_nil built, Synthesis.run_equalsMethod_nil built]
      | cons other more =>
          rw [Synthesis.run_equalsMethod built, Synthesis.run_equalsMethod built,
            Dispatch.equalsByFields_congr agree]

end Congruence

/-! ## The limit does not show -/

/-- The calls that the evaluation makes at its top level. -/
def ClassModel.dispatch (model : ClassModel) : Dispatch :=
  fun self => self.invoke model

/-- A limit of at least the height of the object is as good as any other. -/
theorem invoke_eq_of_height_le {model : ClassModel} (synthesized : model.Synthesized)
    {self : Instance} (sound : self.Sound) {first second : Nat} (firstEnough : self.height ≤ first)
    (secondEnough : self.height ≤ second) : invoke model first self = invoke model second self := by
  induction sound generalizing first second with
  | @intro self height nested ih =>
      have sound : self.Sound := .intro height nested
      obtain ⟨first, rfl⟩ : ∃ limit, first = limit + 1 := ⟨first - 1, by omega⟩
      obtain ⟨second, rfl⟩ : ∃ limit, second = limit + 1 := ⟨second - 1, by omega⟩
      -- Nested objects are lower, so what is left of both limits is enough for them.
      have agree : ∀ inner, self.Holds inner →
          invoke model first inner = invoke model second inner := by
        intro inner held
        have lower := sound.height_lt held
        exact ih inner held (by omega) (by omega)
      funext kind arguments
      simp only [invoke]
      cases resolved : model.resolve self.owner kind with
      | error error => rfl
      | ok found =>
          cases found with
          | none => rfl
          | some method =>
              obtain ⟨id, _, decl, owner, member, _⟩ := ClassModel.of_resolve resolved
              obtain ⟨className, names, built⟩ := synthesized id decl owner method member
              exact Method.run_congr agree built arguments

theorem ClassModel.dispatch_apply (model : ClassModel) (self : Instance) :
    model.dispatch self = ValueMethods.invoke model self.callLimit self := by
  funext kind arguments
  rfl

theorem Instance.height_lt_callLimit (self : Instance) : self.height < self.callLimit := by
  unfold callLimit callReserve
  omega

/-- What a call does, without a limit. -/
theorem dispatch_eq {model : ClassModel} (synthesized : model.Synthesized) {self : Instance}
    (sound : self.Sound) (kind : ValueMethod) (arguments : List Value) :
    model.dispatch self kind arguments =
      match model.resolve self.owner kind with
      | .error error => .error error
      | .ok none => .ok (rootMethod model self kind arguments)
      | .ok (some method) => method.run model model.dispatch self arguments := by
  have room := self.height_lt_callLimit
  obtain ⟨limit, spare⟩ : ∃ limit, self.callLimit = limit + 1 := ⟨self.callLimit - 1, by omega⟩
  rw [ClassModel.dispatch_apply, spare]
  simp only [invoke]
  cases resolved : model.resolve self.owner kind with
  | error error => rfl
  | ok found =>
      cases found with
      | none => rfl
      | some method =>
          obtain ⟨id, _, decl, owner, member, _⟩ := ClassModel.of_resolve resolved
          obtain ⟨className, names, built⟩ := synthesized id decl owner method member
          refine Method.run_congr (fun inner held => ?_) built arguments
          have lower := sound.height_lt held
          have innerRoom := inner.height_lt_callLimit
          rw [ClassModel.dispatch_apply]
          exact invoke_eq_of_height_le synthesized (sound.of_holds held) (by omega) (by omega)

end ValueMethods
