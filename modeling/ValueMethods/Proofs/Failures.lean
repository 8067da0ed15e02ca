import ValueMethods.Proofs.Lineage
import ValueMethods.Proofs.MadeObjects
import ValueMethods.Proofs.Processed

/-!
# How value methods fail

On objects that have been made on a processed model, generated methods find every field that they
read and every cast that they make succeeds.  What remains are methods that were there before, which
have no body to run.  An argument that has not been made on the model may lack a field that the
generated `equals` compares; that is the one other failure.
-/

namespace ValueMethods

/-- Every error of the evaluation is among these. -/
def FailsOnlyWith (errors : EvalError → Prop) {α : Type} (result : Except EvalError α) : Prop :=
  ∀ error, result = .error error → errors error

namespace FailsOnlyWith

variable {errors : EvalError → Prop} {α β : Type}

theorem ok (value : α) : FailsOnlyWith errors (.ok value) := by
  intro error failed
  simp at failed

theorem error {error : EvalError} (among : errors error) :
    FailsOnlyWith errors (.error error : Except EvalError α) := by
  intro other failed
  obtain rfl := Except.error.inj failed
  exact among

theorem bind {first : Except EvalError α} {next : α → Except EvalError β}
    (before : FailsOnlyWith errors first)
    (after : ∀ value, first = .ok value → FailsOnlyWith errors (next value)) :
    FailsOnlyWith errors (first.bind next) := by
  cases first with
  | error error => exact .error (before error rfl)
  | ok value => exact after value rfl

theorem bothHold {left right : Except EvalError Bool} (first : FailsOnlyWith errors left)
    (second : FailsOnlyWith errors right) : FailsOnlyWith errors (bothHold left right) := by
  rcases left with error | _ | _
  · exact first
  · exact ok false
  · exact second

theorem mono {others : EvalError → Prop} {result : Except EvalError α}
    (only : FailsOnlyWith errors result) (weaker : ∀ error, errors error → others error) :
    FailsOnlyWith others result :=
  fun error failed => weaker error (only error failed)

/-- Without any possible error an evaluation succeeds. -/
theorem exists_ok {result : Except EvalError α} (only : FailsOnlyWith errors result)
    (none : ∀ error, ¬errors error) : ∃ value, result = .ok value := by
  cases result with
  | error error => exact absurd (only error rfl) (none error)
  | ok value => exact ⟨value, rfl⟩

end FailsOnlyWith

/-! ## Fields -/

section Fields

variable {model : ClassModel} {errors : EvalError → Prop} {self : Instance} {names : List String}

theorem Dispatch.failsOnly_fieldsEqual {other : Instance}
    (fields : ∀ name ∈ names,
      FailsOnlyWith errors (model.dispatch.fieldEqual model self other name)) :
    FailsOnlyWith errors (model.dispatch.fieldsEqual model self other names) := by
  induction names with
  | nil => exact .ok true
  | cons name rest ih =>
      rw [fieldsEqual]
      exact (fields name List.mem_cons_self).bothHold
        (ih fun other member => fields other (List.mem_cons_of_mem name member))

variable (readable : ∀ name ∈ names, ∃ value, self.read model name = .ok value)
include readable

/-- The fields can be read, and each value is that of a field. -/
theorem Instance.exists_readAll : ∃ values, self.readAll model names = .ok values ∧
    ∀ value ∈ values, ∃ name, self.read model name = .ok value := by
  induction names with
  | nil => exact ⟨[], rfl, by simp⟩
  | cons name rest ih =>
      obtain ⟨value, read⟩ := readable name List.mem_cons_self
      obtain ⟨values, readRest, each⟩ := ih fun other member =>
        readable other (List.mem_cons_of_mem name member)
      refine ⟨value :: values, by simp [readAll, read, readRest, Bind.bind, Except.bind], ?_⟩
      rintro other (_ | ⟨_, member⟩)
      · exact ⟨name, read⟩
      · exact each other member

theorem Instance.failsOnly_hashAll
    (hashes : ∀ name value, self.read model name = .ok value →
      FailsOnlyWith errors (Value.hash model value)) :
    FailsOnlyWith errors ((self.readAll model names).bind model.dispatch.hashAll) := by
  obtain ⟨values, readAll, each⟩ := exists_readAll readable
  have onlyValues : FailsOnlyWith errors (model.dispatch.hashValues values) := by
    clear readAll
    induction values with
    | nil => exact .ok []
    | cons value rest ih =>
        obtain ⟨name, read⟩ := each value List.mem_cons_self
        refine (hashes name value read).bind fun hash _ => ?_
        refine (ih fun other member => each other (List.mem_cons_of_mem value member)).bind ?_
        exact fun others _ => .ok (hash :: others)
  rw [readAll]
  exact onlyValues.bind fun hashes _ => .ok (Hash.fold 1 hashes)

theorem Instance.failsOnly_listingText
    (texts : ∀ name value, self.read model name = .ok value →
      FailsOnlyWith errors (Value.shown model value)) (helper : TypeName) (className : String) :
    FailsOnlyWith errors (listingText model model.dispatch self
      (Synthesis.fieldListing helper className names)) := by
  have onlyItems : FailsOnlyWith errors (listingItems model model.dispatch self true
      (names.map fun name => ⟨name, name⟩)) := by
    induction names with
    | nil => exact .ok []
    | cons name rest ih =>
        have onlyRest := ih fun other member => readable other (List.mem_cons_of_mem name member)
        obtain ⟨value, read⟩ := readable name List.mem_cons_self
        by_cases null : value = .null
        · rw [List.map_cons, listingItems_cons_null (null ▸ read)]
          exact onlyRest
        · rw [List.map_cons, listingItems_cons_value read null]
          refine (texts name value read).bind fun shown _ => ?_
          exact onlyRest.bind fun items _ => .ok ((name ++ "=" ++ shown) :: items)
  exact onlyItems.bind fun items _ => .ok _

end Fields

/-! ## Values -/

section Values

variable {model : ClassModel} {errors : EvalError → Prop} {value : Value}

theorem Value.failsOnly_equals {other : Value}
    (objects : ∀ inner, value = .object inner →
      FailsOnlyWith errors (inner.equals model other)) :
    FailsOnlyWith errors (Value.equals model value other) := by
  rcases value.object_or_plain with ⟨inner, rfl⟩ | plain
  · rw [Value.equals_object]
    split
    · exact .ok true
    · exact objects inner rfl
  · obtain ⟨answer, answered, _⟩ := Value.equals_plain model plain other
    rw [answered]
    exact .ok answer

theorem Value.failsOnly_hash
    (objects : ∀ inner, value = .object inner → FailsOnlyWith errors (inner.hashCode model)) :
    FailsOnlyWith errors (Value.hash model value) := by
  cases value with
  | object inner => exact objects inner rfl
  | _ => exact .ok _

theorem Value.failsOnly_shown
    (objects : ∀ inner, value = .object inner → FailsOnlyWith errors (inner.text model)) :
    FailsOnlyWith errors (Value.shown model value) := by
  cases value with
  | object inner => exact objects inner rfl
  | bool value => cases value <;> exact .ok _
  | _ => exact .ok _

end Values

/-! ## Methods -/

/-- The error of calling a method that a class had when the model was built. -/
def OpaqueIn (built : ClassModel) (kind : ValueMethod) (error : EvalError) : Prop :=
  ∃ id decl, built.class? id = some decl ∧ decl.hasMethod kind.signature = true ∧
    error = .opaqueMethod decl.qualifiedName kind

/-- The object is the value or nested in it. -/
inductive Value.Contains : Value → Instance → Prop
  /-- The value itself. -/
  | here (content : Instance) : Contains (.object content) content
  /-- An object in a field. -/
  | inside {content inner deep : Instance} (held : content.Holds inner)
      (within : Contains (.object inner) deep) : Contains (.object content) deep

/-- The error of reading an identity field that an object in the value does not have. -/
def LacksField (model : ClassModel) (value : Value) (error : EvalError) : Prop :=
  ∃ inner name, value.Contains inner ∧ name ∈ (model.identityFields inner.owner).names ∧
    inner.field? name = none ∧ error = .noSuchField (model.qualifiedName inner.owner) name

/-- What the value of a field lacks the object lacks. -/
theorem LacksField.of_read {model : ClassModel} {content : Instance} {name : String}
    {value : Value} (read : content.read model name = .ok value) {error : EvalError}
    (lacks : LacksField model value error) : LacksField model (.object content) error := by
  obtain ⟨deep, missing, within, listed, absent, rfl⟩ := lacks
  refine ⟨deep, missing, ?_, listed, absent, rfl⟩
  cases within with
  | here => exact .inside (Instance.holds_of_read read) (.here deep)
  | inside held within =>
      exact .inside (Instance.holds_of_read read) (.inside held within)

/-- Reading an identity field fails only where the object lacks it. -/
theorem Instance.failsOnly_read {model : ClassModel} (content : Instance) {name : String}
    (listed : name ∈ (model.identityFields content.owner).names) :
    FailsOnlyWith (LacksField model (.object content)) (content.read model name) := by
  intro error failed
  unfold Instance.read at failed
  split at failed
  · simp at failed
  · next absent =>
      exact ⟨content, name, .here content, listed, absent, (Except.error.inj failed).symm⟩

/-- What a call on an object of a class of a processed model runs into: an opaque method, the root
method, or a generated method that the objects of the class have all fields for. -/
inductive ClassModel.Meets (built model : ClassModel) (id : ClassId) (kind : ValueMethod) : Prop
  | opaqueBody (error : EvalError) (resolved : model.resolve id kind = .error error)
      (earlier : OpaqueIn built kind error)
  | root (resolved : model.resolve id kind = .ok none)
  | generated (method : Method) (className : String) (names : List String)
      (resolved : model.resolve id kind = .ok (some method))
      (body : method.BuiltFor className names) (cast : model.isInstance id className = true)
      (fields : names ⊆ (model.identityFields id).names)

theorem ClassModel.Follows.meets {built model : ClassModel} (follows : built.Follows model)
    (id : ClassId) (kind : ValueMethod) : ClassModel.Meets built model id kind := by
  cases resolved : model.resolve id kind with
  | error error => exact .opaqueBody error resolved (follows.error_of_resolve resolved)
  | ok found =>
      cases found with
      | none => exact .root resolved
      | some method =>
          obtain ⟨ancestor, above, decl, found, body⟩ := follows.of_resolve resolved
          exact .generated method decl.name _ resolved body (isInstance_of_mem_lineage above found)
            (identityNames_subset above)

section Made

variable {built model : ClassModel} (follows : built.Follows model) {self : Instance}
  (made : self.MadeOn (· = model))
include follows made

theorem Instance.failsOnly_hashCode :
    FailsOnlyWith (OpaqueIn built .hashCode) (self.hashCode model) := by
  have sound := made.sound
  induction sound with
  | @intro self height nested ih =>
      have sound := made.sound
      cases follows.meets self.owner .hashCode with
      | opaqueBody error resolved earlier =>
          rw [hashCode_of_resolve_error follows.synthesized sound resolved]
          exact .error earlier
      | root resolved =>
          rw [hashCode_of_resolve_none follows.synthesized sound resolved]
          exact .ok _
      | generated method className names resolved body _ fields =>
          rw [hashCode_of_resolve follows.synthesized sound resolved body]
          refine failsOnly_hashAll (fun name listed => made.exists_read (fields listed)) ?_
          intro name value read
          refine Value.failsOnly_hash ?_
          rintro inner rfl
          have held := holds_of_read read
          exact ih inner held (made.of_holds held)

theorem Instance.failsOnly_text :
    FailsOnlyWith (OpaqueIn built .toString) (self.text model) := by
  have sound := made.sound
  induction sound with
  | @intro self height nested ih =>
      have sound := made.sound
      cases follows.meets self.owner .toString with
      | opaqueBody error resolved earlier =>
          rw [text_of_resolve_error follows.synthesized sound resolved]
          exact .error earlier
      | root resolved =>
          rw [text_of_resolve_none follows.synthesized sound resolved]
          exact .ok _
      | generated method className names resolved body _ fields =>
          obtain ⟨helper, answers⟩ := text_of_resolve follows.synthesized sound resolved body
          rw [answers]
          refine failsOnly_listingText (fun name listed => made.exists_read (fields listed)) ?_
            helper className
          intro name value read
          refine Value.failsOnly_shown ?_
          rintro inner rfl
          have held := holds_of_read read
          exact ih inner held (made.of_holds held)

/-- For any argument at all, `equals` fails only on an opaque method, or on a field that an object
in the argument should have. -/
theorem Instance.failsOnly_equals (other : Value) :
    FailsOnlyWith (fun error => OpaqueIn built .equals error ∨ LacksField model other error)
      (self.equals model other) := by
  have sound := made.sound
  induction sound generalizing other with
  | @intro self height nested ih =>
      have sound := made.sound
      cases follows.meets self.owner .equals with
      | opaqueBody error resolved earlier =>
          rw [equals_of_resolve_error follows.synthesized sound resolved]
          exact .error (.inl earlier)
      | root resolved =>
          rw [equals_of_resolve_none follows.synthesized sound resolved]
          exact .ok _
      | generated method className names resolved body cast fields =>
          rw [equals_of_resolve follows.synthesized sound resolved body]
          cases other with
          | object content =>
              rw [Dispatch.equalsByFields]
              split
              · exact .ok true
              · split
                · next owners =>
                    -- Only here does the argument matter: its fields are read for the same class.
                    rw [← owners, cast, if_pos rfl]
                    refine Dispatch.failsOnly_fieldsEqual fun name listed => ?_
                    obtain ⟨left, leftRead⟩ := made.exists_read (fields listed)
                    have compares : model.dispatch.fieldEqual model self content name =
                        (content.read model name).bind (Value.equals model left) := by
                      rw [Dispatch.fieldEqual, leftRead]
                      rfl
                    rw [compares]
                    refine FailsOnlyWith.bind ?_ fun right rightRead => ?_
                    · have only := failsOnly_read content (owners ▸ fields listed)
                      exact only.mono fun _ lacks => .inr lacks
                    · refine Value.failsOnly_equals ?_
                      rintro inner rfl
                      have held := holds_of_read leftRead
                      refine (ih inner held (made.of_holds held) right).mono fun error => ?_
                      exact Or.imp_right (LacksField.of_read rightRead)
                · exact .ok false
          | _ => exact .ok false

end Made

theorem Value.Contains.of_holds {value : Value} {deep : Instance} {objects : Instance → Prop}
    (closed : ∀ self inner, objects self → self.Holds inner → objects inner)
    (contains : value.Contains deep) (within : value.Within objects) : objects deep := by
  induction contains with
  | here content => exact within content rfl
  | @inside content inner deep held _ ih =>
      apply ih
      rintro other same
      obtain rfl := Value.object.inj same
      exact closed content inner (within content rfl) held

/-- What has been made on the model lacks no field. -/
theorem not_lacksField {model : ClassModel} {value : Value}
    (made : value.Within (Instance.MadeOn (· = model))) (error : EvalError) :
    ¬LacksField model value error := by
  rintro ⟨inner, name, contains, listed, absent, _⟩
  have innerMade : inner.MadeOn (· = model) :=
    contains.of_holds (fun _ _ made held => made.of_holds held) made
  obtain ⟨value, present⟩ := innerMade.exists_field? listed
  simp [absent] at present

/-- On an object made on a processed model, value methods succeed or fail on a method that a class
of the model had before; only `equals` may also fail on a field that an object in its argument
lacks, and not if the argument has been made on the model. -/
theorem valueMethods_fail_only_opaquely {built : ClassModel} (isBuilt : built.Built)
    (runs : List Options) {self : Instance} (made : self.MadeOn (· = built.processed runs)) :
    let model := built.processed runs
    (∀ other, FailsOnlyWith
      (fun error => OpaqueIn built .equals error ∨ LacksField model other error)
      (self.equals model other)) ∧
    (∀ other : Value, other.Within (Instance.MadeOn (· = model)) →
      FailsOnlyWith (OpaqueIn built .equals) (self.equals model other)) ∧
    FailsOnlyWith (OpaqueIn built .hashCode) (self.hashCode model) ∧
    FailsOnlyWith (OpaqueIn built .toString) (self.text model) ∧
    ((∀ id decl, built.class? id = some decl →
        ∀ kind : ValueMethod, decl.hasMethod kind.signature = false) →
      (∀ other : Value, other.Within (Instance.MadeOn (· = model)) →
        ∃ answer, self.equals model other = .ok answer) ∧
      (∃ hash, self.hashCode model = .ok hash) ∧ ∃ text, self.text model = .ok text) := by
  intro model
  have follows : built.Follows model := isBuilt.follows_processed runs
  have onModel (other : Value) (within : other.Within (Instance.MadeOn (· = model))) :
      FailsOnlyWith (OpaqueIn built .equals) (self.equals model other) := by
    refine (Instance.failsOnly_equals follows made other).mono fun error => ?_
    exact fun either => either.resolve_right (not_lacksField within error)
  have hashes := Instance.failsOnly_hashCode follows made
  have texts := Instance.failsOnly_text follows made
  refine ⟨Instance.failsOnly_equals follows made, onModel, hashes, texts, fun free => ?_⟩
  have impossible (kind : ValueMethod) (error : EvalError) : ¬OpaqueIn built kind error := by
    rintro ⟨id, decl, found, owned, _⟩
    simp [free id decl found kind] at owned
  refine ⟨fun other within => ?_, hashes.exists_ok (impossible .hashCode),
    texts.exists_ok (impossible .toString)⟩
  exact (onModel other within).exists_ok (impossible .equals)

/-! ### A superclass that comes late -/

/-- A class without fields, and a class with one. -/
def derivedAndBase : List Construction :=
  [.addClass ⟨"Derived", none, false, [], none⟩ [],
    .addClass ⟨"Base", none, false, [⟨"x", "int", false⟩], none⟩ []]

/-- The model with both classes, the second made the superclass of the first only at the end. -/
def lateSuperclass : ClassModel :=
  .constructAll .empty (derivedAndBase ++ [.extend 0 1])

/-- An object of the first class that was made before it had a superclass. -/
def earlyObject : Instance := .make 1 0 5 []

/-- An object of the first class that was made after the generation run. -/
def lateObject : Instance := .make 2 0 6 [("x", .int 5)]

theorem earlyObject_madeOn :
    earlyObject.MadeOn (· = ClassModel.constructAll .empty derivedAndBase) := by
  have made : Allocator.instantiate ⟨1, 5⟩ (.constructAll .empty derivedAndBase) 0 [] =
      .ok (earlyObject, .next ⟨1, 5⟩) := rfl
  exact .instantiate rfl (by simp) made

theorem lateObject_madeOn : lateObject.MadeOn (· = lateSuperclass.processed [.default]) := by
  have made : Allocator.instantiate ⟨2, 6⟩ (lateSuperclass.processed [.default]) 0
      [("x", .int 5)] = .ok (lateObject, .next ⟨2, 6⟩) := rfl
  exact .instantiate rfl (by simp) made

theorem lateSuperclass_declares_nothing (id : ClassId) (decl : ClassDecl)
    (found : lateSuperclass.class? id = some decl) (kind : ValueMethod) :
    decl.hasMethod kind.signature = false := by
  have free : (lateSuperclass.classes.all fun decl =>
      ValueMethod.all.all fun kind => !decl.hasMethod kind.signature) = true := by
    decide +kernel
  have listed : kind ∈ ValueMethod.all := by cases kind <;> decide
  simpa using List.all_eq_true.mp
    (List.all_eq_true.mp free decl (List.mem_of_getElem? found)) kind listed

/-- On the late object, nothing fails with arguments made on the model. -/
theorem valueMethods_succeed_on_lateObject :
    let model := lateSuperclass.processed [.default]
    (∀ other : Value, other.Within (Instance.MadeOn (· = model)) →
        ∃ answer, lateObject.equals model other = .ok answer) ∧
      (∃ hash, lateObject.hashCode model = .ok hash) ∧
      ∃ text, lateObject.text model = .ok text :=
  (valueMethods_fail_only_opaquely (.inSteps _) [.default] lateObject_madeOn).2.2.2.2
    lateSuperclass_declares_nothing

/-- An argument that was made too early makes `equals` fail, although no class of the model had any
value method before. -/
theorem equals_fails_on_earlyObject :
    let model := lateSuperclass.processed [.default]
    lateSuperclass.Built ∧ lateObject.MadeOn (· = model) ∧
      earlyObject.MadeOn (· = ClassModel.constructAll .empty derivedAndBase) ∧
      (∀ id decl, lateSuperclass.class? id = some decl →
        ∀ kind : ValueMethod, decl.hasMethod kind.signature = false) ∧
      lateObject.equals model (.object earlyObject) = .error (.noSuchField "Derived" "x") :=
  ⟨.inSteps _, lateObject_madeOn, earlyObject_madeOn, lateSuperclass_declares_nothing,
    by decide +kernel⟩

end ValueMethods
