import ValueMethods.Proofs.Answers

/-!
# Object graphs

Objects that are compared with each other come from one graph, in which the reference of an object
determines everything about it.  How a class compares its objects depends on the class alone: it
may fail always, compare references, or compare fields.
-/

namespace ValueMethods

/-- Objects that exist together. -/
structure ObjectGraph (objects : Instance → Prop) : Prop where
  /-- What an object of the graph holds is in the graph. -/
  closed : ∀ self, objects self → ∀ inner, self.Holds inner → objects inner
  /-- There are no two objects with one reference. -/
  determined : ∀ first second, objects first → objects second →
    first.reference = second.reference → first = second
  /-- Every object has been made from its fields. -/
  made : ∀ self, objects self → ∃ reference owner identity fields,
    self = Instance.make reference owner identity fields

namespace ObjectGraph

variable {objects : Instance → Prop} (graph : ObjectGraph objects)
include graph

theorem sound {self : Instance} (member : objects self) : self.Sound := by
  obtain ⟨bound, low⟩ : ∃ bound, self.height ≤ bound := ⟨self.height, Nat.le_refl _⟩
  induction bound generalizing self with
  | zero =>
      obtain ⟨reference, owner, identity, fields, rfl⟩ := graph.made self member
      simp [Instance.make, Instance.height] at low
  | succ bound ih =>
      have height : self.height = Value.heightOfFields self.fields + 1 := by
        obtain ⟨reference, owner, identity, fields, rfl⟩ := graph.made self member
        rfl
      refine .intro height fun inner held => ih (graph.closed self member inner held) ?_
      have lower := Instance.height_le_of_holds held
      omega

theorem eq_of_same {first second : Instance} (member : objects first) (other : objects second)
    (same : first.same second = true) : first = second :=
  graph.determined first second member other (by simpa [Instance.same] using same)

theorem within_of_read {model : ClassModel} {self : Instance} (member : objects self)
    {name : String} {value : Value} (read : self.read model name = .ok value) :
    value.Within objects := by
  rintro inner rfl
  exact graph.closed self member inner (Instance.holds_of_read read)

end ObjectGraph

/-! ## How a class compares its objects -/

/-- How the objects of a class answer `equals`. -/
inductive Instance.Compares (model : ClassModel) (id : ClassId) : Prop
  /-- No comparison succeeds. -/
  | never (error : EvalError)
      (answers : ∀ self : Instance, self.Sound → self.owner = id →
        ∀ other, self.equals model other = .error error)
  /-- Objects are equal only to themselves. -/
  | references
      (answers : ∀ self : Instance, self.Sound → self.owner = id →
        ∀ other, self.equals model other = .ok ((Value.object self).sameReference other))
  /-- Objects are equal if they agree on fields. -/
  | fields (className : String) (names : List String)
      (answers : ∀ self : Instance, self.Sound → self.owner = id → ∀ other,
        self.equals model other = model.dispatch.equalsByFields model className names self other)

theorem ClassModel.Synthesized.compares {model : ClassModel} (synthesized : model.Synthesized)
    (id : ClassId) : Instance.Compares model id := by
  cases resolved : model.resolve id .equals with
  | error error =>
      refine .never error fun self sound owner => ?_
      exact Instance.equals_of_resolve_error synthesized sound (owner ▸ resolved)
  | ok found =>
      cases found with
      | none =>
          refine .references fun self sound owner => ?_
          exact Instance.equals_of_resolve_none synthesized sound (owner ▸ resolved)
      | some method =>
          obtain ⟨ancestor, _, decl, found, member, _⟩ := ClassModel.of_resolve resolved
          obtain ⟨className, names, built⟩ := synthesized ancestor decl found method member
          refine .fields className names fun self sound owner => ?_
          exact Instance.equals_of_resolve synthesized sound (owner ▸ resolved) built

/-- Different objects of one class. -/
structure Instance.Siblings (id : ClassId) (first second : Instance) : Prop where
  sound : first.Sound
  left : first.owner = id
  right : second.owner = id
  different : first.same second = false

/-- How different objects of a class answer `equals`. -/
inductive Instance.ComparesSiblings (model : ClassModel) (id : ClassId) : Prop
  /-- No comparison succeeds. -/
  | never (error : EvalError)
      (answers : ∀ first second : Instance, Siblings id first second →
        first.equals model (.object second) = .error error)
  /-- No two of them are equal. -/
  | differ
      (answers : ∀ first second : Instance, Siblings id first second →
        first.equals model (.object second) = .ok false)
  /-- They are equal if they agree on fields. -/
  | fields (names : List String)
      (answers : ∀ first second : Instance, Siblings id first second →
        first.equals model (.object second) =
          model.dispatch.fieldsEqual model first second names)

theorem ClassModel.Synthesized.compares_siblings {model : ClassModel}
    (synthesized : model.Synthesized) (id : ClassId) : Instance.ComparesSiblings model id := by
  rcases synthesized.compares id with ⟨error, answers⟩ | answers | ⟨className, names, answers⟩
  · refine .never error fun first second siblings => ?_
    exact answers first siblings.sound siblings.left (.object second)
  · refine .differ fun first second siblings => ?_
    rw [answers first siblings.sound siblings.left, Value.sameReference, siblings.different]
  · have compared {first second : Instance} (siblings : Instance.Siblings id first second) :
        first.equals model (.object second) =
          if model.isInstance id className then
            model.dispatch.fieldsEqual model first second names
          else
            .error (.classCast (model.qualifiedName id) className) := by
      rw [answers first siblings.sound siblings.left, Dispatch.equalsByFields]
      simp [siblings.different, siblings.left, siblings.right]
    cases cast : model.isInstance id className with
    | true => exact .fields names fun first second siblings => by simp [compared siblings, cast]
    | false => exact .never _ fun first second siblings => by rw [compared siblings, cast]; rfl

namespace Instance

variable {model : ClassModel} (synthesized : model.Synthesized) {self : Instance}
  (sound : self.Sound)
include synthesized sound

theorem equals_of_same {other : Instance} (same : self.same other = true) {answer : Bool}
    (answered : self.equals model (.object other) = .ok answer) : answer = true := by
  rcases synthesized.compares self.owner with ⟨error, answers⟩ | answers | ⟨_, _, answers⟩
  · simp [answers self sound rfl] at answered
  · simpa [answers self sound rfl, Value.sameReference, same] using answered.symm
  · simpa [answers self sound rfl, Dispatch.equalsByFields, same] using answered.symm

/-- Different objects of different classes are never equal. -/
theorem equals_of_owner_ne {other : Instance} (different : self.same other = false)
    (owners : self.owner ≠ other.owner) {answer : Bool}
    (answered : self.equals model (.object other) = .ok answer) : answer = false := by
  rcases synthesized.compares self.owner with ⟨error, answers⟩ | answers | ⟨_, _, answers⟩
  · simp [answers self sound rfl] at answered
  · simpa [answers self sound rfl, Value.sameReference, different] using answered.symm
  · simpa [answers self sound rfl, Dispatch.equalsByFields, different, owners] using answered.symm

/-- No object is equal to what is not an object. -/
theorem equals_ne_true {other : Value} (plain : ∀ inner, other ≠ .object inner) :
    self.equals model other ≠ .ok true := by
  intro answered
  rcases synthesized.compares self.owner with ⟨error, answers⟩ | answers | ⟨_, _, answers⟩
  · simp [answers self sound rfl] at answered
  · cases other with
    | object inner => exact plain inner rfl
    | _ => simp [answers self sound rfl, Value.sameReference] at answered
  · cases other with
    | object inner => exact plain inner rfl
    | _ => simp [answers self sound rfl, Dispatch.equalsByFields] at answered

end Instance

/-- Only an object is equal to an object. -/
theorem Value.exists_object_of_equals {model : ClassModel} (synthesized : model.Synthesized)
    {self : Instance} (sound : self.Sound) {other : Value}
    (answered : Value.equals model (.object self) other = .ok true) :
    ∃ content, other = .object content := by
  by_contra plain
  have plain : ∀ inner, other ≠ .object inner := fun inner same => plain ⟨inner, same⟩
  rw [Value.equals_object] at answered
  split at answered
  · next same =>
      cases other with
      | object inner => exact plain inner rfl
      | _ => simp [Value.sameReference] at same
  · exact Instance.equals_ne_true synthesized sound plain answered

/-- Different objects are compared by a call. -/
theorem Value.equals_object_object {model : ClassModel} {first second : Instance} {answer : Bool}
    (answered : Value.equals model (.object first) (.object second) = .ok answer) :
    first.same second = true ∧ answer = true ∨
      first.same second = false ∧ first.equals model (.object second) = .ok answer := by
  rw [Value.equals_object] at answered
  split at answered
  · next same => exact .inl ⟨same, by simpa using answered.symm⟩
  · next different => exact .inr ⟨by simpa [Value.sameReference] using different, answered⟩

end ValueMethods
