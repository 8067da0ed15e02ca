import Mathlib.Data.List.Basic
import ValueMethods.Evaluation.Expression
import ValueMethods.Synthesis.Bodies

/-!
# What the generated bodies compute

Running a generated body gives a function of the fields it names, whatever a call on an object does.
`hashCode` hashes the fields in order; `equals` answers at once for the same object and for
everything that is not of exactly the same class, and otherwise compares the fields from left to
right; `toString` is a listing already.
-/

namespace ValueMethods

/-! ## Comparing and reading fields -/

/-- A conjunction of two answers; the right one counts only if the left one holds. -/
def bothHold (left right : Except EvalError Bool) : Except EvalError Bool :=
  match left with
  | .ok true => right
  | answer => answer

@[simp]
theorem bothHold_ok_true (right : Except EvalError Bool) : bothHold (.ok true) right = right := rfl

@[simp]
theorem bothHold_ok_false (right : Except EvalError Bool) :
    bothHold (.ok false) right = .ok false := rfl

@[simp]
theorem bothHold_error (error : EvalError) (right : Except EvalError Bool) :
    bothHold (.error error) right = .error error := rfl

theorem bothHold_true (left : Except EvalError Bool) : bothHold left (.ok true) = left := by
  rcases left with error | _ | _ <;> rfl

theorem bothHold_assoc (first second third : Except EvalError Bool) :
    bothHold (bothHold first second) third = bothHold first (bothHold second third) := by
  rcases first with error | _ | _ <;> rfl

/-- Where a sequence of two evaluations succeeds, so does each of them. -/
theorem exists_of_bind_eq_ok {α β : Type} {first : Except EvalError α}
    {next : α → Except EvalError β} {result : β} (done : first >>= next = .ok result) :
    ∃ value, first = .ok value ∧ next value = .ok result := by
  cases first with
  | error error => simp [bind, Except.bind] at done
  | ok value => exact ⟨value, rfl, done⟩

theorem bothHold_eq_ok {left right : Except EvalError Bool} {answer : Bool}
    (answered : bothHold left right = .ok answer) :
    left = .ok false ∧ answer = false ∨ left = .ok true ∧ right = .ok answer := by
  rcases left with error | _ | _
  · simp at answered
  · exact .inl ⟨rfl, by simpa using answered.symm⟩
  · exact .inr ⟨rfl, answered⟩

/-- The values of fields of an object, in order. -/
def Instance.readAll (model : ClassModel) (self : Instance) :
    List String → Except EvalError (List Value)
  | [] => .ok []
  | name :: rest => do
      let value ← self.read model name
      let values ← self.readAll model rest
      .ok (value :: values)

namespace Dispatch

/-- Whether two objects agree on a field. -/
def fieldEqual (model : ClassModel) (dispatch : Dispatch) (first second : Instance)
    (name : String) : Except EvalError Bool := do
  let left ← first.read model name
  let right ← second.read model name
  dispatch.objectsEqual left right

/-- Whether two objects agree on all fields of a list, compared in order and only up to the first
field on which they do not. -/
def fieldsEqual (model : ClassModel) (dispatch : Dispatch) (first second : Instance) :
    List String → Except EvalError Bool
  | [] => .ok true
  | name :: rest =>
      bothHold (dispatch.fieldEqual model first second name)
        (dispatch.fieldsEqual model first second rest)

/-- The equality that the fields define: an object equals itself, and otherwise only objects of
exactly its class that agree with it on the fields. -/
def equalsByFields (model : ClassModel) (dispatch : Dispatch) (className : String)
    (names : List String) (self : Instance) : Value → Except EvalError Bool
  | .object other =>
      if self.same other then
        .ok true
      else if self.owner = other.owner then
        if model.isInstance other.owner className then
          dispatch.fieldsEqual model self other names
        else
          .error (.classCast (model.qualifiedName other.owner) className)
      else
        .ok false
  | _ => .ok false

end Dispatch

/-! ## Running the bodies -/

namespace Synthesis

variable (model : ClassModel) (dispatch : Dispatch) (self : Instance)

theorem values_map_ownField (locals : Locals) (names : List String) :
    Expr.values model dispatch self locals (names.map .ownField) = self.readAll model names := by
  induction names with
  | nil => rfl
  | cons name rest ih =>
      simp only [List.map_cons, Expr.values, Expr.value, Instance.readAll, ih]

/-- The generated `hashCode` hashes the fields in order. -/
theorem run_hashCodeMethod {helpers : Helpers} {names : List String} {method : Method}
    (built : hashCodeMethod? helpers names = some method) (arguments : List Value) :
    method.run model dispatch self arguments =
      ((self.readAll model names).bind dispatch.hashAll).map .int := by
  cases names with
  | nil => simp [hashCodeMethod?] at built
  | cons first rest =>
      simp only [hashCodeMethod?, Option.some.injEq] at built
      subst built
      simp only [Method.run, Stmt.runAll, Stmt.run, Expr.value, values_map_ownField,
        Dispatch.staticCall]
      cases self.readAll model (first :: rest) with
      | error error => rfl
      | ok values =>
          cases hash : dispatch.hashAll values with
          | error error => simp [bind, Except.bind, Except.map, hash]
          | ok value => simp [bind, Except.bind, Except.map, hash]

/-- The generated `toString` is the listing of the fields. -/
theorem run_toStringMethod (helpers : Helpers) (className : String) (names : List String)
    (arguments : List Value) :
    (toStringMethod helpers className names).run model dispatch self arguments =
      (listingText model dispatch self
        (fieldListing helpers.toStringType className names)).map .text := by
  simp only [Method.run, toStringMethod, Stmt.runAll, Stmt.run, Expr.value]
  cases listingText model dispatch self (fieldListing helpers.toStringType className names) with
  | error error => rfl
  | ok shown => rfl

/-! ## The body of `equals` -/

/-- The value of an expression is the truth value that an answer gives. -/
def Decides (locals : Locals) (expression : Expr) (answer : Except EvalError Bool) : Prop :=
  expression.value model dispatch self locals = answer.map .bool

variable {model dispatch self} {locals : Locals}

theorem Decides.both {left right : Expr} {first second : Except EvalError Bool}
    (leftDecides : Decides model dispatch self locals left first)
    (rightDecides : Decides model dispatch self locals right second) :
    Decides model dispatch self locals (.binary .both left right) (bothHold first second) := by
  simp only [Decides, Expr.value] at *
  rw [leftDecides, rightDecides]
  rcases first with error | _ | _
  · rfl
  · rfl
  · rcases second with error | answer <;> rfl

theorem decides_fieldComparison {other : Instance}
    (bound : locals.lookup castName = some (.object other)) (objects : TypeName) (name : String) :
    Decides model dispatch self locals (fieldComparison objects name)
      (dispatch.fieldEqual model self other name) := by
  simp only [Decides, fieldComparison, Expr.value, Expr.values, bound, Dispatch.fieldEqual]
  cases left : self.read model name with
  | error error => simp [bind, Except.bind, Except.map, Value.readField, left]
  | ok first =>
      cases right : other.read model name with
      | error error => simp [bind, Except.bind, Except.map, Value.readField, left, right]
      | ok second =>
          cases answer : dispatch.objectsEqual first second <;>
            simp [bind, Except.bind, Except.map, Value.readField, left, right,
              Dispatch.staticCall, answer]

private theorem decides_foldl {other : Instance}
    (bound : locals.lookup castName = some (.object other)) (objects : TypeName)
    (names : List String) {joined : Expr} {answer : Except EvalError Bool}
    (decided : Decides model dispatch self locals joined answer) :
    Decides model dispatch self locals
      (names.foldl (fun joined name => .binary .both joined (fieldComparison objects name)) joined)
      (bothHold answer (dispatch.fieldsEqual model self other names)) := by
  induction names generalizing joined answer with
  | nil => simpa [Dispatch.fieldsEqual, bothHold_true] using decided
  | cons name rest ih =>
      rw [List.foldl_cons, Dispatch.fieldsEqual, ← bothHold_assoc]
      exact ih (decided.both (decides_fieldComparison bound objects name))

/-- The comparisons joined from the left decide whether the objects agree on all fields. -/
theorem decides_fieldComparisons {other : Instance}
    (bound : locals.lookup castName = some (.object other)) {objects : TypeName}
    {names : List String} {comparison : Expr}
    (built : fieldComparisons? objects names = some comparison) :
    Decides model dispatch self locals comparison
      (dispatch.fieldsEqual model self other names) := by
  cases names with
  | nil => simp [fieldComparisons?] at built
  | cons first rest =>
      simp only [fieldComparisons?, Option.some.injEq] at built
      subst built
      exact decides_foldl bound objects rest (decides_fieldComparison bound objects first)

theorem runAll_answerIf {condition : Expr} {holds : Bool}
    (decided : Decides model dispatch self locals condition (.ok holds)) (answer : Bool)
    (rest : List Stmt) :
    Stmt.runAll model dispatch self locals (answerIf condition answer :: rest) =
      if holds then .ok (locals, some (.bool answer))
      else Stmt.runAll model dispatch self locals rest := by
  simp only [answerIf, Stmt.runAll, Stmt.run]
  rw [decided]
  cases holds <;> rfl

/-- The class of a value that is not null, as the generated `equals` compares it. -/
private def classValue : Value → Value
  | .object content => .modelClass content.owner
  | value => .namedClass value.boxedClass

private theorem decides_differentClass (other : Value)
    (notNull : other.sameReference .null = false) :
    Decides model dispatch self [(otherName, other)]
      (.binary .different (.ownCall "getClass" []) (.callOn (.local otherName) "getClass" []))
      (.ok !(Value.modelClass self.owner).sameReference (classValue other)) := by
  cases other with
  | null => simp [Value.sameReference] at notNull
  | _ => rfl

/-- The end of the body, where the other object is of the same class. -/
private theorem runAll_castThenCompare {objects : TypeName} {className : String}
    {names : List String} {comparison : Expr}
    (built : fieldComparisons? objects names = some comparison) {other : Instance} :
    Stmt.runAll model dispatch self [(otherName, .object other)]
        [.declare className castName (.cast className (.local otherName)), .result comparison] =
      if model.isInstance other.owner className then
        (dispatch.fieldsEqual model self other names).map fun answer =>
          ([(castName, .object other), (otherName, .object other)], some (.bool answer))
      else
        .error (.classCast (model.qualifiedName other.owner) className) := by
  have bound : ([(castName, Value.object other), (otherName, .object other)] : Locals).lookup
      castName = some (.object other) := rfl
  have known : ([(otherName, Value.object other)] : Locals).lookup otherName =
      some (.object other) := rfl
  simp only [Stmt.runAll, Stmt.run, Expr.value, known, Value.castTo]
  by_cases cast : model.isInstance other.owner className
  · simp only [cast, ↓reduceIte, bind, Except.bind]
    rw [decides_fieldComparisons bound built]
    cases dispatch.fieldsEqual model self other names <;> rfl
  · simp [cast, bind, Except.bind]

/-- The generated `equals` is the equality that the fields define. -/
theorem run_equalsMethod {helpers : Helpers} {className : String} {names : List String}
    {method : Method} (built : equalsMethod? helpers className names = some method)
    (other : Value) (more : List Value) :
    method.run model dispatch self (other :: more) =
      (dispatch.equalsByFields model className names self other).map .bool := by
  simp only [equalsMethod?, Option.map_eq_some_iff] at built
  obtain ⟨comparison, joined, rfl⟩ := built
  have sameObject : Decides model dispatch self [(otherName, other)]
      (.binary .same .this (.local otherName))
      (.ok ((Value.object self).sameReference other)) := rfl
  have isNull : Decides model dispatch self [(otherName, other)]
      (.binary .same (.local otherName) .null) (.ok (other.sameReference .null)) := rfl
  simp only [Method.run, List.map_cons, List.map_nil, List.zip_cons_cons, List.zip_nil_left,
    List.reverse_singleton]
  rw [runAll_answerIf sameObject, runAll_answerIf isNull]
  cases other with
  | object content =>
      rw [runAll_answerIf (decides_differentClass (.object content) rfl)]
      simp only [Value.sameReference, classValue, Dispatch.equalsByFields]
      by_cases identical : self.same content
      · simp [identical, bind, Except.bind, Except.map]
      · by_cases sameClass : self.owner = content.owner
        · simp only [identical, sameClass, beq_self_eq_true, Bool.not_true, Bool.false_eq_true,
            ↓reduceIte]
          rw [runAll_castThenCompare joined]
          split
          · cases dispatch.fieldsEqual model self content names <;> rfl
          · rfl
        · simp [identical, sameClass, bind, Except.bind, Except.map]
  | null => rfl
  | _ => rfl

/-- Without an argument the generated `equals` has nothing to compare with. -/
theorem run_equalsMethod_nil {helpers : Helpers} {className : String} {names : List String}
    {method : Method} (built : equalsMethod? helpers className names = some method) :
    method.run model dispatch self [] = .error (.unboundLocal otherName) := by
  simp only [equalsMethod?, Option.map_eq_some_iff] at built
  obtain ⟨comparison, joined, rfl⟩ := built
  rfl

end Synthesis
end ValueMethods
