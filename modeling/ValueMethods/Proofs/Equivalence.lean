import ValueMethods.Proofs.ObjectGraph
import ValueMethods.Proofs.Workshop

/-!
# Equality is an equivalence

Comparisons may fail, and one may fail where the opposite one succeeds, since a comparison of fields
stops at the first difference.  Where comparisons succeed, they are those of an equivalence
relation.  The induction is on the first object: its fields are compared with what comes from the
other objects, and what they hold is lower.
-/

namespace ValueMethods

/-- The comparisons that succeed are those of an equivalence relation on the domain. -/
structure EquivalenceWhereAnswered {α : Type} (domain : α → Prop)
    (compare : α → α → Except EvalError Bool) : Prop where
  /-- Nothing is found to differ from itself. -/
  reflexive : ∀ first, domain first → compare first first ≠ .ok false
  /-- Comparisons in both directions do not contradict each other. -/
  symmetric : ∀ first second, domain first → domain second → ∀ forward backward,
    compare first second = .ok forward → compare second first = .ok backward → forward = backward
  /-- What is equal to an equal is not found to differ. -/
  transitive : ∀ first second third, domain first → domain second → domain third →
    compare first second = .ok true → compare second third = .ok true →
    ∀ answer, compare first third = .ok answer → answer = true

section Fields

variable {model : ClassModel} {first second third : Instance} {names : List String}

/-- Comparing fields is symmetric if comparing the values of each field is. -/
theorem Dispatch.fieldsEqual_symm
    (symmetric : ∀ name left right, first.read model name = .ok left →
      second.read model name = .ok right → ∀ forward backward,
        Value.equals model left right = .ok forward →
        Value.equals model right left = .ok backward → forward = backward)
    {forward backward : Bool}
    (there : model.dispatch.fieldsEqual model first second names = .ok forward)
    (back : model.dispatch.fieldsEqual model second first names = .ok backward) :
    forward = backward := by
  have fieldSymmetric {name : String} {one other : Bool}
      (there : model.dispatch.fieldEqual model first second name = .ok one)
      (back : model.dispatch.fieldEqual model second first name = .ok other) : one = other := by
    obtain ⟨left, right, leftRead, rightRead, compared⟩ := Dispatch.fieldEqual_eq_ok there
    obtain ⟨right', left', rightRead', leftRead', compared'⟩ := Dispatch.fieldEqual_eq_ok back
    obtain rfl : left = left' := Except.ok.inj (leftRead ▸ leftRead')
    obtain rfl : right = right' := Except.ok.inj (rightRead ▸ rightRead')
    exact symmetric name left right leftRead rightRead one other compared compared'
  induction names with
  | nil =>
      simp only [fieldsEqual, Except.ok.injEq] at there back
      rw [← there, ← back]
  | cons name rest ih =>
      rw [fieldsEqual] at there back
      rcases bothHold_eq_ok there with ⟨field, rfl⟩ | ⟨field, there⟩
      · rcases bothHold_eq_ok back with ⟨_, rfl⟩ | ⟨field', _⟩
        · rfl
        · exact absurd (fieldSymmetric field field') (by simp)
      · rcases bothHold_eq_ok back with ⟨field', _⟩ | ⟨_, back⟩
        · exact absurd (fieldSymmetric field field') (by simp)
        · exact ih there back

/-- Comparing fields is transitive if comparing the values of each field is. -/
theorem Dispatch.fieldsEqual_trans
    (transitive : ∀ name left middle right, first.read model name = .ok left →
      second.read model name = .ok middle → third.read model name = .ok right →
      Value.equals model left middle = .ok true → Value.equals model middle right = .ok true →
      ∀ answer, Value.equals model left right = .ok answer → answer = true)
    (front : model.dispatch.fieldsEqual model first second names = .ok true)
    (back : model.dispatch.fieldsEqual model second third names = .ok true) {answer : Bool}
    (answered : model.dispatch.fieldsEqual model first third names = .ok answer) :
    answer = true := by
  induction names with
  | nil => simpa [fieldsEqual] using answered.symm
  | cons name rest ih =>
      rw [fieldsEqual] at front back answered
      obtain ⟨frontField, front⟩ := (bothHold_eq_ok front).resolve_left (by simp)
      obtain ⟨backField, back⟩ := (bothHold_eq_ok back).resolve_left (by simp)
      rcases bothHold_eq_ok answered with ⟨field, rfl⟩ | ⟨_, answered⟩
      · obtain ⟨left, middle, leftRead, middleRead, compared⟩ := fieldEqual_eq_ok frontField
        obtain ⟨middle', right, middleRead', rightRead, compared'⟩ := fieldEqual_eq_ok backField
        obtain ⟨left', right', leftRead', rightRead', compared''⟩ := fieldEqual_eq_ok field
        obtain rfl : left = left' := Except.ok.inj (leftRead ▸ leftRead')
        obtain rfl : middle = middle' := Except.ok.inj (middleRead ▸ middleRead')
        obtain rfl : right = right' := Except.ok.inj (rightRead ▸ rightRead')
        exact transitive name left middle right leftRead middleRead rightRead compared compared'
          false compared''
      · exact ih front back answered

end Fields

section Graph

variable {model : ClassModel} (synthesized : model.Synthesized) {objects : Instance → Prop}
  (graph : ObjectGraph objects)

/-! ## Values, if their objects are compared well -/

include synthesized graph

private theorem plain_symm {first second : Value} (plain : ∀ inner, first ≠ .object inner)
    (right : second.Within objects) {forward backward : Bool}
    (there : Value.equals model first second = .ok forward)
    (back : Value.equals model second first = .ok backward) : forward = backward := by
  obtain ⟨answer, answered, forwardIff⟩ := Value.equals_plain model plain second
  obtain rfl : answer = forward := Except.ok.inj (answered.symm.trans there)
  rw [Bool.eq_iff_iff, forwardIff]
  rcases Value.object_or_plain second with ⟨inner, rfl⟩ | secondPlain
  · constructor
    · exact fun same => absurd same (plain inner)
    · rintro rfl
      obtain ⟨content, same⟩ :=
        Value.exists_object_of_equals synthesized (graph.sound (right inner rfl)) back
      exact absurd same (plain content)
  · obtain ⟨answer', answered', backwardIff⟩ := Value.equals_plain model secondPlain first
    obtain rfl : answer' = backward := Except.ok.inj (answered'.symm.trans back)
    rw [backwardIff, eq_comm]

private theorem value_symm {first second : Value} (left : first.Within objects)
    (right : second.Within objects)
    (objectSymm : ∀ inner other, first = .object inner → objects other → ∀ forward backward,
      inner.equals model (.object other) = .ok forward →
      other.equals model (.object inner) = .ok backward → forward = backward)
    {forward backward : Bool} (there : Value.equals model first second = .ok forward)
    (back : Value.equals model second first = .ok backward) : forward = backward := by
  rcases Value.object_or_plain first with ⟨inner, rfl⟩ | plain
  · rcases Value.object_or_plain second with ⟨other, rfl⟩ | plain
    · have agree (same : inner = other) : forward = backward := by
        subst same
        exact Except.ok.inj (there.symm.trans back)
      rcases Value.equals_object_object there with ⟨same, _⟩ | ⟨_, called⟩
      · exact agree (graph.eq_of_same (left inner rfl) (right other rfl) same)
      · rcases Value.equals_object_object back with ⟨same, _⟩ | ⟨_, calledBack⟩
        · exact agree (graph.eq_of_same (right other rfl) (left inner rfl) same).symm
        · exact objectSymm inner other rfl (right other rfl) forward backward called calledBack
    · exact (plain_symm synthesized graph plain left back there).symm
  · exact plain_symm synthesized graph plain right there back

private theorem value_trans {first second third : Value} (left : first.Within objects)
    (middle : second.Within objects) (right : third.Within objects)
    (objectTrans : ∀ inner between other, first = .object inner → objects between →
      objects other → inner.equals model (.object between) = .ok true →
      between.equals model (.object other) = .ok true → ∀ answer,
      inner.equals model (.object other) = .ok answer → answer = true)
    (front : Value.equals model first second = .ok true)
    (back : Value.equals model second third = .ok true) {answer : Bool}
    (answered : Value.equals model first third = .ok answer) : answer = true := by
  rcases Value.object_or_plain first with ⟨inner, rfl⟩ | plain
  · obtain ⟨between, rfl⟩ :=
      Value.exists_object_of_equals synthesized (graph.sound (left inner rfl)) front
    obtain ⟨other, rfl⟩ :=
      Value.exists_object_of_equals synthesized (graph.sound (middle between rfl)) back
    rcases Value.equals_object_object front with ⟨same, _⟩ | ⟨_, frontCalled⟩
    · obtain rfl := graph.eq_of_same (left inner rfl) (middle between rfl) same
      exact Except.ok.inj (answered.symm.trans back)
    · rcases Value.equals_object_object back with ⟨same, _⟩ | ⟨_, backCalled⟩
      · obtain rfl := graph.eq_of_same (middle between rfl) (right other rfl) same
        exact Except.ok.inj (answered.symm.trans front)
      · rcases Value.equals_object_object answered with ⟨_, rfl⟩ | ⟨_, called⟩
        · rfl
        · exact objectTrans inner between other rfl (middle between rfl) (right other rfl)
            frontCalled backCalled answer called
  · -- What is equal to something that is no object is that thing.
    obtain ⟨_, frontAnswer, frontIff⟩ := Value.equals_plain model plain second
    obtain rfl := Except.ok.inj (frontAnswer.symm.trans front)
    obtain rfl := frontIff.mp rfl
    exact Except.ok.inj (answered.symm.trans back)

/-! ## Objects -/

private theorem siblings_symm {id : ClassId} {first second : Instance} (left : objects first)
    (right : objects second)
    (nested : ∀ inner, first.Holds inner → ∀ other, objects other → ∀ forward backward,
      inner.equals model (.object other) = .ok forward →
      other.equals model (.object inner) = .ok backward → forward = backward)
    (siblings : Instance.Siblings id first second) (swapped : Instance.Siblings id second first)
    {forward backward : Bool} (there : first.equals model (.object second) = .ok forward)
    (back : second.equals model (.object first) = .ok backward) : forward = backward := by
  rcases synthesized.compares_siblings id with ⟨_, answers⟩ | answers | ⟨names, answers⟩
  · simp [answers first second siblings] at there
  · rw [answers first second siblings] at there
    rw [answers second first swapped] at back
    exact Except.ok.inj (there.symm.trans back)
  · rw [answers first second siblings] at there
    rw [answers second first swapped] at back
    refine Dispatch.fieldsEqual_symm ?_ there back
    intro name leftValue rightValue leftRead rightRead one other
    refine value_symm synthesized graph (graph.within_of_read left leftRead)
      (graph.within_of_read right rightRead) ?_
    rintro inner outside rfl
    exact nested inner (Instance.holds_of_read leftRead) outside

theorem Instance.equals_symm {first : Instance} (left : objects first) :
    ∀ second, objects second → ∀ forward backward,
      first.equals model (.object second) = .ok forward →
      second.equals model (.object first) = .ok backward → forward = backward := by
  have sound := graph.sound left
  induction sound with
  | @intro first height nested ih =>
      intro second right forward backward there back
      have firstSound := graph.sound left
      have secondSound := graph.sound right
      cases same : first.same second with
      | true =>
          obtain rfl := graph.eq_of_same left right same
          exact Except.ok.inj (there.symm.trans back)
      | false =>
          have swapped : second.same first = false := by
            rw [← same, Instance.same, Instance.same, Bool.beq_comm]
          by_cases owners : first.owner = second.owner
          · refine siblings_symm synthesized graph left right ?_
              ⟨firstSound, rfl, owners.symm, same⟩ ⟨secondSound, owners.symm, rfl, swapped⟩
              there back
            exact fun inner held => ih inner held (graph.closed first left inner held)
          · rw [equals_of_owner_ne synthesized firstSound same owners there,
              equals_of_owner_ne synthesized secondSound swapped (Ne.symm owners) back]

private theorem siblings_trans {id : ClassId} {first second third : Instance}
    (left : objects first) (middle : objects second) (right : objects third)
    (nested : ∀ inner, first.Holds inner → ∀ between other, objects between → objects other →
      inner.equals model (.object between) = .ok true →
      between.equals model (.object other) = .ok true → ∀ answer,
      inner.equals model (.object other) = .ok answer → answer = true)
    (frontSiblings : Instance.Siblings id first second)
    (backSiblings : Instance.Siblings id second third)
    (siblings : Instance.Siblings id first third)
    (front : first.equals model (.object second) = .ok true)
    (back : second.equals model (.object third) = .ok true) {answer : Bool}
    (answered : first.equals model (.object third) = .ok answer) : answer = true := by
  rcases synthesized.compares_siblings id with ⟨_, answers⟩ | answers | ⟨names, answers⟩
  · simp [answers first second frontSiblings] at front
  · simp [answers first second frontSiblings] at front
  · rw [answers first second frontSiblings] at front
    rw [answers second third backSiblings] at back
    rw [answers first third siblings] at answered
    refine Dispatch.fieldsEqual_trans ?_ front back answered
    intro name leftValue middleValue rightValue leftRead middleRead rightRead frontValues backValues
      answer answered
    refine value_trans synthesized graph (graph.within_of_read left leftRead)
      (graph.within_of_read middle middleRead) (graph.within_of_read right rightRead) ?_
      frontValues backValues answered
    rintro inner between other rfl
    exact nested inner (Instance.holds_of_read leftRead) between other

theorem Instance.equals_trans {first : Instance} (left : objects first) :
    ∀ second third, objects second → objects third →
      first.equals model (.object second) = .ok true →
      second.equals model (.object third) = .ok true → ∀ answer,
      first.equals model (.object third) = .ok answer → answer = true := by
  have sound := graph.sound left
  induction sound with
  | @intro first height nested ih =>
      intro second third middle right front back answer answered
      have firstSound := graph.sound left
      have secondSound := graph.sound middle
      -- The graph settles what is the same object; only different objects are compared by fields.
      cases frontSame : first.same second with
      | true =>
          obtain rfl := graph.eq_of_same left middle frontSame
          exact Except.ok.inj (answered.symm.trans back)
      | false =>
          cases backSame : second.same third with
          | true =>
              obtain rfl := graph.eq_of_same middle right backSame
              exact Except.ok.inj (answered.symm.trans front)
          | false =>
              cases same : first.same third with
              | true => exact equals_of_same synthesized firstSound same answered
              | false =>
                  have frontOwners : first.owner = second.owner := by
                    by_contra owners
                    have unequal := equals_of_owner_ne synthesized firstSound frontSame owners front
                    simp at unequal
                  have backOwners : second.owner = third.owner := by
                    by_contra owners
                    have unequal := equals_of_owner_ne synthesized secondSound backSame owners back
                    simp at unequal
                  have owners := (frontOwners.trans backOwners).symm
                  refine siblings_trans synthesized graph left middle right ?_
                    ⟨firstSound, rfl, frontOwners.symm, frontSame⟩
                    ⟨secondSound, frontOwners.symm, owners, backSame⟩
                    ⟨firstSound, rfl, owners, same⟩ front back answered
                  exact fun inner held => ih inner held (graph.closed first left inner held)

theorem Instance.equivalenceWhereAnswered :
    EquivalenceWhereAnswered objects fun first second => first.equals model (.object second) where
  reflexive first member answered :=
    absurd (equals_of_same synthesized (graph.sound member) (by simp [same]) answered) (by simp)
  symmetric _ second left right := equals_symm synthesized graph left second right
  transitive _ second third left middle right :=
    equals_trans synthesized graph left second third middle right

theorem Value.equivalenceWhereAnswered :
    EquivalenceWhereAnswered (Value.Within objects) (Value.equals model) where
  reflexive first member answered := by
    rcases Value.object_or_plain first with ⟨inner, rfl⟩ | plain
    · simp [Value.equals_object, Value.sameReference, Instance.same] at answered
    · obtain ⟨answer, found, same⟩ := Value.equals_plain model plain first
      obtain rfl : answer = false := Except.ok.inj (found.symm.trans answered)
      simp at same
  symmetric first second left right forward backward there back := by
    refine value_symm synthesized graph left right ?_ there back
    rintro inner other rfl member
    exact Instance.equals_symm synthesized graph (left inner rfl) other member
  transitive first second third left middle right front back answer answered := by
    refine value_trans synthesized graph left middle right ?_ front back answered
    rintro inner between other rfl betweenMember otherMember
    exact Instance.equals_trans synthesized graph (left inner rfl) between other betweenMember
      otherMember

end Graph

/-! ## Equality after any work on a model -/

/-- Whatever has been done to a model, generated equality is an equivalence relation as far as it
answers, on objects and on all values, and no object is equal to null. -/
theorem equality_isEquivalence_after_run (operations : List Operation)
    {objects : Instance → Prop} (graph : ObjectGraph objects) :
    let model := (Workshop.empty.run operations).model
    (EquivalenceWhereAnswered objects fun first second => first.equals model (.object second)) ∧
      (∀ self, objects self → self.equals model .null ≠ .ok true) ∧
      EquivalenceWhereAnswered (Value.Within objects) (Value.equals model) := by
  intro model
  have synthesized : model.Synthesized :=
    (Workshop.coherent_run_empty operations).model.synthesized
  refine ⟨Instance.equivalenceWhereAnswered synthesized graph, ?_,
    Value.equivalenceWhereAnswered synthesized graph⟩
  intro self member
  exact Instance.equals_ne_true synthesized (graph.sound member) (by simp)

/-! ### Points in boxes -/

/-- A class of points and a class of boxes that hold one, both with all value methods. -/
def boxedPoints : List Operation :=
  [.build (.addClass ⟨"Point", none, false, [⟨"x", "int", false⟩], none⟩ []),
    .build (.addClass ⟨"Box", none, false, [⟨"content", "Point", false⟩], none⟩ []),
    .generate .default]

/-- A point. -/
def point (reference : Nat) (x : Int32) : Instance :=
  .make reference 0 (Int32.ofNat reference) [("x", .int x)]

/-- A box that holds an object. -/
def box (reference : Nat) (content : Instance) : Instance :=
  .make reference 1 (Int32.ofNat reference) [("content", .object content)]

/-- Two points with the same coordinate, and a box for each. -/
def pointsAndBoxes : List Instance :=
  [point 1 3, point 2 3, box 3 (point 1 3), box 4 (point 2 3)]

theorem objectGraph_pointsAndBoxes : ObjectGraph (· ∈ pointsAndBoxes) where
  closed self member inner held := by
    obtain ⟨name, held⟩ := held
    simp only [pointsAndBoxes, List.mem_cons, List.not_mem_nil, or_false] at member ⊢
    rcases member with rfl | rfl | rfl | rfl <;>
      simp [point, box, Instance.make, Instance.fields] at held
    · exact .inl held.2
    · exact .inr (.inl held.2)
  determined first second left right same := by
    simp only [pointsAndBoxes, List.mem_cons, List.not_mem_nil, or_false] at left right
    rcases left with rfl | rfl | rfl | rfl <;> rcases right with rfl | rfl | rfl | rfl <;>
      simp_all [point, box, Instance.make, Instance.reference]
  made self member := by
    simp only [pointsAndBoxes, List.mem_cons, List.not_mem_nil, or_false] at member
    rcases member with rfl | rfl | rfl | rfl <;> exact ⟨_, _, _, _, rfl⟩

/-- The boxes are different objects that are equal, and so in both directions. -/
theorem equality_isEquivalence_on_boxes :
    let model := (Workshop.empty.run boxedPoints).model
    (box 3 (point 1 3)).equals model (.object (box 4 (point 2 3))) = .ok true ∧
      (EquivalenceWhereAnswered (· ∈ pointsAndBoxes) fun first second =>
        first.equals model (.object second)) ∧
      (∀ self ∈ pointsAndBoxes, self.equals model .null ≠ .ok true) ∧
      EquivalenceWhereAnswered (Value.Within (· ∈ pointsAndBoxes)) (Value.equals model) :=
  ⟨by decide +kernel, equality_isEquivalence_after_run boxedPoints objectGraph_pointsAndBoxes⟩

end ValueMethods
