import ValueMethods.Proofs.Calls
import ValueMethods.Proofs.Outlines

/-!
# Settling decisions

What settling does to a class: methods that the decisions generate are attached if the class does
not have them, and nothing is taken away.  A plan that has just been made generates only methods
that its class does not have, all of them for the identity fields of the class.
-/

namespace ValueMethods

theorem ValueMethod.signature_injective {first second : ValueMethod}
    (same : first.signature = second.signature) : first = second := by
  revert same
  cases first <;> cases second <;> decide

/-- A generated method is owned under the signature of its kind. -/
theorem Method.BuiltFor.signature_eq {method : Method} {className : String} {names : List String}
    (built : method.BuiltFor className names) : method.signature = method.kind.signature := by
  obtain ⟨helpers, built⟩ := built
  cases kind : method.kind with
  | toString =>
      simp only [kind, Synthesis.method?, Option.some.injEq] at built
      rw [← built]
      rfl
  | hashCode =>
      cases names with
      | nil => simp [kind, Synthesis.method?, Synthesis.hashCodeMethod?] at built
      | cons first rest =>
          simp only [kind, Synthesis.method?, Synthesis.hashCodeMethod?,
            Option.some.injEq] at built
          rw [← built]
          rfl
  | equals =>
      simp only [kind, Synthesis.method?, Synthesis.equalsMethod?, Option.map_eq_some_iff] at built
      obtain ⟨comparison, _, same⟩ := built
      rw [← same]
      rfl

/-- With at least one field there is a body for every kind of value method. -/
theorem Synthesis.exists_method? (helpers : Helpers) (className : String) {names : List String}
    (nonempty : names ≠ []) (kind : ValueMethod) :
    ∃ method, method? helpers className names kind = some method := by
  obtain ⟨first, rest, rfl⟩ := List.exists_cons_of_ne_nil nonempty
  cases kind <;> exact ⟨_, rfl⟩

/-- Without any field there are no bodies for `hashCode` and `equals`. -/
theorem Synthesis.names_ne_nil {helpers : Helpers} {className : String} {names : List String}
    {kind : ValueMethod} {method : Method}
    (built : method? helpers className names kind = some method) (needsField : kind ≠ .toString) :
    names ≠ [] := by
  rintro rfl
  cases kind with
  | toString => exact needsField rfl
  | hashCode => simp [method?, hashCodeMethod?] at built
  | equals => simp [method?, equalsMethod?, fieldComparisons?] at built

/-- What is generated is the body for a class that is not abstract and has no such method. -/
theorem Synthesis.of_decide_eq_generate {options : Options} {decl : ClassDecl}
    {names : List String} {kind : ValueMethod} {method : Method}
    (decided : Synthesis.decide options decl names kind = .generate method) :
    decl.isAbstract = false ∧ decl.hasMethod kind.signature = false ∧
      method? options.helpers decl.name names kind = some method := by
  unfold Synthesis.decide at decided
  split at decided
  · simp at decided
  · split at decided
    · simp at decided
    · next concrete =>
        split at decided
        · simp at decided
        · next missing =>
            split at decided
            · next chosen built =>
                obtain rfl : chosen = method := Decision.generate.inj decided
                exact ⟨by simpa using concrete, by simpa using missing, built⟩
            · simp at decided

namespace Plan

/-! ## What becomes of a class -/

/-- One of the decisions is to generate the method. -/
def Generates (decisions : List (ValueMethod × Decision)) (method : Method) : Prop :=
  ∃ kind, (kind, .generate method) ∈ decisions

/-- What settling decisions leads to. -/
structure Settled (decisions : List (ValueMethod × Decision)) (before after : ClassDecl) :
    Prop where
  /-- A method that the class had stays. -/
  keeps : ∀ signature, before.hasMethod signature = true → after.hasMethod signature = true
  /-- A generated method that the class had stays. -/
  keepsGenerated : ∀ method ∈ before.generated, method ∈ after.generated
  /-- A method that has been attached was to be generated, and the class did not have it. -/
  attached : ∀ method ∈ after.generated, method ∈ before.generated ∨
    Generates decisions method ∧ before.hasMethod method.signature = false
  /-- The class has every method that was to be generated. -/
  owns : ∀ method, Generates decisions method → after.hasMethod method.signature = true
  /-- A method that the class has gained is a generated one. -/
  accounted : ∀ signature, after.hasMethod signature = true →
    before.hasMethod signature = true ∨ ∃ method ∈ after.generated, method.signature = signature

theorem Settled.of_nil (decl : ClassDecl) : Settled [] decl decl where
  keeps _ owned := owned
  keepsGenerated _ member := member
  attached _ member := .inl member
  owns _ planned := by simp [Generates] at planned
  accounted _ owned := .inl owned

theorem Settled.append {front back : List (ValueMethod × Decision)}
    {before between after : ClassDecl} (first : Settled front before between)
    (second : Settled back between after) : Settled (front ++ back) before after where
  keeps signature owned := second.keeps signature (first.keeps signature owned)
  keepsGenerated method member := second.keepsGenerated method (first.keepsGenerated method member)
  attached method member := by
    rcases second.attached method member with member | ⟨⟨kind, planned⟩, missing⟩
    · refine (first.attached method member).imp_right fun ⟨⟨kind, planned⟩, missing⟩ => ?_
      exact ⟨⟨kind, List.mem_append_left back planned⟩, missing⟩
    · refine .inr ⟨⟨kind, List.mem_append_right front planned⟩, ?_⟩
      -- What was missing in between was missing before, since nothing is taken away.
      by_contra owned
      rw [first.keeps method.signature (by simpa using owned)] at missing
      exact absurd missing (by simp)
  owns method planned := by
    obtain ⟨kind, planned⟩ := planned
    rcases List.mem_append.mp planned with planned | planned
    · exact second.keeps _ (first.owns method ⟨kind, planned⟩)
    · exact second.owns method ⟨kind, planned⟩
  accounted signature owned := by
    rcases second.accounted signature owned with owned | generated
    · refine (first.accounted signature owned).imp_right fun ⟨method, member, same⟩ => ?_
      exact ⟨method, second.keepsGenerated method member, same⟩
    · exact .inr generated

private theorem settled_settle (decl : ClassDecl) (kind : ValueMethod) (decision : Decision) :
    Settled [(kind, decision)] decl (decision.settle decl).1 := by
  cases decision with
  | leaveOut reason =>
      refine { Settled.of_nil decl with attached := ?_, owns := ?_ }
      · exact fun method member => .inl member
      · simp [Generates]
  | generate method =>
      have onlyOne (other : Method) (planned : Generates [(kind, .generate method)] other) :
          other = method := by
        simpa [Generates] using planned
      by_cases owned : decl.hasMethod method.signature = true
      · have unchanged : (Decision.generate method).settle decl =
            (decl, some .alreadyDefined) := by
          simp [Decision.settle, owned]
        rw [unchanged]
        refine { Settled.of_nil decl with attached := ?_, owns := ?_ }
        · exact fun other member => .inl member
        · exact fun other planned => onlyOne other planned ▸ owned
      · have changed : (Decision.generate method).settle decl = (decl.attach method, none) := by
          simp [Decision.settle, owned]
        have listed : (decl.attach method).generated = decl.generated ++ [method] := rfl
        rw [changed]
        constructor
        · exact fun signature had => by simp [had]
        · exact fun other member => by simp [listed, member]
        · intro other member
          rcases List.mem_append.mp (listed ▸ member) with member | added
          · exact .inl member
          · obtain rfl := List.mem_singleton.mp added
            exact .inr ⟨⟨kind, List.mem_cons_self⟩, by simpa using owned⟩
        · exact fun other planned => by simp [onlyOne other planned]
        · intro signature has
          rw [ClassDecl.hasMethod_attach, Bool.or_eq_true, beq_iff_eq] at has
          rcases has with same | had
          · exact .inr ⟨method, by simp [listed], same⟩
          · exact .inl had

theorem settled_settleAll (decl : ClassDecl) (decisions : List (ValueMethod × Decision)) :
    Settled decisions decl (settleAll decl decisions).1 := by
  induction decisions generalizing decl with
  | nil => exact .of_nil decl
  | cons entry rest ih =>
      obtain ⟨kind, decision⟩ := entry
      exact (settled_settle decl kind decision).append (ih (decision.settle decl).1)

/-- Settling a plan changes its class and no other. -/
theorem class?_settle (plan : Plan) (model : ClassModel) (id : ClassId) :
    (plan.settle model).1.class? id =
      if plan.target = id then
        (model.class? id).map fun decl => (settleAll decl plan.decisions).1
      else
        model.class? id := by
  unfold settle
  split
  · next decl found =>
      rw [ClassModel.class?_modify]
      split
      · next chosen => rw [← chosen, found, Option.map_some, Option.map_some]
      · rfl
  · next missing =>
      split
      · next chosen => rw [← chosen, missing, Option.map_none]
      · rfl

end Plan

/-! ## Plans that have just been made -/

namespace ClassModel

/-- What a new plan generates its class does not have, and it is built for that class. -/
theorem of_generates_plan {model : ClassModel} {options : Options} {id : ClassId}
    {method : Method} (planned : Plan.Generates (model.plan options id).decisions method) :
    ∃ decl, model.class? id = some decl ∧ decl.isAbstract = false ∧
      decl.hasMethod method.kind.signature = false ∧
      Synthesis.method? options.helpers decl.name (model.identityFields id).names method.kind =
        some method := by
  obtain ⟨kind, listed⟩ := planned
  simp only [plan] at listed
  split at listed
  · next decl found =>
      obtain ⟨other, _, same⟩ := List.mem_map.mp listed
      obtain ⟨rfl, decided⟩ := Prod.mk.inj same
      obtain ⟨concrete, missing, built⟩ := Synthesis.of_decide_eq_generate decided
      have sameKind := Synthesis.kind_of_method? built
      exact ⟨decl, found, concrete, sameKind ▸ missing, sameKind ▸ built⟩
  · simp at listed

/-- A new plan generates each of `hashCode` and `equals` that a concrete class does not have, if
there are identity fields. -/
theorem generates_plan (model : ClassModel) (options : Options) {id : ClassId} {decl : ClassDecl}
    (found : model.class? id = some decl) (concrete : decl.isAbstract = false)
    (hasFields : (model.identityFields id).names ≠ []) {kind : ValueMethod}
    (needsField : kind ≠ .toString) (missing : decl.hasMethod kind.signature = false) :
    ∃ method, Plan.Generates (model.plan options id).decisions method ∧ method.kind = kind := by
  obtain ⟨method, built⟩ :=
    Synthesis.exists_method? options.helpers decl.name hasFields kind
  refine ⟨method, ⟨kind, ?_⟩, Synthesis.kind_of_method? built⟩
  have listed : kind ∈ ValueMethod.all := by cases kind <;> decide
  simp only [plan, found]
  refine List.mem_map.mpr ⟨kind, listed, ?_⟩
  simp [Synthesis.decide, needsField, concrete, missing, built]

end ClassModel
end ValueMethods
