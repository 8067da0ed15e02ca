import Mathlib.Data.List.Forall2
import ValueMethods.Proofs.History

/-!
# Each method has one owner

A method of a class is either declared or generated, never both, and there is at most one generated
method of each kind.  Settling a plan reports of each of its methods whether it has been attached or
was there before, even if the plan is old or has been settled before.
-/

namespace ValueMethods

/-! ## What settling reports -/

/-- What is said of a decision, given the methods that have been attached: a planned method has been
attached, or it is reported as defined already. -/
def Plan.Reports (attached : List Method) : ValueMethod × Decision → Outcome → Prop
  | (kind, .generate method), outcome =>
      outcome.kind = kind ∧ method.kind = kind ∧
        (method ∈ attached ∧ outcome.omission = none ∨
          method ∉ attached ∧ outcome.omission = some .alreadyDefined)
  | (kind, .leaveOut reason), outcome => outcome = ⟨kind, some reason⟩

namespace Plan

theorem reports_outcomeOn {decisions : List (ValueMethod × Decision)}
    (orderly : Orderly decisions) (decl : ClassDecl) {entry : ValueMethod × Decision}
    (listed : entry ∈ decisions) :
    Reports (attachments decl decisions) entry (outcomeOn decl entry) := by
  obtain ⟨kind, decision⟩ := entry
  cases decision with
  | leaveOut reason => rfl
  | generate method =>
      refine ⟨rfl, (orderly.built kind method listed).1, ?_⟩
      rw [mem_attachments_iff]
      cases owned : decl.hasMethod method.signature with
      | true => exact .inr ⟨by simp, by simp [outcomeOn, owned]⟩
      | false => exact .inl ⟨⟨⟨kind, listed⟩, rfl⟩, by simp [outcomeOn, owned]⟩

/-- Settling on a class appends planned methods to the generated ones, and it reports on all
decisions in order. -/
theorem exists_reports_settleAll {decisions : List (ValueMethod × Decision)}
    (orderly : Orderly decisions) (decl : ClassDecl) : ∃ attached,
      (settleAll decl decisions).1.generated = decl.generated ++ attached ∧
        (∀ method ∈ attached, Generates decisions method) ∧
        List.Forall₂ (Reports attached) decisions (settleAll decl decisions).2 := by
  refine ⟨attachments decl decisions, ?_, ?_, ?_⟩
  · rw [settleAll_eq orderly, ClassDecl.generated_attachAll]
  · intro method member
    exact (mem_attachments_iff.mp member).1
  · rw [settleAll_eq orderly, List.forall₂_map_right_iff, List.forall₂_same]
    intro entry listed
    exact reports_outcomeOn orderly decl listed

/-- Settling a plan on a model does so for its class.  A plan for a class that is not there decides
nothing. -/
theorem exists_reports_settle {plan : Plan} (orderly : Orderly plan.decisions) (model : ClassModel)
    (idle : model.class? plan.target = none → plan.decisions = []) : ∃ attached,
      (plan.settle model).1.generatedOf plan.target =
        model.generatedOf plan.target ++ attached ∧
      (∀ method ∈ attached, Generates plan.decisions method) ∧
      List.Forall₂ (Reports attached) plan.decisions (plan.settle model).2 := by
  have settled := class?_settle plan model plan.target
  rw [if_pos rfl] at settled
  cases found : model.class? plan.target with
  | none =>
      have unchanged : plan.settle model = (model, []) := by
        simp [settle, found]
      exact ⟨[], by simp [unchanged], by simp, by simp [unchanged, idle found]⟩
  | some decl =>
      obtain ⟨attached, appended, planned, reported⟩ := exists_reports_settleAll orderly decl
      rw [found, Option.map_some] at settled
      have outcomes : (plan.settle model).2 = (settleAll decl plan.decisions).2 := by
        simp [settle, found]
      refine ⟨attached, ?_, planned, outcomes ▸ reported⟩
      rw [ClassModel.generatedOf_of_class? settled, appended,
        ClassModel.generatedOf_of_class? found]

end Plan

/-! ## Declared and generated methods -/

namespace ClassDecl

theorem disjoint_declared_generated (decl : ClassDecl) :
    List.Disjoint decl.declaredMethods (decl.generated.map Method.signature) :=
  fun signature declared => ((decl.mem_declaredMethods_iff signature).mp declared).2

/-- Where the class has the signatures of its generated methods, it has no others but the declared
ones. -/
theorem hasMethod_iff_declared_or_generated {decl : ClassDecl}
    (owned : ∀ method ∈ decl.generated, decl.hasMethod method.signature = true)
    (signature : Signature) :
    decl.hasMethod signature = true ↔
      signature ∈ decl.declaredMethods ∨ signature ∈ decl.generated.map Method.signature := by
  rw [mem_declaredMethods_iff]
  constructor
  · intro has
    by_cases also : signature ∈ decl.generated.map Method.signature
    · exact .inr also
    · exact .inl ⟨has, also⟩
  · rintro (⟨has, _⟩ | also)
    · exact has
    · obtain ⟨method, member, rfl⟩ := List.mem_map.mp also
      exact owned method member

end ClassDecl

/-- A plan that was made for a class that was not there decides nothing, and classes stay. -/
theorem Workshop.decisions_eq_nil {operations : List Operation} {plan : Plan}
    (kept : plan ∈ (empty.run operations).plans)
    (missing : (empty.run operations).model.class? plan.target = none) : plan.decisions = [] := by
  rcases (coherent_run_empty operations).plans plan kept with nothing | ⟨decl, found, _⟩
  · exact nothing
  · rw [missing] at found
    simp at found

/-- Whatever has been done to a model, and however late and often plans were settled: a class has at
most one generated method of each kind, each under the signature of its kind and attached when
nobody had declared it; declared and generated methods together are all methods of the class, and no
method is both; and settling any plan that was made appends what it reports as generated and reports
the rest of what it planned as defined already. -/
theorem methods_have_one_owner_after_run (operations : List Operation) :
    let workshop := Workshop.empty.run operations
    (∀ id decl, workshop.model.class? id = some decl →
      (decl.generated.map Method.kind).Nodup ∧
      (∀ method ∈ decl.generated, method.signature = method.kind.signature ∧
        decl.hasMethod method.signature = true) ∧
      (∀ method ∈ decl.generated, ∃ front operation back,
        operations = front ++ operation :: back ∧
        method ∉ (Workshop.empty.run front).model.generatedOf id ∧
        method ∈ (Workshop.empty.run (front ++ [operation])).model.generatedOf id ∧
        ¬DeclaredIn front id method.signature) ∧
      (∀ signature, decl.hasMethod signature = true ↔
        signature ∈ decl.declaredMethods ∨ signature ∈ decl.generated.map Method.signature) ∧
      List.Disjoint decl.declaredMethods (decl.generated.map Method.signature)) ∧
    ∀ plan ∈ workshop.plans, ∃ attached,
      (plan.settle workshop.model).1.generatedOf plan.target =
        workshop.model.generatedOf plan.target ++ attached ∧
      (∀ method ∈ attached, method ∈ plan.methods) ∧
      List.Forall₂ (Plan.Reports attached) plan.decisions (plan.settle workshop.model).2 := by
  intro workshop
  have accounted := Workshop.accounted_run operations
  constructor
  · intro id decl found
    refine ⟨accounted.nodup_kinds found, ?_, ?_, ?_, decl.disjoint_declared_generated⟩
    · intro method member
      exact ⟨accounted.signature_eq found member, accounted.hasMethod found member⟩
    · intro method member
      rw [← ClassModel.generatedOf_of_class? found] at member
      exact Workshop.exists_attaching operations id member
    · exact ClassDecl.hasMethod_iff_declared_or_generated
        fun method member => accounted.hasMethod found member
  · intro plan kept
    have orderly := Workshop.orderly_plans_run operations plan kept
    obtain ⟨attached, appended, planned, reported⟩ :=
      Plan.exists_reports_settle orderly workshop.model (Workshop.decisions_eq_nil kept)
    refine ⟨attached, appended, fun method member => ?_, reported⟩
    obtain ⟨kind, listed⟩ := planned method member
    exact List.mem_filterMap.mpr ⟨_, listed, rfl⟩

/-! ### A plan settled twice -/

/-- A plan is settled before and after `hashCode` is declared with a body of its own, and another
class gets an `equals` of its own before the plan for it is settled. -/
def repeatedPlan : List Operation :=
  [.build (.addClass ⟨"Pair", none, false, [⟨"x", "int", false⟩], none⟩ []),
    .build (.addClass ⟨"Single", none, false, [⟨"z", "int", false⟩], none⟩ []),
    .prepare .default 0, .prepare .default 1,
    .settle 0, .build (.declare 0 ValueMethod.hashCode.signature (some "int hashCode();")),
    .settle 0, .build (.declare 1 ValueMethod.equals.signature none)]

/-- The class has three generated methods, and settling its plan once more would attach none of
them; of the other plan, only the declared `equals` would be left out. -/
theorem methods_have_one_owner_on_repeatedPlan :
    let workshop := Workshop.empty.run repeatedPlan
    (∃ pair, workshop.model.class? 0 = some pair ∧ pair.generated.length = 3 ∧
      (pair.generated.map Method.kind).Nodup ∧
      List.Disjoint pair.declaredMethods (pair.generated.map Method.signature)) ∧
    (workshop.plans.map fun plan => (plan.settle workshop.model).2.map Outcome.omission) =
      [[some .alreadyDefined, some .alreadyDefined, some .alreadyDefined],
        [none, none, some .alreadyDefined]] ∧
    ∀ plan ∈ workshop.plans, ∃ attached,
      (plan.settle workshop.model).1.generatedOf plan.target =
        workshop.model.generatedOf plan.target ++ attached ∧
      List.Forall₂ (Plan.Reports attached) plan.decisions (plan.settle workshop.model).2 := by
  intro workshop
  obtain ⟨owned, settled⟩ := methods_have_one_owner_after_run repeatedPlan
  obtain ⟨pair, found, three⟩ : ∃ pair, workshop.model.class? 0 = some pair ∧
      pair.generated.length = 3 := ⟨_, rfl, rfl⟩
  obtain ⟨kinds, _, _, _, disjoint⟩ := owned 0 pair found
  refine ⟨⟨pair, found, three, kinds, disjoint⟩, by decide +kernel, fun plan kept => ?_⟩
  obtain ⟨attached, appended, _, reported⟩ := settled plan kept
  exact ⟨attached, appended, reported⟩

end ValueMethods
