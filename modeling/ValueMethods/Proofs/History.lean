import Mathlib.Data.List.Induction
import Mathlib.Data.List.Nodup
import ValueMethods.Proofs.Attaching
import ValueMethods.Proofs.Workshop

/-!
# Where the methods of a class come from

In the course of work on a model, a method of a class is either declared from outside, when the
class is added or later, or generated and attached.  Each operation says which methods it declares;
everything else that a class gains is a generated method that the class did not have.  So the
methods of a class are those that were declared in the run so far and those that are generated, and
no method is attached after it has been declared.
-/

namespace ValueMethods

/-! ## Declarations from outside -/

/-- The step, taken on the model, declares the method of the class. -/
def Construction.Declares (model : ClassModel) (id : ClassId) (signature : Signature) :
    Construction → Prop
  | .addClass outline methods =>
      id = model.size ∧ signature ∈ methods.map Prod.fst ∧
        ∃ extended, model.addClass (outline.decl methods) = .ok extended
  | .declare target declared _ => target = id ∧ declared = signature ∧ id < model.size
  | .extend _ _ => False
  | .extendExternal _ _ => False

def Operation.Declares (model : ClassModel) (id : ClassId) (signature : Signature) :
    Operation → Prop
  | .build step => step.Declares model id signature
  | _ => False

/-- The options of a generation run or of a plan. -/
def Operation.options? : Operation → Option Options
  | .generate options => some options
  | .prepare options _ => some options
  | _ => none

/-- One of the operations, carried out in order from the start, declares the method of the class. -/
def DeclaredIn (operations : List Operation) (id : ClassId) (signature : Signature) : Prop :=
  ∃ front operation back, operations = front ++ operation :: back ∧
    operation.Declares (Workshop.empty.run front).model id signature

theorem not_declaredIn_nil (id : ClassId) (signature : Signature) :
    ¬DeclaredIn [] id signature := by
  rintro ⟨front, operation, back, split, _⟩
  simp at split

theorem declaredIn_concat_iff {operations : List Operation} {operation : Operation} {id : ClassId}
    {signature : Signature} :
    DeclaredIn (operations ++ [operation]) id signature ↔
      DeclaredIn operations id signature ∨
        operation.Declares (Workshop.empty.run operations).model id signature := by
  constructor
  · rintro ⟨front, other, back, split, declares⟩
    rcases List.eq_nil_or_concat back with rfl | ⟨rest, last, rfl⟩
    · obtain ⟨rfl, same⟩ := List.append_inj' split rfl
      obtain rfl := List.singleton_inj.mp same
      exact .inr declares
    · have longer : operations ++ [operation] = (front ++ other :: rest) ++ [last] := by
        rw [split, List.concat_eq_append, List.append_assoc, List.cons_append]
      obtain ⟨rfl, _⟩ := List.append_inj' longer rfl
      exact .inl ⟨front, other, rest, rfl, declares⟩
  · rintro (⟨front, other, back, rfl, declares⟩ | declares)
    · exact ⟨front, other, back ++ [operation], by simp, declares⟩
    · exact ⟨operations, operation, [], rfl, declares⟩

/-- A method of a class is declared exactly if no generated one has its signature. -/
theorem ClassDecl.mem_declaredMethods_iff (decl : ClassDecl) (signature : Signature) :
    signature ∈ decl.declaredMethods ↔
      decl.hasMethod signature = true ∧ signature ∉ decl.generated.map Method.signature := by
  rw [declaredMethods, List.mem_filter, ← MethodTable.has_iff_mem_signatures, hasMethod,
    Bool.not_eq_true', hasGenerated, List.any_eq_false, List.mem_map]
  simp

namespace ClassModel

/-! ## What a class has gained -/

/-- The class with that handle is there and has the method. -/
def Owns (model : ClassModel) (id : ClassId) (signature : Signature) : Prop :=
  ∃ decl, model.class? id = some decl ∧ decl.hasMethod signature = true

/-- The generated methods of a class; none for a class that is not there. -/
def generatedOf (model : ClassModel) (id : ClassId) : List Method :=
  (model.class? id).elim [] ClassDecl.generated

section Lookup

variable {model : ClassModel} {id : ClassId} {decl : ClassDecl}

theorem owns_iff_of_class? (found : model.class? id = some decl) {signature : Signature} :
    model.Owns id signature ↔ decl.hasMethod signature = true := by
  simp [Owns, found]

theorem not_owns_of_class? (missing : model.class? id = none) {signature : Signature} :
    ¬model.Owns id signature := by
  simp [Owns, missing]

theorem generatedOf_of_class? (found : model.class? id = some decl) :
    model.generatedOf id = decl.generated := by
  simp [generatedOf, found]

theorem generatedOf_of_class?_none (missing : model.class? id = none) :
    model.generatedOf id = [] := by
  simp [generatedOf, missing]

end Lookup

/-- Between two models a class has gained methods that were declared and methods that were attached.
What has been attached is new to the class, and no two attached methods have one signature. -/
structure Gains (before after : ClassModel) (id : ClassId) (declared : Signature → Prop)
    (attached : List Method) : Prop where
  generated : after.generatedOf id = before.generatedOf id ++ attached
  owns : ∀ signature, after.Owns id signature ↔
    before.Owns id signature ∨ (∃ method ∈ attached, method.signature = signature) ∨
      declared signature
  missing : ∀ method ∈ attached, ¬before.Owns id method.signature
  different : (attached.map Method.signature).Nodup
  built : ∀ method ∈ attached, ∃ className names, method.BuiltFor className names

namespace Gains

variable {before between after : ClassModel} {id : ClassId}

/-- Nothing is attached where the generated methods stay as they are. -/
theorem of_declared {declared : Signature → Prop}
    (generated : after.generatedOf id = before.generatedOf id)
    (owns : ∀ signature, after.Owns id signature ↔ before.Owns id signature ∨ declared signature) :
    Gains before after id declared [] where
  generated := by rw [generated, List.append_nil]
  owns signature := by simp [owns]
  missing := by simp
  different := List.nodup_nil
  built := by simp

theorem of_class?_eq (same : after.class? id = before.class? id) :
    Gains before after id (fun _ => False) [] := by
  apply of_declared
  · rw [generatedOf, generatedOf, same]
  · intro signature
    rw [Owns, Owns, same, or_false]

theorem trans {declared : Signature → Prop} {first second : List Method}
    (early : Gains before between id declared first)
    (late : Gains between after id (fun _ => False) second) :
    Gains before after id declared (first ++ second) where
  generated := by rw [late.generated, early.generated, List.append_assoc]
  owns signature := by
    simp only [late.owns, early.owns, List.mem_append, or_and_right, exists_or, or_false]
    rw [or_assoc, or_right_comm]
  missing method member owned := by
    rcases List.mem_append.mp member with member | member
    · exact early.missing method member owned
    · exact late.missing method member ((early.owns _).mpr (.inl owned))
  different := by
    rw [List.map_append, List.nodup_append]
    refine ⟨early.different, late.different, ?_⟩
    -- What was attached first is there when the rest is attached.
    rintro _ one _ two rfl
    obtain ⟨method, member, same⟩ := List.mem_map.mp one
    obtain ⟨other, otherMember, sameOther⟩ := List.mem_map.mp two
    refine late.missing other otherMember ((early.owns _).mpr (.inr (.inl ?_)))
    exact ⟨method, member, same.trans sameOther.symm⟩
  built method member := by
    rcases List.mem_append.mp member with member | member
    · exact early.built method member
    · exact late.built method member

end Gains

end ClassModel

/-! ## What each operation does -/

theorem Outline.hasMethod_decl (outline : Outline) (methods : List (Signature × Option String))
    (signature : Signature) :
    (outline.decl methods).hasMethod signature = true ↔ signature ∈ methods.map Prod.fst := by
  have declared (decl : ClassDecl) :
      (methods.foldl (fun decl method => decl.declareMethod method.1 method.2) decl).hasMethod
          signature = true ↔
        decl.hasMethod signature = true ∨ signature ∈ methods.map Prod.fst := by
    induction methods generalizing decl with
    | nil => simp
    | cons method rest ih =>
        rw [List.foldl_cons, ih, ClassDecl.hasMethod_declareMethod, Bool.or_eq_true, beq_iff_eq,
          List.map_cons, List.mem_cons, eq_comm (a := signature)]
        tauto
  rw [decl, declared]
  simp [ClassDecl.hasMethod]

namespace ClassModel

/-- A change of one class that only declares methods. -/
private theorem gains_modify (model : ClassModel) (target id : ClassId)
    {change : ClassDecl → ClassDecl} (declared : Signature → Prop)
    (sameGenerated : ∀ decl, (change decl).generated = decl.generated)
    (declares : ∀ decl signature, (change decl).hasMethod signature = true ↔
      decl.hasMethod signature = true ∨ declared signature) :
    Gains model (model.modify target change) id
      (fun signature => target = id ∧ declared signature ∧ id < model.size) [] := by
  have changed := class?_modify model target id change
  cases found : model.class? id with
  | none =>
      have outside : ¬id < model.size := by
        simpa [class?, size] using found
      have missing : (model.modify target change).class? id = none := by
        rw [changed, found, Option.map_none, ite_self]
      apply Gains.of_declared
      · rw [generatedOf_of_class?_none found, generatedOf_of_class?_none missing]
      · intro signature
        simp [not_owns_of_class? found, not_owns_of_class? missing, outside]
  | some decl =>
      have inside := lt_size_of_class? found
      by_cases chosen : target = id
      · have present : (model.modify target change).class? id = some (change decl) := by
          rw [changed, if_pos chosen, found, Option.map_some]
        apply Gains.of_declared
        · rw [generatedOf_of_class? found, generatedOf_of_class? present, sameGenerated]
        · intro signature
          rw [owns_iff_of_class? found, owns_iff_of_class? present, declares]
          simp [chosen, inside]
      · have untouched : (model.modify target change).class? id = model.class? id := by
          rw [changed, if_neg chosen]
        simpa [chosen] using Gains.of_class?_eq untouched

/-- A change of one class that leaves its methods alone. -/
private theorem gains_modify_nothing (model : ClassModel) (target id : ClassId)
    {change : ClassDecl → ClassDecl}
    (sameGenerated : ∀ decl, (change decl).generated = decl.generated)
    (sameMethods : ∀ decl, (change decl).methods = decl.methods) :
    Gains model (model.modify target change) id (fun _ => False) [] := by
  have gains := gains_modify model target id (fun _ => False) sameGenerated
    (by simp [ClassDecl.hasMethod, sameMethods])
  simpa using gains

theorem gains_after (model : ClassModel) (step : Construction) (id : ClassId) :
    Gains model (model.after step) id (step.Declares model id) [] := by
  cases step with
  | addClass outline methods =>
      rcases model.enter_cases (outline.decl methods) with ⟨error, refused⟩ | ⟨_, _, entered⟩
      · have same : model.after (.addClass outline methods) = model := by
          rw [after, construct, refused]
        have nothing := Gains.of_class?_eq (rfl : model.class? id = model.class? id)
        rw [same]
        simpa [Construction.Declares, addClass, refused, accepted] using nothing
      · have added : model.addClass (outline.decl methods) =
            .ok (model.after (.addClass outline methods)) := by
          rw [addClass, after, construct, entered, accepted]
        have classes := class?_of_addClass added id
        by_cases isNew : id = model.size
        · have missing : model.class? id = none := isNew ▸ model.class?_size
          have present : (model.after (.addClass outline methods)).class? id =
              some (outline.decl methods) := by
            rw [classes, if_pos isNew]
          apply Gains.of_declared
          · rw [generatedOf_of_class?_none missing, generatedOf_of_class? present,
              Outline.generated_decl]
          · intro signature
            rw [owns_iff_of_class? present, Outline.hasMethod_decl]
            constructor
            · intro listed
              exact .inr ⟨isNew, listed, _, added⟩
            · rintro (owned | ⟨_, listed, _⟩)
              · exact absurd owned (not_owns_of_class? missing)
              · exact listed
        · have untouched : (model.after (.addClass outline methods)).class? id =
              model.class? id := by
            rw [classes, if_neg isNew]
          simpa [Construction.Declares, isNew] using Gains.of_class?_eq untouched
  | extend child parent =>
      rw [after, construct, link]
      split
      · exact Gains.of_class?_eq rfl
      · exact gains_modify_nothing model child id (fun _ => rfl) (fun _ => rfl)
  | extendExternal child name =>
      exact gains_modify_nothing model child id (fun _ => rfl) (fun _ => rfl)
  | declare target signature source =>
      refine gains_modify model target id (signature = ·) (fun _ => rfl) ?_
      intro decl other
      rw [ClassDecl.hasMethod_declareMethod, Bool.or_eq_true, beq_iff_eq, or_comm]

/-- Settling a plan, as far as one class is concerned. -/
theorem gains_settle {plan : Plan} (orderly : Plan.Orderly plan.decisions) (model : ClassModel)
    (id : ClassId) :
    ∃ attached, Gains model (plan.settle model).1 id (fun _ => False) attached := by
  have settled := Plan.class?_settle plan model id
  split at settled
  · cases found : model.class? id with
    | none => exact ⟨[], .of_class?_eq (by rw [settled, found, Option.map_none])⟩
    | some decl =>
        rw [found, Option.map_some, Plan.settleAll_eq orderly] at settled
        refine ⟨Plan.attachments decl plan.decisions, ?_, ?_, ?_, ?_, ?_⟩
        · rw [generatedOf_of_class? settled, generatedOf_of_class? found,
            ClassDecl.generated_attachAll]
        · intro signature
          rw [owns_iff_of_class? settled, owns_iff_of_class? found, ClassDecl.hasMethod_attachAll,
            or_false]
        · intro method member
          rw [owns_iff_of_class? found, (Plan.mem_attachments_iff.mp member).2]
          exact Bool.false_ne_true
        · exact Plan.nodup_signatures_attachments orderly decl
        · intro method member
          obtain ⟨⟨kind, planned⟩, _⟩ := Plan.mem_attachments_iff.mp member
          exact (orderly.built kind method planned).2
  · exact ⟨[], .of_class?_eq settled⟩

theorem gains_generateForAll (options : Options) (model : ClassModel) (ids : List ClassId)
    (id : ClassId) :
    ∃ attached, Gains model (generateForAll options model ids).1 id (fun _ => False) attached := by
  induction ids generalizing model with
  | nil => exact ⟨[], .of_class?_eq rfl⟩
  | cons chosen rest ih =>
      obtain ⟨first, early⟩ := gains_settle (model.orderly_plan options chosen) model id
      obtain ⟨second, late⟩ := ih ((model.plan options chosen).settle model).1
      exact ⟨first ++ second, early.trans late⟩

end ClassModel

namespace Workshop

/-! ## Whole runs -/

theorem run_concat (workshop : Workshop) (operations : List Operation) (operation : Operation) :
    workshop.run (operations ++ [operation]) = (workshop.run operations).step operation := by
  simp [run]

section Invariants

/-- What building, overwriting and settling plans keep of a model.  Only some plans need to be
settled. -/
structure Keeps (invariant : ClassModel → Prop) (allowed : Plan → Prop) : Prop where
  after : ∀ model step, invariant model → invariant (model.after step)
  overwrite : ∀ model id (outline : Outline), invariant model →
    invariant (model.modify id outline.overwrite)
  settle : ∀ model plan, allowed plan → invariant model → invariant (plan.settle model).1

variable {invariant : ClassModel → Prop} {allowed : Plan → Prop}

theorem Keeps.generateForAll (keeps : Keeps invariant allowed) {options : Options}
    (planned : ∀ model id, allowed (ClassModel.plan model options id)) {model : ClassModel}
    (holds : invariant model) (ids : List ClassId) :
    invariant (ClassModel.generateForAll options model ids).1 := by
  induction ids generalizing model with
  | nil => exact holds
  | cons id rest ih => exact ih (keeps.settle model _ (planned model id) holds)

theorem Keeps.step (keeps : Keeps invariant allowed) {workshop : Workshop} {operation : Operation}
    (planned : ∀ options, operation.options? = some options →
      ∀ model id, allowed (ClassModel.plan model options id))
    (holds : invariant workshop.model ∧ ∀ plan ∈ workshop.plans, allowed plan) :
    invariant (workshop.step operation).model ∧
      ∀ plan ∈ (workshop.step operation).plans, allowed plan := by
  obtain ⟨holds, plans⟩ := holds
  cases operation with
  | build step => exact ⟨keeps.after _ step holds, plans⟩
  | overwrite id outline => exact ⟨keeps.overwrite _ id outline holds, plans⟩
  | generate options => exact ⟨keeps.generateForAll (planned options rfl) holds _, plans⟩
  | prepare options id =>
      refine ⟨holds, fun plan kept => ?_⟩
      rcases List.mem_append.mp kept with kept | new
      · exact plans plan kept
      · obtain rfl := List.mem_singleton.mp new
        exact planned options rfl workshop.model id
  | settle position =>
      simp only [Workshop.step]
      split
      · next plan kept =>
          have settled := keeps.settle _ plan (plans plan (List.mem_of_getElem? kept)) holds
          exact ⟨settled, plans⟩
      · exact ⟨holds, plans⟩

/-- What is kept holds after any operations, if it holds at the start and each plan that can be made
for one of the operations may be settled. -/
theorem Keeps.run (keeps : Keeps invariant allowed) (start : invariant .empty)
    {operations : List Operation}
    (planned : ∀ operation ∈ operations, ∀ options, operation.options? = some options →
      ∀ model id, allowed (ClassModel.plan model options id)) :
    invariant (empty.run operations).model ∧
      ∀ plan ∈ (empty.run operations).plans, allowed plan := by
  induction operations using List.reverseRecOn with
  | nil => exact ⟨start, fun plan kept => absurd kept List.not_mem_nil⟩
  | append_singleton operations operation ih =>
      rw [run_concat]
      refine keeps.step (planned operation (by simp)) (ih fun other earlier => ?_)
      exact planned other (List.mem_append_left _ earlier)

end Invariants

/-- Each operation adds to a class what it declares, and methods that the class did not have. -/
theorem gains_step (workshop : Workshop)
    (orderly : ∀ plan ∈ workshop.plans, Plan.Orderly plan.decisions) (operation : Operation)
    (id : ClassId) : ∃ attached,
      ClassModel.Gains workshop.model (workshop.step operation).model id
        (operation.Declares workshop.model id) attached := by
  cases operation with
  | build step => exact ⟨[], workshop.model.gains_after step id⟩
  | overwrite target outline =>
      exact ⟨[], ClassModel.gains_modify_nothing _ target id (fun _ => rfl) (fun _ => rfl)⟩
  | generate options =>
      exact ClassModel.gains_generateForAll options workshop.model workshop.model.ids id
  | prepare options target => exact ⟨[], .of_class?_eq rfl⟩
  | settle position =>
      simp only [step]
      split
      · next plan kept =>
          exact ClassModel.gains_settle (orderly plan (List.mem_of_getElem? kept)) _ id
      · exact ⟨[], .of_class?_eq rfl⟩

theorem orderly_plans_run (operations : List Operation) :
    ∀ plan ∈ (empty.run operations).plans, Plan.Orderly plan.decisions := by
  have keeps : Keeps (fun _ => True) fun plan => Plan.Orderly plan.decisions :=
    ⟨fun _ _ _ => trivial, fun _ _ _ _ => trivial, fun _ _ _ _ => trivial⟩
  exact (keeps.run trivial fun _ _ options _ model id => model.orderly_plan options id).2

/-- The methods of the classes are accounted for by the operations that have been carried out. -/
structure Accounted (operations : List Operation) (model : ClassModel) : Prop where
  owns : ∀ id signature, model.Owns id signature ↔
    (∃ method ∈ model.generatedOf id, method.signature = signature) ∨
      DeclaredIn operations id signature
  different : ∀ id, ((model.generatedOf id).map Method.signature).Nodup
  built : ∀ id, ∀ method ∈ model.generatedOf id, ∃ className names,
    method.BuiltFor className names

theorem Accounted.step {operations : List Operation} {operation : Operation}
    {before after : ClassModel} (accounted : Accounted operations before)
    (gains : ∀ id, ∃ attached, before.Gains after id (operation.Declares before id) attached)
    (current : before = (empty.run operations).model) :
    Accounted (operations ++ [operation]) after := by
  constructor
  · intro id signature
    obtain ⟨attached, gained⟩ := gains id
    rw [gained.owns, accounted.owns, declaredIn_concat_iff, ← current, gained.generated]
    simp only [List.mem_append, or_and_right, exists_or]
    exact or_or_or_comm
  · intro id
    obtain ⟨attached, gained⟩ := gains id
    rw [gained.generated, List.map_append, List.nodup_append]
    refine ⟨accounted.different id, gained.different, ?_⟩
    rintro _ old _ new rfl
    obtain ⟨method, member, same⟩ := List.mem_map.mp old
    obtain ⟨other, attached, sameOther⟩ := List.mem_map.mp new
    refine gained.missing other attached ((accounted.owns id _).mpr (.inl ?_))
    exact ⟨method, member, same.trans sameOther.symm⟩
  · intro id method member
    obtain ⟨attached, gained⟩ := gains id
    rw [gained.generated] at member
    rcases List.mem_append.mp member with old | new
    · exact accounted.built id method old
    · exact gained.built method new

theorem accounted_run (operations : List Operation) :
    Accounted operations (empty.run operations).model := by
  induction operations using List.reverseRecOn with
  | nil =>
      have missing (id : ClassId) : (empty.run []).model.class? id = none := rfl
      constructor
      · intro id signature
        simp [ClassModel.not_owns_of_class? (missing id),
          ClassModel.generatedOf_of_class?_none (missing id), not_declaredIn_nil]
      · intro id
        rw [ClassModel.generatedOf_of_class?_none (missing id)]
        exact List.nodup_nil
      · intro id method member
        simp [ClassModel.generatedOf_of_class?_none (missing id)] at member
  | append_singleton operations operation ih =>
      rw [run_concat]
      exact ih.step (gains_step _ (orderly_plans_run operations) operation) rfl

namespace Accounted

variable {operations : List Operation} {model : ClassModel} {id : ClassId} {decl : ClassDecl}

theorem signature_eq (accounted : Accounted operations model) (found : model.class? id = some decl)
    {method : Method} (member : method ∈ decl.generated) :
    method.signature = method.kind.signature := by
  rw [← ClassModel.generatedOf_of_class? found] at member
  obtain ⟨className, names, built⟩ := accounted.built id method member
  exact built.signature_eq

theorem hasMethod (accounted : Accounted operations model) (found : model.class? id = some decl)
    {method : Method} (member : method ∈ decl.generated) :
    decl.hasMethod method.signature = true := by
  rw [← ClassModel.generatedOf_of_class? found] at member
  rw [← ClassModel.owns_iff_of_class? found, accounted.owns]
  exact .inl ⟨method, member, rfl⟩

/-- Two generated methods of one kind would have one signature. -/
theorem nodup_kinds (accounted : Accounted operations model) (found : model.class? id = some decl) :
    (decl.generated.map Method.kind).Nodup := by
  have different := accounted.different id
  have signed : ∀ method ∈ decl.generated, method.signature = method.kind.signature :=
    fun method member => accounted.signature_eq found member
  rw [ClassModel.generatedOf_of_class? found, List.map_congr_left signed, ← Function.comp_def,
    ← List.map_map] at different
  exact List.Nodup.of_map _ different

end Accounted

/-- Every generated method was attached by one of the operations, and it had not been declared by
any operation before that. -/
theorem exists_attaching (operations : List Operation) (id : ClassId) {method : Method}
    (member : method ∈ (empty.run operations).model.generatedOf id) :
    ∃ front operation back, operations = front ++ operation :: back ∧
      method ∉ (empty.run front).model.generatedOf id ∧
      method ∈ (empty.run (front ++ [operation])).model.generatedOf id ∧
      ¬DeclaredIn front id method.signature := by
  induction operations using List.reverseRecOn with
  | nil =>
      have missing : (empty.run []).model.class? id = none := rfl
      simp [ClassModel.generatedOf_of_class?_none missing] at member
  | append_singleton operations operation ih =>
      by_cases old : method ∈ (empty.run operations).model.generatedOf id
      · obtain ⟨front, earlier, back, rfl, attached⟩ := ih old
        exact ⟨front, earlier, back ++ [operation], by simp, attached⟩
      · refine ⟨operations, operation, [], rfl, old, member, fun declared => ?_⟩
        obtain ⟨attached, gained⟩ :=
          gains_step (empty.run operations) (orderly_plans_run operations) operation id
        rw [run_concat, gained.generated] at member
        have new := (List.mem_append.mp member).resolve_left old
        exact gained.missing method new (((accounted_run operations).owns id _).mpr (.inr declared))

end Workshop
end ValueMethods
