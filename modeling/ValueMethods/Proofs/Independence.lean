import ValueMethods.Proofs.Attaching
import ValueMethods.Proofs.Construction

/-!
# Plans are independent

A plan is made from the outlines of the classes and from the methods of its own class, and settling
it changes the methods of that class and nothing else.  So the plan of a class is the same before
and after the plans of other classes have been settled.  A generation run goes from class to class;
it comes to what the plans come to that were all made on the model as it was, in whatever order they
are settled.
-/

namespace ValueMethods

/-! ## What attaching leaves alone -/

namespace MethodTable

theorem source?_cons (entry : Signature × Option String) (rest : MethodTable)
    (signature : Signature) :
    source? (entry :: rest) signature =
      if entry.1 = signature then entry.2 else source? rest signature := by
  by_cases same : entry.1 = signature <;> simp [source?, same]

theorem source?_eq_none_of_not_has {table : MethodTable} {signature : Signature}
    (missing : table.has signature = false) : table.source? signature = none := by
  induction table with
  | nil => rfl
  | cons entry rest ih =>
      rw [has_cons, Bool.or_eq_false_iff, beq_eq_false_iff_ne] at missing
      rw [source?_cons, if_neg missing.1, ih missing.2]

/-- A signature that is entered without source has none, and the sources of the others stay. -/
theorem source?_declare_of_new {table : MethodTable} {added : Signature}
    (new : table.has added = false) (signature : Signature) :
    source? (declare added none table) signature = source? table signature := by
  induction table with
  | nil => simp [declare, source?]
  | cons entry rest ih =>
      obtain ⟨other, newInRest⟩ : entry.1 ≠ added ∧ has rest added = false := by
        simpa using new
      rw [declare, if_neg other]
      split
      · rw [source?_cons]
        split
        · next same => exact (source?_eq_none_of_not_has (same ▸ new)).symm
        · rfl
      · rw [source?_cons, source?_cons, ih newInRest]

/-- The other signatures stay, and in their order, when a new one is entered. -/
theorem filter_signatures_declare_of_new {table : MethodTable} {added : Signature}
    (source : Option String) {keep : Signature → Bool} (dropped : keep added = false)
    (new : table.has added = false) :
    (signatures (declare added source table)).filter keep = (signatures table).filter keep := by
  induction table with
  | nil => simp [declare, signatures, dropped]
  | cons entry rest ih =>
      obtain ⟨other, newInRest⟩ : entry.1 ≠ added ∧ has rest added = false := by
        simpa using new
      rw [declare, if_neg other]
      split
      · simp [signatures, dropped]
      · have kept := ih newInRest
        simp only [signatures] at kept
        simp only [signatures, List.map_cons, List.filter_cons, kept]

end MethodTable

namespace ClassDecl

variable {decl : ClassDecl} {method : Method} (new : decl.hasMethod method.signature = false)
include new

theorem methodSource?_attach (signature : Signature) :
    (decl.attach method).methodSource? signature = decl.methodSource? signature :=
  MethodTable.source?_declare_of_new new signature

/-- What is attached counts as generated and not as declared. -/
theorem declaredMethods_attach : (decl.attach method).declaredMethods = decl.declaredMethods := by
  have generated (signature : Signature) : (decl.attach method).hasGenerated signature =
      (decl.hasGenerated signature || method.signature == signature) := by
    simp [hasGenerated, attach]
  have dropped : (!(decl.attach method).hasGenerated method.signature) = false := by
    simp [generated]
  rw [declaredMethods, attach,
    MethodTable.filter_signatures_declare_of_new none dropped new, declaredMethods]
  apply List.filter_congr
  intro signature listed
  have owned : decl.hasMethod signature = true :=
    (MethodTable.has_iff_mem_signatures decl.methods signature).mpr listed
  have other : method.signature ≠ signature := by
    rintro rfl
    simp [owned] at new
  change (!(decl.attach method).hasGenerated signature) = _
  rw [generated, beq_false_of_ne other, Bool.or_false]

end ClassDecl

namespace Plan

/-- A class is the same before and after, but for its generated methods and their signatures. -/
structure Keeps (before after : ClassDecl) : Prop where
  outline : after.outline = before.outline
  declaredMethods : after.declaredMethods = before.declaredMethods
  methodSource? : ∀ signature, after.methodSource? signature = before.methodSource? signature

theorem keeps_settleAll (decl : ClassDecl) (decisions : List (ValueMethod × Decision)) :
    Keeps decl (settleAll decl decisions).1 := by
  induction decisions generalizing decl with
  | nil => exact ⟨rfl, rfl, fun _ => rfl⟩
  | cons entry rest ih =>
      obtain ⟨kind, decision⟩ := entry
      have further := ih (decision.settle decl).1
      suffices first : Keeps decl (decision.settle decl).1 from
        ⟨further.outline.trans first.outline,
          further.declaredMethods.trans first.declaredMethods,
          fun signature => (further.methodSource? signature).trans (first.methodSource? signature)⟩
      cases decision with
      | leaveOut reason => exact ⟨rfl, rfl, fun _ => rfl⟩
      | generate method =>
          rw [Decision.settle]
          split
          · exact ⟨rfl, rfl, fun _ => rfl⟩
          · next missing =>
              have new : decl.hasMethod method.signature = false := by simpa using missing
              exact ⟨decl.outline_attach method, ClassDecl.declaredMethods_attach new,
                ClassDecl.methodSource?_attach new⟩

@[simp]
theorem index_settle (plan : Plan) (model : ClassModel) :
    (plan.settle model).1.index = model.index := by
  unfold settle
  split <;> rfl

section SameTarget

variable (plan : Plan) {first second : ClassModel}
  (same : first.class? plan.target = second.class? plan.target)
include same

/-- What a plan makes of its class depends on that class only. -/
theorem class?_settle_congr :
    (plan.settle first).1.class? plan.target = (plan.settle second).1.class? plan.target := by
  rw [class?_settle, class?_settle, same]

/-- What a plan reports depends on its class only. -/
theorem outcomes_settle_congr : (plan.settle first).2 = (plan.settle second).2 := by
  unfold settle
  rw [same]
  cases second.class? plan.target <;> rfl

end SameTarget

end Plan

/-! ## Settling several plans -/

namespace ClassModel

/-- Settles plans in order, with what came of each of them. -/
def settleEach : ClassModel → List Plan → ClassModel × List (ClassId × List Outcome)
  | model, [] => (model, [])
  | model, plan :: rest =>
      let (changed, outcomes) := plan.settle model
      let (final, others) := settleEach changed rest
      (final, (plan.target, outcomes) :: others)

theorem settleEach_cons (model : ClassModel) (plan : Plan) (rest : List Plan) :
    model.settleEach (plan :: rest) =
      (((plan.settle model).1.settleEach rest).1,
        (plan.target, (plan.settle model).2) :: ((plan.settle model).1.settleEach rest).2) := rfl

@[simp]
theorem index_settleEach (model : ClassModel) (plans : List Plan) :
    (model.settleEach plans).1.index = model.index := by
  induction plans generalizing model with
  | nil => rfl
  | cons plan rest ih => rw [settleEach_cons, ih, Plan.index_settle]

theorem class?_settle_of_ne (model : ClassModel) {plan : Plan} {id : ClassId}
    (other : plan.target ≠ id) : (plan.settle model).1.class? id = model.class? id := by
  rw [Plan.class?_settle, if_neg other]

/-- A class for which there is no plan stays as it is. -/
theorem class?_settleEach_of_not_mem (model : ClassModel) {plans : List Plan} {id : ClassId}
    (unplanned : id ∉ plans.map Plan.target) :
    (model.settleEach plans).1.class? id = model.class? id := by
  induction plans generalizing model with
  | nil => rfl
  | cons plan rest ih =>
      rw [List.map_cons, List.mem_cons, not_or] at unplanned
      rw [settleEach_cons, ih _ unplanned.2, class?_settle_of_ne model (Ne.symm unplanned.1)]

section Distinct

variable {plans : List Plan} (distinct : (plans.map Plan.target).Nodup)
include distinct

/-- A class becomes what its plan makes of it, whatever is settled before and after. -/
theorem class?_settleEach_of_mem (model : ClassModel) {plan : Plan} (member : plan ∈ plans) :
    (model.settleEach plans).1.class? plan.target = (plan.settle model).1.class? plan.target := by
  induction plans generalizing model with
  | nil => simp at member
  | cons first rest ih =>
      obtain ⟨fresh, distinctRest⟩ := List.nodup_cons.mp distinct
      rw [settleEach_cons]
      rcases List.mem_cons.mp member with rfl | later
      · exact class?_settleEach_of_not_mem _ fresh
      · have other : first.target ≠ plan.target :=
          fun same => fresh (List.mem_map.mpr ⟨plan, later, same.symm⟩)
        rw [ih distinctRest _ later]
        exact plan.class?_settle_congr (class?_settle_of_ne model other)

/-- Each plan reports what it reports when it is settled alone. -/
theorem outcomes_settleEach (model : ClassModel) :
    (model.settleEach plans).2 = plans.map fun plan => (plan.target, (plan.settle model).2) := by
  induction plans generalizing model with
  | nil => rfl
  | cons first rest ih =>
      obtain ⟨fresh, distinctRest⟩ := List.nodup_cons.mp distinct
      rw [settleEach_cons, List.map_cons]
      refine congrArg (List.cons _) ((ih distinctRest _).trans (List.map_congr_left ?_))
      intro plan later
      have other : first.target ≠ plan.target :=
        fun same => fresh (List.mem_map.mpr ⟨plan, later, same.symm⟩)
      rw [plan.outcomes_settle_congr (class?_settle_of_ne model other)]

end Distinct

theorem ext_class? {first second : ClassModel} (index : first.index = second.index)
    (classes : ∀ id, first.class? id = second.class? id) : first = second := by
  obtain ⟨firstClasses, firstIndex⟩ := first
  obtain ⟨secondClasses, secondIndex⟩ := second
  obtain rfl : firstClasses = secondClasses := List.ext_getElem? classes
  obtain rfl : firstIndex = secondIndex := index
  rfl

/-- Plans for different classes can be settled in any order. -/
theorem settleEach_perm (model : ClassModel) {first second : List Plan}
    (perm : first.Perm second) (distinct : (first.map Plan.target).Nodup) :
    (model.settleEach first).1 = (model.settleEach second).1 := by
  have sameTargets := perm.map Plan.target
  apply ext_class?
  · rw [index_settleEach, index_settleEach]
  · intro id
    by_cases planned : id ∈ first.map Plan.target
    · obtain ⟨plan, member, rfl⟩ := List.mem_map.mp planned
      rw [class?_settleEach_of_mem distinct model member,
        class?_settleEach_of_mem (sameTargets.nodup_iff.mp distinct) model (perm.mem_iff.mp member)]
    · rw [class?_settleEach_of_not_mem model planned,
        class?_settleEach_of_not_mem model (mt sameTargets.mem_iff.mpr planned)]

/-! ## Plans and runs -/

/-- A plan reads the outlines of all classes and, apart from those, only its own class. -/
theorem plan_congr {first second : ClassModel} (outlines : first.outlines = second.outlines)
    {id : ClassId} (same : first.class? id = second.class? id) (options : Options) :
    first.plan options id = second.plan options id := by
  simp only [plan, same, identityFields_congr outlines]

/-- Settling the plan of one class does not change the plan of another. -/
theorem plan_settle_of_ne (model : ClassModel) {plan : Plan} {id : ClassId}
    (other : plan.target ≠ id) (options : Options) :
    (plan.settle model).1.plan options id = model.plan options id :=
  plan_congr (Plan.outlines_settle plan model) (class?_settle_of_ne model other) options

theorem map_target_plan (model : ClassModel) (options : Options) (ids : List ClassId) :
    (ids.map (model.plan options)).map Plan.target = ids := by
  rw [List.map_map, Function.comp_def]
  exact List.map_id ids

theorem generateForAll_cons (options : Options) (model : ClassModel) (id : ClassId)
    (rest : List ClassId) :
    generateForAll options model (id :: rest) =
      ((generateForAll options ((model.plan options id).settle model).1 rest).1,
        ⟨id, ((model.plan options id).settle model).1.qualifiedName id,
            ((model.plan options id).settle model).2⟩ ::
          (generateForAll options ((model.plan options id).settle model).1 rest).2) := rfl

/-- Going from class to class comes to the same as making all plans first. -/
theorem generateForAll_eq (model : ClassModel) (options : Options) {ids : List ClassId}
    (distinct : ids.Nodup) :
    generateForAll options model ids =
      ((model.settleEach (ids.map (model.plan options))).1,
        ids.map fun id =>
          ⟨id, model.qualifiedName id, ((model.plan options id).settle model).2⟩) := by
  induction ids generalizing model with
  | nil => rfl
  | cons id rest ih =>
      obtain ⟨fresh, distinctRest⟩ := List.nodup_cons.mp distinct
      have apart {other : ClassId} (later : other ∈ rest) : id ≠ other :=
        fun same => fresh (same ▸ later)
      have sameNames := qualifiedName_congr (Plan.outlines_settle (model.plan options id) model)
      have samePlans : rest.map (((model.plan options id).settle model).1.plan options) =
          rest.map (model.plan options) :=
        List.map_congr_left fun other later => plan_settle_of_ne model (apart later) options
      rw [generateForAll_cons, ih _ distinctRest, List.map_cons, settleEach_cons, samePlans,
        sameNames, List.map_cons]
      refine Prod.ext rfl (congrArg (List.cons _) (List.map_congr_left ?_))
      intro other later
      have sameClass : ((model.plan options id).settle model).1.class? other =
          model.class? other := class?_settle_of_ne model (apart later)
      rw [plan_settle_of_ne model (apart later),
        (model.plan options other).outcomes_settle_congr sameClass]

/-- A generation run settles the plans that are made on the model as it is. -/
theorem generate_eq (model : ClassModel) (options : Options) :
    model.generate options =
      ((model.settleEach (model.ids.map (model.plan options))).1,
        ⟨model.ids.map fun id =>
          ⟨id, model.qualifiedName id, ((model.plan options id).settle model).2⟩⟩) := by
  have distinct : model.ids.Nodup := List.nodup_range
  simp only [generate, generateForAll_eq model options distinct]

/-- Each class becomes what its own plan makes of it. -/
theorem class?_generate (model : ClassModel) (options : Options) (id : ClassId) :
    (model.generate options).1.class? id =
      (model.class? id).map fun decl =>
        (Plan.settleAll decl (model.plan options id).decisions).1 := by
  have targets := map_target_plan model options model.ids
  rw [generate_eq]
  by_cases inside : id ∈ model.ids
  · have distinct : ((model.ids.map (model.plan options)).map Plan.target).Nodup := by
      rw [targets]
      exact List.nodup_range
    have planned := class?_settleEach_of_mem distinct model (List.mem_map_of_mem inside)
    exact planned.trans ((Plan.class?_settle _ model id).trans (if_pos rfl))
  · have missing : model.class? id = none := by
      simpa [ids, class?, size] using inside
    rw [class?_settleEach_of_not_mem model (by rwa [targets]), missing, Option.map_none]

/-- To make the plans of all classes on the model as it is, and then to settle them in any order,
gives the model and the outcomes of a generation run, whatever the superclass links are.  Settling
a plan leaves the index and all other classes as they are, and of its own class everything but the
generated methods and their signatures. -/
theorem plans_settle_in_any_order (model : ClassModel) (options : Options) {order : List ClassId}
    (anyOrder : order.Perm model.ids) :
    let settled := model.settleEach (order.map (model.plan options))
    let run := model.generate options
    settled.1 = run.1 ∧
    settled.2.Perm (run.2.classes.map fun entry => (entry.id, entry.outcomes)) ∧
    ∀ (plan : Plan) (before : ClassModel),
      (plan.settle before).1.index = before.index ∧
      (∀ id, id ≠ plan.target → (plan.settle before).1.class? id = before.class? id) ∧
      ∀ decl, before.class? plan.target = some decl → ∃ changed,
        (plan.settle before).1.class? plan.target = some changed ∧ Plan.Keeps decl changed := by
  intro settled run
  have samePlans := anyOrder.map (model.plan options)
  have distinct : ((order.map (model.plan options)).map Plan.target).Nodup := by
    rw [map_target_plan, anyOrder.nodup_iff]
    exact List.nodup_range
  have isRun : run = _ := generate_eq model options
  refine ⟨?_, ?_, fun plan before => ⟨plan.index_settle before, ?_, ?_⟩⟩
  · rw [isRun]
    exact settleEach_perm model samePlans distinct
  · have outcomes : settled.2 = _ := outcomes_settleEach distinct model
    rw [outcomes, isRun, List.map_map, List.map_map]
    exact anyOrder.map _
  · exact fun id other => class?_settle_of_ne before (Ne.symm other)
  · intro decl found
    refine ⟨_, ?_, Plan.keeps_settleAll decl plan.decisions⟩
    rw [Plan.class?_settle, if_pos rfl, found, Option.map_some]

/-! ### Classes in a ring -/

/-- A class and two that extend it, of which the class extends the first one in turn.  That one has
an `equals` of its own, the other one is abstract. -/
def siblings : ClassModel :=
  (empty.constructAll
    [.addClass ⟨"Base", some "p", false, [⟨"x", "int", false⟩], none⟩ [],
      .addClass ⟨"Left", some "p", false, [⟨"y", "int", false⟩], none⟩
        [(ValueMethod.equals.signature, some "boolean equals(Object other);")],
      .addClass ⟨"Right", some "q", true, [], none⟩ [],
      .extend 1 0, .extend 2 0]).setSuperclass 0 (some (.inModel 1))

/-- The plans are settled from the abstract class to the other one. -/
theorem plans_settle_in_any_order_on_siblings :
    let settled := siblings.settleEach ([2, 0, 1].map (siblings.plan .default))
    [2, 0, 1].Perm siblings.ids ∧
    settled.1 = (siblings.generate .default).1 ∧
    settled.2.map (fun entry => (entry.1, entry.2.map Outcome.omission)) =
      [(2, [some .abstractClass, some .abstractClass, some .abstractClass]),
        (0, [none, none, none]), (1, [none, none, some .alreadyDefined])] ∧
    settled.2.Perm
      ((siblings.generate .default).2.classes.map fun entry => (entry.id, entry.outcomes)) := by
  intro settled
  have anyOrder : [2, 0, 1].Perm siblings.ids := by decide +kernel
  obtain ⟨sameModel, sameOutcomes, _⟩ := plans_settle_in_any_order siblings .default anyOrder
  exact ⟨anyOrder, sameModel, by decide +kernel, sameOutcomes⟩

end ClassModel

end ValueMethods
