import ValueMethods.Proofs.History
import ValueMethods.Proofs.Independence
import ValueMethods.Proofs.Links

/-!
# What a generation run does

A run gives each class the value methods that are due: a method is due for a class that is not
abstract and does not have it, if the options do not turn it off, and `hashCode` and `equals` only
where there is an instance field to read.  Of every other method the report gives the first reason
that applies.  What has been generated is there at the next run, so a second run adds nothing that
the options of the first did not turn off.
-/

namespace ValueMethods

/-! ## Policy -/

namespace ClassModel

/-- The class or one of its ancestors in the model declares a field that is not static. -/
def HasInstanceField (model : ClassModel) (id : ClassId) : Prop :=
  ∃ ancestor, model.Reaches id ancestor ∧ ∃ field ∈ model.fieldsOf ancestor, field.isStatic = false

theorem identityNames_ne_nil_iff (model : ClassModel) (id : ClassId) :
    (model.identityFields id).names ≠ [] ↔ model.HasInstanceField id := by
  rw [← List.isEmpty_eq_false_iff, List.isEmpty_eq_false_iff_exists_mem]
  simp only [mem_identityNames_iff, mem_lineage_iff, instanceFields, List.mem_filter,
    Bool.not_eq_true']
  constructor
  · rintro ⟨_, ancestor, above, field, instanceField, _⟩
    exact ⟨ancestor, above, field, instanceField⟩
  · rintro ⟨ancestor, above, field, instanceField⟩
    exact ⟨field.name, ancestor, above, field, instanceField, rfl⟩

instance (model : ClassModel) (id : ClassId) : Decidable (model.HasInstanceField id) :=
  decidable_of_iff _ (model.identityNames_ne_nil_iff id)

/-- A run with these options generates the value method for the class. -/
def Due (model : ClassModel) (options : Options) (id : ClassId) (decl : ClassDecl)
    (kind : ValueMethod) : Prop :=
  decl.isAbstract = false ∧ decl.hasMethod kind.signature = false ∧
    ¬(kind = .toString ∧ options.skipToString = true) ∧
    (kind = .toString ∨ model.HasInstanceField id)

instance (model : ClassModel) (options : Options) (id : ClassId) (decl : ClassDecl) :
    DecidablePred (model.Due options id decl) :=
  fun _ => inferInstanceAs (Decidable (_ ∧ _ ∧ _ ∧ _))

end ClassModel

namespace Omission

/-- The reasons, those that are given first in front. -/
def ranked : List Omission :=
  [.disabled, .abstractClass, .alreadyDefined, .noIdentityFields]

/-- The reason applies to a value method of a class. -/
def Applies (model : ClassModel) (options : Options) (id : ClassId) (decl : ClassDecl)
    (kind : ValueMethod) : Omission → Prop
  | .disabled => kind = .toString ∧ options.skipToString = true
  | .abstractClass => decl.isAbstract = true
  | .alreadyDefined => decl.hasMethod kind.signature = true
  | .noIdentityFields => kind ≠ .toString ∧ ¬model.HasInstanceField id

instance (model : ClassModel) (options : Options) (id : ClassId) (decl : ClassDecl)
    (kind : ValueMethod) : DecidablePred (Applies model options id decl kind)
  | .disabled => inferInstanceAs (Decidable (_ ∧ _))
  | .abstractClass => inferInstanceAs (Decidable (_ = _))
  | .alreadyDefined => inferInstanceAs (Decidable (_ = _))
  | .noIdentityFields => inferInstanceAs (Decidable (_ ∧ _))

variable (model : ClassModel) (options : Options) (id : ClassId) (decl : ClassDecl)
  (kind : ValueMethod)

/-- The first reason that applies to a value method, if one does. -/
def first? : Option Omission :=
  ranked.find? fun reason => reason.Applies model options id decl kind

/-- A method is due exactly if there is no reason to leave it out. -/
theorem first?_eq_none_iff :
    first? model options id decl kind = none ↔ model.Due options id decl kind := by
  have noneElse : ∀ reason ∈ ([] : List Omission), ¬reason.Applies model options id decl kind := by
    simp
  simp only [first?, ranked, List.find?_eq_none, List.forall_mem_cons, decide_eq_true_eq,
    iff_true_intro noneElse, and_true]
  simp only [Applies, ClassModel.Due, Bool.not_eq_true]
  tauto

end Omission

/-- Why a method is left out, if the decision is to leave it out. -/
def Decision.omission? : Decision → Option Omission
  | .generate _ => none
  | .leaveOut reason => some reason

/-- There is a body for `toString` in any case, and for the others if there is a field. -/
theorem Synthesis.exists_method?_iff (helpers : Helpers) (className : String) (names : List String)
    (kind : ValueMethod) :
    (∃ method, method? helpers className names kind = some method) ↔
      kind = .toString ∨ names ≠ [] := by
  constructor
  · rintro ⟨method, built⟩
    exact or_iff_not_imp_left.mpr (names_ne_nil built)
  · rintro (rfl | nonempty)
    · exact ⟨_, rfl⟩
    · exact exists_method? helpers className nonempty kind

/-- A method is left out for the first reason that applies. -/
theorem Synthesis.omission?_decide (model : ClassModel) (options : Options) (id : ClassId)
    (decl : ClassDecl) (kind : ValueMethod) :
    (Synthesis.decide options decl (model.identityFields id).names kind).omission? =
      Omission.first? model options id decl kind := by
  have body := exists_method?_iff options.helpers decl.name (model.identityFields id).names kind
  rw [model.identityNames_ne_nil_iff] at body
  simp only [Omission.first?, Omission.ranked, List.find?_cons, List.find?_nil, Omission.Applies]
  by_cases disabled : kind = .toString ∧ options.skipToString = true
  · simp [Synthesis.decide, disabled, Decision.omission?]
  by_cases abstractClass : decl.isAbstract = true
  · simp [Synthesis.decide, disabled, abstractClass, Decision.omission?]
  by_cases owned : decl.hasMethod kind.signature = true
  · simp [Synthesis.decide, disabled, abstractClass, owned, Decision.omission?]
  cases built : method? options.helpers decl.name (model.identityFields id).names kind with
  | none =>
      have lacking : kind ≠ .toString ∧ ¬model.HasInstanceField id := by
        rw [← not_or, ← body, built]
        simp
      simp [Synthesis.decide, abstractClass, owned, built, lacking, Decision.omission?]
  | some method =>
      have possible : ¬(kind ≠ .toString ∧ ¬model.HasInstanceField id) := by
        rw [← not_or, not_not]
        exact body.mp ⟨method, built⟩
      simp only [Synthesis.decide, beq_iff_eq, Bool.and_eq_true, disabled, abstractClass, owned,
        built, possible, decide_false, if_false, Bool.false_eq_true, Decision.omission?]

/-! ## One class -/

/-- The methods of a plan are those that it decides to generate. -/
theorem Plan.mem_methods_iff {plan : Plan} {method : Method} :
    method ∈ plan.methods ↔ Plan.Generates plan.decisions method := by
  simp only [methods, List.mem_filterMap, Generates]
  constructor
  · rintro ⟨⟨kind, decision⟩, planned, chosen⟩
    cases decision with
    | leaveOut reason => simp at chosen
    | generate _ =>
        obtain rfl := Option.some.inj chosen
        exact ⟨kind, planned⟩
  · rintro ⟨kind, planned⟩
    exact ⟨_, planned, rfl⟩

namespace ClassModel

section Settling

variable {model : ClassModel} {id : ClassId} {decl : ClassDecl}
  (found : model.class? id = some decl) (options : Options)
include found

theorem decisions_plan : (model.plan options id).decisions = ValueMethod.all.map fun kind =>
    (kind, Synthesis.decide options decl (model.identityFields id).names kind) := by
  simp only [plan, found]

/-- A plan that is settled at once attaches all of its methods, and it reports what it decided. -/
theorem settleAll_plan :
    Plan.settleAll decl (model.plan options id).decisions =
      (decl.attachAll (model.plan options id).methods,
        ValueMethod.all.map fun kind => ⟨kind, Omission.first? model options id decl kind⟩) := by
  -- The plan has just been made, so the second look at what the class has finds nothing new.
  have missing {kind : ValueMethod} {method : Method}
      (planned : (kind, .generate method) ∈ (model.plan options id).decisions) :
      decl.hasMethod method.signature = false := by
    obtain ⟨other, same, _, new, _⟩ := of_generates_plan ⟨kind, planned⟩
    obtain rfl : decl = other := by simpa [found] using same
    have orderly := model.orderly_plan options id
    rwa [orderly.signature_eq planned, ← (orderly.built kind method planned).1]
  rw [Plan.settleAll_eq (model.orderly_plan options id)]
  refine Prod.ext (congrArg decl.attachAll (List.filterMap_congr ?_)) ?_
  · rintro ⟨kind, decision⟩ planned
    cases decision with
    | leaveOut reason => rfl
    | generate method => simp [Plan.attachment?, missing planned]
  · have reported : ∀ entry ∈ (model.plan options id).decisions,
        Plan.outcomeOn decl entry = ⟨entry.1, entry.2.omission?⟩ := by
      rintro ⟨kind, decision⟩ planned
      cases decision with
      | leaveOut reason => rfl
      | generate method => simp [Plan.outcomeOn, missing planned, Decision.omission?]
    rw [List.map_congr_left reported, decisions_plan found, List.map_map]
    simp only [Function.comp_def, Synthesis.omission?_decide]

/-- The methods of a new plan are those that are due, in order. -/
theorem kinds_methods_plan :
    (model.plan options id).methods.map Method.kind =
      ValueMethod.all.filter fun kind => model.Due options id decl kind := by
  have due (kind : ValueMethod) :
      (match Synthesis.decide options decl (model.identityFields id).names kind with
        | .generate method => some method
        | .leaveOut _ => none).map Method.kind =
      Option.guard (fun kind => decide (model.Due options id decl kind)) kind := by
    have reason := Synthesis.omission?_decide model options id decl kind
    cases decided : Synthesis.decide options decl (model.identityFields id).names kind with
    | generate method =>
        rw [decided, Decision.omission?] at reason
        have isDue := (Omission.first?_eq_none_iff ..).mp reason.symm
        have sameKind := Synthesis.kind_of_method? (Synthesis.of_decide_eq_generate decided).2.2
        simp [Option.guard, isDue, sameKind]
    | leaveOut omission =>
        rw [decided, Decision.omission?] at reason
        have notDue : ¬model.Due options id decl kind := by
          rw [← Omission.first?_eq_none_iff, ← reason]
          simp
        simp [Option.guard, notDue]
  rw [Plan.methods, decisions_plan found, List.filterMap_map, List.map_filterMap,
    ← List.filterMap_eq_filter]
  exact List.filterMap_congr fun kind _ => due kind

/-- After a run a class has the value methods that it had and those that were due. -/
theorem hasMethod_attachAll_plan (kind : ValueMethod) :
    (decl.attachAll (model.plan options id).methods).hasMethod kind.signature = true ↔
      decl.hasMethod kind.signature = true ∨ model.Due options id decl kind := by
  have attached : (∃ method ∈ (model.plan options id).methods,
      method.signature = kind.signature) ↔
        kind ∈ (model.plan options id).methods.map Method.kind := by
    have sameSignature {method : Method} (member : method ∈ (model.plan options id).methods) :
        method.signature = method.kind.signature := by
      obtain ⟨other, planned⟩ := Plan.mem_methods_iff.mp member
      have orderly := model.orderly_plan options id
      rw [orderly.signature_eq planned, (orderly.built _ _ planned).1]
    rw [List.mem_map]
    refine exists_congr fun method => and_congr_right fun member => ?_
    rw [sameSignature member]
    exact ⟨fun same => ValueMethod.signature_injective same, congrArg _⟩
  have listed : kind ∈ ValueMethod.all := by cases kind <;> decide
  rw [ClassDecl.hasMethod_attachAll, attached, kinds_methods_plan found, List.mem_filter,
    decide_eq_true_iff, and_iff_right listed]

end Settling

/-! ## Whole runs -/

theorem exists_class?_of_mem_ids {model : ClassModel} {id : ClassId} (listed : id ∈ model.ids) :
    ∃ decl, model.class? id = some decl := by
  have inside : id < model.classes.length := List.mem_range.mp listed
  exact ⟨_, List.getElem?_eq_getElem inside⟩

section Run

variable {model : ClassModel} {id : ClassId} {decl : ClassDecl}
  (found : model.class? id = some decl) (options : Options)
include found

theorem class?_generate_eq_attachAll :
    (model.generate options).1.class? id =
      some (decl.attachAll (model.plan options id).methods) := by
  rw [class?_generate, found, Option.map_some, settleAll_plan found]

/-- A run adds to a class the value methods that are due, in order. -/
theorem exists_attached_generate :
    ∃ changed attached, (model.generate options).1.class? id = some changed ∧
      changed.generated = decl.generated ++ attached ∧
      attached.map Method.kind =
        ValueMethod.all.filter fun kind => model.Due options id decl kind :=
  ⟨_, _, class?_generate_eq_attachAll found options, decl.generated_attachAll _,
    kinds_methods_plan found options⟩

theorem outcomes_plan : ((model.plan options id).settle model).2 =
    ValueMethod.all.map fun kind => ⟨kind, Omission.first? model options id decl kind⟩ := by
  have target : model.class? (model.plan options id).target = some decl := found
  simp only [Plan.settle, target, settleAll_plan found]

/-- As many methods are attached to a class as are reported as generated. -/
theorem length_methods_plan : (model.plan options id).methods.length =
    (((model.plan options id).settle model).2.filter Outcome.isGenerated).length := by
  rw [← List.length_map (f := Method.kind), kinds_methods_plan found, outcomes_plan found,
    List.filter_map, List.length_map]
  congr 2
  funext kind
  rw [Bool.eq_iff_iff, decide_eq_true_iff, ← Omission.first?_eq_none_iff]
  exact Option.isNone_iff_eq_none.symm

end Run

/-- The generated methods of all classes. -/
def allGenerated (model : ClassModel) : List Method :=
  model.ids.flatMap model.generatedOf

/-- What a run reports as generated is what the model has gained. -/
theorem length_allGenerated_generate (model : ClassModel) (options : Options) :
    (model.generate options).1.allGenerated.length =
      model.allGenerated.length + (model.generate options).2.generatedCount := by
  have sameIds : (model.generate options).1.ids = model.ids := by
    rw [ids, ids, size_congr (outlines_generate model options)]
  have counted : (model.generate options).2.generatedCount =
      (model.ids.map fun id => (model.plan options id).methods.length).sum := by
    rw [generate_eq, Report.generatedCount, Report.outcomes, List.flatMap_map, List.filter_flatMap,
      List.length_flatMap]
    refine congrArg List.sum (List.map_congr_left fun id listed => ?_)
    obtain ⟨decl, found⟩ := exists_class?_of_mem_ids listed
    exact (length_methods_plan found options).symm
  have gained : ∀ id ∈ model.ids, ((model.generate options).1.generatedOf id).length =
      (model.generatedOf id).length + (model.plan options id).methods.length := by
    intro id listed
    obtain ⟨decl, found⟩ := exists_class?_of_mem_ids listed
    rw [generatedOf_of_class? (class?_generate_eq_attachAll found options),
      ClassDecl.generated_attachAll, List.length_append, generatedOf_of_class? found]
  rw [allGenerated, allGenerated, sameIds, List.length_flatMap, List.length_flatMap, counted,
    ← List.sum_map_add, List.map_congr_left gained]

/-- There is an entry for each class, in model order. -/
theorem map_id_classes_generate (model : ClassModel) (options : Options) :
    (model.generate options).2.classes.map ClassReport.id = model.ids := by
  rw [generate_eq, List.map_map]
  exact List.map_id model.ids

/-- An entry of the report is about a class of the model, and it gives the first reason that applies
to each value method. -/
theorem of_mem_classes_generate {model : ClassModel} {options : Options} {entry : ClassReport}
    (member : entry ∈ (model.generate options).2.classes) :
    ∃ decl, model.class? entry.id = some decl ∧ entry.name = model.qualifiedName entry.id ∧
      entry.outcomes = ValueMethod.all.map fun kind =>
        ⟨kind, Omission.first? model options entry.id decl kind⟩ := by
  rw [generate_eq] at member
  obtain ⟨id, listed, rfl⟩ := List.mem_map.mp member
  obtain ⟨decl, found⟩ := exists_class?_of_mem_ids listed
  exact ⟨decl, found, rfl, outcomes_plan found options⟩

/-- The report has three outcomes for each class. -/
theorem count_outcomes_generate (model : ClassModel) (options : Options) :
    (model.generate options).2.generatedCount + (model.generate options).2.omittedCount =
      3 * model.size := by
  have three : ∀ entry ∈ (model.generate options).2.classes, entry.outcomes.length = 3 := by
    intro entry member
    obtain ⟨decl, _, _, outcomes⟩ := of_mem_classes_generate member
    rw [outcomes, List.length_map]
    rfl
  have classes : (model.generate options).2.classes.length = model.size := by
    rw [← List.length_map (f := ClassReport.id), map_id_classes_generate, ids, List.length_range]
  rw [Report.generatedCount_add_omittedCount, Report.outcomes, List.length_flatMap,
    List.map_congr_left three, List.map_const', List.sum_replicate_nat, classes, Nat.mul_comm]

/-- A run on a model for which nothing is due leaves it as it is. -/
theorem generate_eq_self {model : ClassModel} {options : Options}
    (nothing : ∀ id decl, model.class? id = some decl → ∀ kind, ¬model.Due options id decl kind) :
    (model.generate options).1 = model := by
  apply ext_class?
  · rw [generate_eq, index_settleEach]
  · intro id
    cases found : model.class? id with
    | none => rw [class?_generate, found, Option.map_none]
    | some decl =>
        have noMethods : (model.plan options id).methods = [] := by
          rw [← List.map_eq_nil_iff, kinds_methods_plan found, List.filter_eq_nil_iff]
          exact fun kind _ => by simpa using nothing id decl found kind
        rw [class?_generate_eq_attachAll found, noMethods]
        rfl

/-! ## A second run -/

theorem hasInstanceField_congr {first second : ClassModel}
    (outlines : first.outlines = second.outlines) (id : ClassId) :
    first.HasInstanceField id ↔ second.HasInstanceField id := by
  rw [← identityNames_ne_nil_iff, ← identityNames_ne_nil_iff, identityFields_congr outlines]

/-- What is due at a second run has been turned off at the first one. -/
theorem of_due_generate {model : ClassModel} {options again : Options} {id : ClassId}
    {changed : ClassDecl} {kind : ValueMethod}
    (found : (model.generate options).1.class? id = some changed)
    (due : (model.generate options).1.Due again id changed kind) :
    kind = .toString ∧ options.skipToString = true ∧ again.skipToString = false := by
  obtain ⟨concrete, missing, enabled, readable⟩ := due
  cases before : model.class? id with
  | none =>
      rw [class?_generate, before, Option.map_none] at found
      simp at found
  | some decl =>
      rw [class?_generate_eq_attachAll before options] at found
      obtain rfl := Option.some.inj found
      have outline := Plan.outline_settleAll decl (model.plan options id).decisions
      rw [settleAll_plan before] at outline
      have concreteBefore : decl.isAbstract = false :=
        (congrArg Outline.isAbstract outline).symm.trans concrete
      rw [← Bool.not_eq_true, hasMethod_attachAll_plan before options kind, not_or,
        Bool.not_eq_true] at missing
      obtain ⟨missingBefore, notDue⟩ := missing
      rw [hasInstanceField_congr (outlines_generate model options)] at readable
      have disabled : kind = .toString ∧ options.skipToString = true := by
        by_contra enabledBefore
        exact notDue ⟨concreteBefore, missingBefore, enabledBefore, readable⟩
      refine ⟨disabled.1, disabled.2, ?_⟩
      rw [← Bool.not_eq_true]
      exact fun disabledAgain => enabled ⟨disabled.1, disabledAgain⟩

/-- A run adds to each class those value methods that are due, in order, and of each of the others
it reports the first reason that applies.  It counts what it adds, and there are three outcomes for
each class.  A second run with the same options adds nothing, and one with other options adds
nothing but `toString`, which the first options then turned off and the others do not. -/
theorem generate_follows_policy (model : ClassModel) (options : Options) :
    let run := model.generate options
    (∀ id decl, model.class? id = some decl →
      ∃ changed attached, run.1.class? id = some changed ∧
        changed.generated = decl.generated ++ attached ∧
        attached.map Method.kind =
          ValueMethod.all.filter fun kind => model.Due options id decl kind) ∧
    run.2.classes.map ClassReport.id = model.ids ∧
    (∀ entry ∈ run.2.classes,
      ∃ decl, model.class? entry.id = some decl ∧ entry.name = model.qualifiedName entry.id ∧
        entry.outcomes = ValueMethod.all.map (fun kind =>
          ⟨kind, Omission.first? model options entry.id decl kind⟩) ∧
        ∀ kind, Omission.first? model options entry.id decl kind = none ↔
          model.Due options entry.id decl kind) ∧
    run.1.allGenerated.length = model.allGenerated.length + run.2.generatedCount ∧
    run.2.generatedCount + run.2.omittedCount = 3 * model.size ∧
    (run.1.generate options).1 = run.1 ∧
    (run.1.generate options).2.generatedCount = 0 ∧
    ∀ again id changed, run.1.class? id = some changed →
      ∃ final attached, (run.1.generate again).1.class? id = some final ∧
        final.generated = changed.generated ++ attached ∧
        ∀ method ∈ attached, method.kind = .toString ∧
          options.skipToString = true ∧ again.skipToString = false := by
  intro run
  have unchanged : (run.1.generate options).1 = run.1 := by
    refine generate_eq_self fun id changed found kind due => ?_
    obtain ⟨_, disabled, enabled⟩ := of_due_generate found due
    exact Bool.false_ne_true (enabled.symm.trans disabled)
  refine ⟨fun id decl found => exists_attached_generate found options,
    map_id_classes_generate model options, ?_, length_allGenerated_generate model options,
    count_outcomes_generate model options, unchanged, ?_, ?_⟩
  · intro entry member
    obtain ⟨decl, found, named, outcomes⟩ := of_mem_classes_generate member
    exact ⟨decl, found, named, outcomes, fun kind => Omission.first?_eq_none_iff ..⟩
  · have gained := length_allGenerated_generate run.1 options
    rw [unchanged] at gained
    omega
  · intro again id changed found
    obtain ⟨final, attached, foundFinal, generated, kinds⟩ := exists_attached_generate found again
    refine ⟨final, attached, foundFinal, generated, fun method member => ?_⟩
    have listed := List.mem_map_of_mem (f := Method.kind) member
    rw [kinds, List.mem_filter, decide_eq_true_iff] at listed
    exact of_due_generate found listed.2

/-! ### A class of each kind -/

/-- An abstract class with a static field only, a class with a field that extends it, a class
without fields, and one with a field and an `equals` of its own. -/
def assortment : ClassModel :=
  empty.constructAll
    [.addClass ⟨"Shape", none, true, [⟨"count", "int", true⟩], none⟩ [],
      .addClass ⟨"Disc", none, false, [⟨"radius", "int", false⟩], none⟩ [],
      .addClass ⟨"Marker", none, false, [], none⟩ [],
      .addClass ⟨"Label", none, false, [⟨"text", "String", false⟩], none⟩
        [(ValueMethod.equals.signature, none)],
      .extend 1 0]

/-- The first run goes without `toString`, and the second one makes up for it. -/
theorem generate_follows_policy_on_assortment :
    let bare : Options := { Options.default with skipToString := true }
    let run := assortment.generate bare
    run.2.classes.map (fun entry => (entry.name, entry.outcomes.map Outcome.omission)) =
      [("Shape", [some .disabled, some .abstractClass, some .abstractClass]),
        ("Disc", [some .disabled, none, none]),
        ("Marker", [some .disabled, some .noIdentityFields, some .noIdentityFields]),
        ("Label", [some .disabled, none, some .alreadyDefined])] ∧
    run.2.generatedCount = 3 ∧ run.2.omittedCount = 9 ∧
    (run.1.generate bare).1 = run.1 ∧
    (run.1.generate .default).1.allGenerated.map Method.kind =
      [.hashCode, .equals, .toString, .toString, .hashCode, .toString] := by
  intro bare run
  obtain ⟨_, _, _, _, counted, unchanged, _, _⟩ := generate_follows_policy assortment bare
  have three : run.2.generatedCount = 3 := by decide +kernel
  have classes : assortment.size = 4 := by decide +kernel
  refine ⟨by decide +kernel, three, ?_, unchanged, by decide +kernel⟩
  rw [three, classes] at counted
  exact Nat.add_left_cancel counted

end ClassModel

end ValueMethods
