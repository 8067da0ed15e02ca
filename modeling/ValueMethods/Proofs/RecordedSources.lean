import ValueMethods.Proofs.History
import ValueMethods.Proofs.Overloads

/-!
# What becomes of recorded sources

A class may have a source recorded for a method at any time, before or after the method has been
generated for it.  The unit of a class shows each of its methods once, either with its source or as
generated.  A source is shown exactly if the method was declared when no generated method had its
signature yet; if it was generated first, the unit is the one that it would be without the source.
-/

namespace ValueMethods

/-! ## Tables in order -/

namespace MethodTable

/-- Entering a signature that is there already adds none. -/
theorem IsOrdered.signatures_declare {table : MethodTable} (ordered : table.IsOrdered)
    {signature : Signature} (source : Option String) (owned : table.has signature = true) :
    (MethodTable.declare signature source table).signatures = table.signatures := by
  induction table with
  | nil => simp at owned
  | cons entry rest ih =>
      obtain ⟨first, others⟩ := List.pairwise_cons.mp ordered
      rw [MethodTable.declare]
      split
      · rfl
      · next different =>
          have later : has rest signature = true := by simpa [different] using owned
          rw [if_neg fun earlier => ?_]
          · exact congrArg (entry.1 :: ·) (ih others later)
          · -- It would come before an entry that comes before it.
            have after := first signature ((has_iff_mem_signatures rest signature).mp later)
            exact signature.before_irrefl (Signature.before_trans earlier after)

end MethodTable

namespace ClassModel

/-- The method tables of all classes are in order. -/
def HasOrderedTables (model : ClassModel) : Prop :=
  ∀ id decl, model.class? id = some decl → decl.methods.IsOrdered

namespace HasOrderedTables

variable {model : ClassModel}

theorem modify (ordered : model.HasOrderedTables) (target : ClassId)
    {change : ClassDecl → ClassDecl}
    (keeps : ∀ decl : ClassDecl, decl.methods.IsOrdered → (change decl).methods.IsOrdered) :
    (model.modify target change).HasOrderedTables := by
  intro id decl found
  rw [class?_modify] at found
  split at found
  · obtain ⟨old, before, rfl⟩ := Option.map_eq_some_iff.mp found
    exact keeps old (ordered id old before)
  · exact ordered id decl found

theorem after (ordered : model.HasOrderedTables) (step : Construction) :
    (model.after step).HasOrderedTables := by
  have taken := model.taken_construct step
  rw [ClassModel.after]
  generalize model.construct step = result at taken
  cases taken with
  | refused error => exact ordered
  | @added outline methods changed added =>
      intro id decl found
      rw [class?_of_addClass added] at found
      split at found
      · obtain rfl := Option.some.inj found
        rw [Outline.methods_decl]
        have empty : MethodTable.IsOrdered [] := List.Pairwise.nil
        exact empty.declareAll methods
      · exact ordered id decl found
  | extended apart => exact ordered.modify _ fun _ => id
  | extendedOutside => exact ordered.modify _ fun _ => id
  | declared => exact ordered.modify _ fun _ table => table.declare

theorem settle (ordered : model.HasOrderedTables) (plan : Plan) :
    (plan.settle model).1.HasOrderedTables := by
  have settled (decisions : List (ValueMethod × Decision)) (decl : ClassDecl)
      (table : decl.methods.IsOrdered) :
      (Plan.settleAll decl decisions).1.methods.IsOrdered := by
    induction decisions generalizing decl with
    | nil => exact table
    | cons entry rest ih =>
        obtain ⟨kind, decision⟩ := entry
        suffices first : (decision.settle decl).1.methods.IsOrdered from ih _ first
        cases decision with
        | leaveOut reason => exact table
        | generate method =>
            rw [Decision.settle]
            split
            · exact table
            · exact table.declare
  intro id decl found
  rw [Plan.class?_settle] at found
  split at found
  · obtain ⟨old, before, rfl⟩ := Option.map_eq_some_iff.mp found
    exact settled plan.decisions old (ordered id old before)
  · exact ordered id decl found

end HasOrderedTables

end ClassModel

namespace Workshop

theorem hasOrderedTables_run (operations : List Operation) :
    (empty.run operations).model.HasOrderedTables := by
  have keeps : Keeps ClassModel.HasOrderedTables fun _ => True :=
    ⟨fun _ step ordered => ordered.after step,
      fun _ target outline ordered => ordered.modify target fun _ => id,
      fun _ plan _ ordered => ordered.settle plan⟩
  refine (keeps.run ?_ fun _ _ _ _ _ _ => trivial).1
  intro id decl found
  exact absurd found (by simp [ClassModel.empty, ClassModel.class?])

/-! ## Declared before it was generated -/

/-- What has been generated stays. -/
theorem generatedOf_prefix (front back : List Operation) (id : ClassId) :
    (empty.run front).model.generatedOf id <+:
      (empty.run (front ++ back)).model.generatedOf id := by
  induction back using List.reverseRecOn with
  | nil => rw [List.append_nil]
  | append_singleton back operation ih =>
      obtain ⟨attached, gained⟩ :=
        gains_step (empty.run (front ++ back)) (orderly_plans_run _) operation id
      rw [← List.append_assoc, run_concat, gained.generated]
      exact ih.trans (List.prefix_append _ _)

/-- A method that a class has, but not as a generated one, is never generated. -/
theorem owns_and_not_generated {front : List Operation} {id : ClassId} {signature : Signature}
    (owned : (empty.run front).model.Owns id signature)
    (free : signature ∉ ((empty.run front).model.generatedOf id).map Method.signature)
    (back : List Operation) :
    (empty.run (front ++ back)).model.Owns id signature ∧
      signature ∉ ((empty.run (front ++ back)).model.generatedOf id).map Method.signature := by
  induction back using List.reverseRecOn with
  | nil => exact (List.append_nil front).symm ▸ ⟨owned, free⟩
  | append_singleton back operation ih =>
      obtain ⟨still, never⟩ := ih
      obtain ⟨attached, gained⟩ :=
        gains_step (empty.run (front ++ back)) (orderly_plans_run _) operation id
      rw [← List.append_assoc, run_concat, gained.owns, gained.generated, List.map_append,
        List.mem_append]
      refine ⟨.inl still, not_or.mpr ⟨never, fun new => ?_⟩⟩
      obtain ⟨method, member, rfl⟩ := List.mem_map.mp new
      exact gained.missing method member still

end Workshop

/-- One of the operations declares the method of the class when the class has no generated method of
that signature. -/
def DeclaredInTime (operations : List Operation) (id : ClassId) (signature : Signature) : Prop :=
  ∃ front operation back, operations = front ++ operation :: back ∧
    operation.Declares (Workshop.empty.run front).model id signature ∧
    signature ∉ ((Workshop.empty.run front).model.generatedOf id).map Method.signature

/-- The methods of a class that are declared are those that were declared in time. -/
theorem mem_declaredMethods_iff_inTime {operations : List Operation} {id : ClassId}
    {decl : ClassDecl} (found : (Workshop.empty.run operations).model.class? id = some decl)
    {signature : Signature} (owned : decl.hasMethod signature = true) :
    signature ∈ decl.declaredMethods ↔ DeclaredInTime operations id signature := by
  have generated := ClassModel.generatedOf_of_class? found
  have accounted := Workshop.accounted_run operations
  rw [decl.mem_declaredMethods_iff, and_iff_right owned, ← generated]
  constructor
  · intro never
    -- It is not generated in the end, so it was not when it was declared.
    rw [← ClassModel.owns_iff_of_class? found, accounted.owns] at owned
    obtain ⟨front, operation, back, rfl, declares⟩ :=
      owned.resolve_left fun generated => never (List.mem_map.mpr generated)
    have kept := Workshop.generatedOf_prefix front (operation :: back) id
    exact ⟨front, operation, back, rfl, declares, fun early =>
      never ((kept.map Method.signature).subset early)⟩
  · rintro ⟨front, operation, back, rfl, declares, free⟩ late
    -- The declaration itself generates nothing, and after it the class has the method.
    have declared : (Workshop.empty.run (front ++ [operation])).model.Owns id signature ∧
        signature ∉ ((Workshop.empty.run (front ++ [operation])).model.generatedOf id).map
          Method.signature := by
      rw [Workshop.run_concat]
      cases operation with
      | build step =>
          have gained := (Workshop.empty.run front).model.gains_after step id
          refine ⟨(gained.owns signature).mpr (.inr (.inr declares)), ?_⟩
          change signature ∉ (((Workshop.empty.run front).model.after step).generatedOf id).map _
          rwa [gained.generated, List.append_nil]
      | overwrite target outline => exact declares.elim
      | generate options => exact declares.elim
      | prepare options target => exact declares.elim
      | settle position => exact declares.elim
    have never := (Workshop.owns_and_not_generated declared.1 declared.2 back).2
    rw [List.append_assoc, List.singleton_append] at never
    exact never late

/-! ## Methods in a unit -/

namespace ClassDecl

/-- The signatures of the methods that the unit of the class shows, in order. -/
def shownSignatures (decl : ClassDecl) : List Signature :=
  decl.declaredMethods ++ decl.generated.map Method.signature

/-- Each method of the class is shown, and none is shown twice. -/
theorem count_shownSignatures {operations : List Operation} {id : ClassId} {decl : ClassDecl}
    (found : (Workshop.empty.run operations).model.class? id = some decl) {signature : Signature}
    (owned : decl.hasMethod signature = true) : decl.shownSignatures.count signature = 1 := by
  have accounted := Workshop.accounted_run operations
  have declared : decl.declaredMethods.Nodup :=
    (Workshop.hasOrderedTables_run operations id decl found).nodup.filter _
  have generated : (decl.generated.map Method.signature).Nodup := by
    rw [← ClassModel.generatedOf_of_class? found]
    exact accounted.different id
  have apart : decl.shownSignatures.Nodup :=
    declared.append generated fun shown listed => ((decl.mem_declaredMethods_iff shown).mp listed).2
  refine List.count_eq_one_of_mem apart (List.mem_append.mpr ?_)
  by_cases also : signature ∈ decl.generated.map Method.signature
  · exact .inr also
  · exact .inl ((decl.mem_declaredMethods_iff signature).mpr ⟨owned, also⟩)

/-- A source is copied where its signature is listed among the declared methods. -/
theorem exists_unitOf_eq (model : ClassModel) {decl : ClassDecl} {signature : Signature}
    {text : String} (recorded : decl.methodSource? signature = some text)
    (declared : signature ∈ decl.declaredMethods) :
    ∃ front back, decl.declaredMethods = front ++ signature :: back ∧
      model.unitOf decl = model.unitOpening decl ++
        (Text.concat (front.map decl.declaredText) ++ ("\n" ++ Source.reindent 1 text ++
          Text.concat (back.map decl.declaredText))) ++ ClassModel.unitEnding decl := by
  obtain ⟨front, back, listed⟩ := List.append_of_mem declared
  refine ⟨front, back, listed, ?_⟩
  have copied : decl.declaredText signature = "\n" ++ Source.reindent 1 text := by
    rw [declaredText, recorded]
  rw [ClassModel.unitOf_eq, listed, List.map_append, List.map_cons, Text.concat_append,
    Text.concat_cons, copied]

/-- What is recorded for a method that is shown as generated does not show. -/
theorem unitOf_declareMethod (model : ClassModel) {decl : ClassDecl}
    (ordered : decl.methods.IsOrdered) {signature : Signature}
    (owned : decl.hasMethod signature = true) (hidden : signature ∉ decl.declaredMethods)
    (text : String) :
    model.unitOf (decl.declareMethod signature (some text)) = model.unitOf decl := by
  have same : (decl.declareMethod signature (some text)).declaredMethods =
      decl.declaredMethods := by
    rw [declaredMethods, declareMethod, ordered.signatures_declare (some text) owned]
    rfl
  have texts : decl.declaredMethods.map (decl.declareMethod signature (some text)).declaredText =
      decl.declaredMethods.map decl.declaredText := by
    refine List.map_congr_left fun other listed => ?_
    have different : signature ≠ other := fun equal => hidden (equal ▸ listed)
    have source : (decl.declareMethod signature (some text)).methodSource? other =
        decl.methodSource? other := by
      rw [methodSource?, declareMethod, MethodTable.source?_declare, if_neg different]
      rfl
    rw [declaredText, declaredText, source]
  rw [ClassModel.unitOf_eq, ClassModel.unitOf_eq, same, texts]
  rfl

end ClassDecl

/-! ## Recorded sources -/

/-- After any operations in any order, a method with a recorded source is shown once in the unit of
its class.  It is among the declared methods exactly if it was declared when no generated method had
its signature, and then the unit has the source.  If it was generated first, the source does not
show: the unit is the same whatever is recorded. -/
theorem sources_shown_iff_declared_in_time (operations : List Operation) {id : ClassId}
    {decl : ClassDecl} (found : (Workshop.empty.run operations).model.class? id = some decl)
    {signature : Signature} {text : String}
    (recorded : decl.methodSource? signature = some text) :
    let model := (Workshop.empty.run operations).model
    decl.shownSignatures.count signature = 1 ∧
    (signature ∈ decl.declaredMethods ↔ DeclaredInTime operations id signature) ∧
    (signature ∈ decl.declaredMethods →
      ∃ front back, decl.declaredMethods = front ++ signature :: back ∧
        model.unitOf decl = model.unitOpening decl ++
          (Text.concat (front.map decl.declaredText) ++ ("\n" ++ Source.reindent 1 text ++
            Text.concat (back.map decl.declaredText))) ++ ClassModel.unitEnding decl) ∧
    (signature ∉ decl.declaredMethods →
      (∃ method ∈ decl.generated, method.signature = signature) ∧
        ∀ other, model.unitOf (decl.declareMethod signature (some other)) = model.unitOf decl) := by
  intro model
  have owned : decl.hasMethod signature = true := by
    by_contra missing
    have nothing := MethodTable.source?_eq_none_of_not_has (Bool.eq_false_iff.mpr missing)
    rw [ClassDecl.methodSource?, nothing] at recorded
    exact absurd recorded (by simp)
  refine ⟨ClassDecl.count_shownSignatures found owned, mem_declaredMethods_iff_inTime found owned,
    ClassDecl.exists_unitOf_eq model recorded, fun hidden => ⟨?_, fun other => ?_⟩⟩
  · by_contra declared
    refine hidden ((decl.mem_declaredMethods_iff signature).mpr ⟨owned, fun generated => ?_⟩)
    exact declared (List.mem_map.mp generated)
  · have ordered := Workshop.hasOrderedTables_run operations id decl found
    exact ClassDecl.unitOf_declareMethod model ordered owned hidden other

/-! ### A source before and a source after a run -/

/-- The source of `equals` is recorded before a run, the source of `toString` after it. -/
def sourcesAroundRun : List Operation :=
  [.build (.addClass ⟨"Point", none, false, [⟨"x", "int", false⟩], none⟩ []),
    .build (.declare 0 ValueMethod.equals.signature (some "public boolean equals(Object o);")),
    .generate .default,
    .build (.declare 0 ValueMethod.toString.signature (some "public String toString();"))]

theorem sources_shown_around_run :
    ∃ point, (Workshop.empty.run sourcesAroundRun).model.class? 0 = some point ∧
      point.methodSource? ValueMethod.equals.signature = some "public boolean equals(Object o);" ∧
      point.methodSource? ValueMethod.toString.signature = some "public String toString();" ∧
      point.declaredMethods = [ValueMethod.equals.signature] ∧
      point.shownSignatures.count ValueMethod.equals.signature = 1 ∧
      DeclaredInTime sourcesAroundRun 0 ValueMethod.equals.signature ∧
      point.shownSignatures.count ValueMethod.toString.signature = 1 ∧
      ¬DeclaredInTime sourcesAroundRun 0 ValueMethod.toString.signature := by
  obtain ⟨point, found⟩ : ∃ point,
      (Workshop.empty.run sourcesAroundRun).model.class? 0 = some point := ⟨_, rfl⟩
  have listed : ((Workshop.empty.run sourcesAroundRun).model.class? 0).map (fun point =>
      (point.methodSource? ValueMethod.equals.signature,
        point.methodSource? ValueMethod.toString.signature, point.declaredMethods)) =
      some (some "public boolean equals(Object o);", some "public String toString();",
        [ValueMethod.equals.signature]) := by decide +kernel
  rw [found, Option.map_some, Option.some_inj, Prod.mk.injEq, Prod.mk.injEq] at listed
  obtain ⟨early, late, declared⟩ := listed
  obtain ⟨once, inTime, _⟩ := sources_shown_iff_declared_in_time sourcesAroundRun found early
  obtain ⟨onceToo, inTimeToo, _⟩ := sources_shown_iff_declared_in_time sourcesAroundRun found late
  refine ⟨point, found, early, late, declared, once, inTime.mp ?_, onceToo, fun before => ?_⟩
  · rw [declared]
    exact List.mem_singleton.mpr rfl
  · have member := inTimeToo.mpr before
    rw [declared] at member
    exact absurd member (by decide)

/-- A source that is recorded for a method that has been generated is not among the declared
methods, and the unit does not show it. -/
theorem late_source_is_lost :
    (¬∀ (operations : List Operation) (id : ClassId) (decl : ClassDecl),
      (Workshop.empty.run operations).model.class? id = some decl →
        ∀ signature, decl.methodSource? signature ≠ none → signature ∈ decl.declaredMethods) ∧
    (Workshop.empty.run sourcesAroundRun).model.unit 0 =
      (Workshop.empty.run sourcesAroundRun.dropLast).model.unit 0 := by
  constructor
  · intro always
    obtain ⟨point, found⟩ : ∃ point,
        (Workshop.empty.run sourcesAroundRun).model.class? 0 = some point := ⟨_, rfl⟩
    have lost : ((Workshop.empty.run sourcesAroundRun).model.class? 0).map (fun point =>
        (point.methodSource? ValueMethod.toString.signature).isSome &&
          !point.declaredMethods.contains ValueMethod.toString.signature) = some true := by
      decide +kernel
    rw [found, Option.map_some, Option.some_inj, Bool.and_eq_true, Bool.not_eq_true'] at lost
    have member := always sourcesAroundRun 0 point found ValueMethod.toString.signature
      (Option.isSome_iff_ne_none.mp lost.1)
    rw [List.contains_iff_mem.mpr member] at lost
    exact absurd lost.2 (by simp)
  · decide +kernel

end ValueMethods
