import ValueMethods.Proofs.History

/-!
# `hashCode` and `equals` read the same fields

The fields that a generated `hashCode` hashes and the fields that a generated `equals` compares are
read off their bodies.  A plan builds both bodies from one list of names, and no class is left with
the `hashCode` of one plan and the `equals` of another, however late the plans are settled.
-/

namespace ValueMethods

/-! ## Reading fields off a body -/

/-- The operands of a conjunction, from left to right, whatever way it is nested. -/
def Expr.conjuncts : Expr → List Expr
  | .binary .both left right => left.conjuncts ++ right.conjuncts
  | operand => [operand]

/-- The field in `f`. -/
def Expr.ownField? : Expr → Option String
  | .ownField name => some name
  | _ => none

/-- The field in `Objects.equals(this.f, o.f)`. -/
def Expr.comparedField? : Expr → Option String
  | .staticCall _ method [.fieldOf .this name, .fieldOf (.local object) other] =>
      if method = "equals" ∧ object = Synthesis.castName ∧ other = name then some name else none
  | _ => none

namespace Method

/-- The fields in `return Objects.hash(f, ...);`, if that is the whole body. -/
def hashedFields? (method : Method) : Option (List String) :=
  match method.body with
  | [.result (.staticCall _ name arguments)] =>
      if name = "hash" then arguments.mapM Expr.ownField? else none
  | _ => none

/-- The fields in the comparison that ends the body, if it is a conjunction of comparisons of
fields. -/
def comparedFields? (method : Method) : Option (List String) :=
  match method.body.getLast? with
  | some (.result comparison) => comparison.conjuncts.mapM Expr.comparedField?
  | _ => none

end Method

/-- Reading back what was written for each name gives the names. -/
private theorem mapM_map_eq_some {α : Type} (write : String → α) (read : α → Option String)
    (readsBack : ∀ name, read (write name) = some name) (names : List String) :
    (names.map write).mapM read = some names := by
  induction names with
  | nil => rfl
  | cons name rest ih => simp [readsBack, ih]

namespace Synthesis

theorem comparedField?_fieldComparison (objects : TypeName) (name : String) :
    (fieldComparison objects name).comparedField? = some name := by
  simp [fieldComparison, Expr.comparedField?]

theorem conjuncts_fieldComparison (objects : TypeName) (name : String) :
    (fieldComparison objects name).conjuncts = [fieldComparison objects name] := rfl

private theorem conjuncts_foldl (objects : TypeName) (names : List String) (joined : Expr) :
    (names.foldl (fun joined name => .binary .both joined (fieldComparison objects name))
        joined).conjuncts =
      joined.conjuncts ++ names.map (fieldComparison objects) := by
  induction names generalizing joined with
  | nil => simp
  | cons name rest ih =>
      rw [List.foldl_cons, ih, Expr.conjuncts, conjuncts_fieldComparison, List.append_assoc,
        List.map_cons, List.singleton_append]

/-- The joined comparison is made of one comparison for each field, in order. -/
theorem conjuncts_fieldComparisons {objects : TypeName} {names : List String} {comparison : Expr}
    (joined : fieldComparisons? objects names = some comparison) :
    comparison.conjuncts = names.map (fieldComparison objects) := by
  cases names with
  | nil => simp [fieldComparisons?] at joined
  | cons first rest =>
      simp only [fieldComparisons?, Option.some.injEq] at joined
      rw [← joined, conjuncts_foldl, conjuncts_fieldComparison, List.map_cons,
        List.singleton_append]

end Synthesis

namespace Method.BuiltFor

variable {method : Method} {className : String} {names : List String}

theorem hashedFields?_eq (built : method.BuiltFor className names)
    (kind : method.kind = .hashCode) : method.hashedFields? = some names := by
  obtain ⟨helpers, built⟩ := built
  rw [kind] at built
  cases names with
  | nil => simp [Synthesis.method?, Synthesis.hashCodeMethod?] at built
  | cons first rest =>
      simp only [Synthesis.method?, Synthesis.hashCodeMethod?, Option.some.injEq] at built
      have readBack := mapM_map_eq_some Expr.ownField Expr.ownField? (fun _ => rfl) (first :: rest)
      rw [← built]
      exact readBack

theorem comparedFields?_eq (built : method.BuiltFor className names)
    (kind : method.kind = .equals) : method.comparedFields? = some names := by
  obtain ⟨helpers, built⟩ := built
  rw [kind] at built
  simp only [Synthesis.method?, Synthesis.equalsMethod?, Option.map_eq_some_iff] at built
  obtain ⟨comparison, joined, rfl⟩ := built
  have operands := Synthesis.conjuncts_fieldComparisons joined
  have readBack := mapM_map_eq_some _ _
    (Synthesis.comparedField?_fieldComparison helpers.objectsType) names
  simpa [comparedFields?, operands] using readBack

end Method.BuiltFor

/-! ## Agreement after any work on a model -/

/-- Whatever has been done to a model, and however late plans were settled: the `hashCode` and the
`equals` that a class has been given hash and compare the same fields in the same order, and where
only one of them has been generated, the other one was declared. -/
theorem generated_pair_agrees_after_run (operations : List Operation) :
    let model := (Workshop.empty.run operations).model
    ∀ id decl, model.class? id = some decl →
      (∀ hash ∈ decl.generated, hash.kind = .hashCode →
        ∀ equals ∈ decl.generated, equals.kind = .equals →
          ∃ names, hash.hashedFields? = some names ∧ equals.comparedFields? = some names) ∧
      ∀ present absent : ValueMethod, present ≠ .toString → absent ≠ .toString →
        (∃ method ∈ decl.generated, method.kind = present) →
        (∀ method ∈ decl.generated, method.kind ≠ absent) →
          absent.signature ∈ decl.declaredMethods ∧ DeclaredIn operations id absent.signature := by
  intro model id decl found
  have coherent : decl.Coherent := (Workshop.coherent_run_empty operations).model id decl found
  have accounted := Workshop.accounted_run operations
  constructor
  · intro hash hashMember hashKind equals equalsMember equalsKind
    obtain ⟨names, reads⟩ := coherent.sameFields
    obtain ⟨_, hashBuilt⟩ := reads hash hashMember (by simp [hashKind])
    obtain ⟨_, equalsBuilt⟩ := reads equals equalsMember (by simp [equalsKind])
    exact ⟨names, hashBuilt.hashedFields?_eq hashKind, equalsBuilt.comparedFields?_eq equalsKind⟩
  · rintro present absent presentPaired absentPaired ⟨method, member, rfl⟩ missing
    have owned := coherent.ownsBoth method member presentPaired absent absentPaired
    -- No generated method has the signature, so it is a declared one.
    have notGenerated : absent.signature ∉ decl.generated.map Method.signature := by
      intro listed
      obtain ⟨other, otherMember, same⟩ := List.mem_map.mp listed
      rw [accounted.signature_eq found otherMember] at same
      exact missing other otherMember (ValueMethod.signature_injective same)
    constructor
    · exact (decl.mem_declaredMethods_iff absent.signature).mpr ⟨owned, notGenerated⟩
    · have either := (accounted.owns id absent.signature).mp ⟨decl, found, owned⟩
      rw [ClassModel.generatedOf_of_class? found, ← List.mem_map] at either
      exact either.resolve_left notGenerated

/-! ### Plans settled late -/

/-- Two plans for a class that gains a field in between, the later one settled first; and a plan for
a class that gets a `hashCode` of its own before the plan is settled. -/
def latePlans : List Operation :=
  [.build (.addClass ⟨"Pair", none, false, [⟨"x", "int", false⟩], none⟩ []),
    .build (.addClass ⟨"Single", none, false, [⟨"z", "int", false⟩], none⟩ []),
    .prepare .default 0, .prepare .default 1,
    .overwrite 0 ⟨"Pair", none, false, [⟨"x", "int", false⟩, ⟨"y", "int", false⟩], none⟩,
    .prepare .default 0,
    .build (.declare 1 ValueMethod.hashCode.signature none),
    .settle 2, .settle 0, .settle 1]

/-- The class with both has them from the later plan; in the other class only `equals` is
generated. -/
theorem generated_pair_agrees_on_latePlans :
    let model := (Workshop.empty.run latePlans).model
    ∃ pair single, model.class? 0 = some pair ∧ model.class? 1 = some single ∧
      pair.generated.map Method.kind = [.toString, .hashCode, .equals] ∧
      (∀ hash ∈ pair.generated, hash.kind = .hashCode →
        ∀ equals ∈ pair.generated, equals.kind = .equals →
          ∃ names, hash.hashedFields? = some names ∧ equals.comparedFields? = some names) ∧
      single.generated.map Method.kind = [.toString, .equals] ∧
      ValueMethod.hashCode.signature ∈ single.declaredMethods ∧
      DeclaredIn latePlans 1 ValueMethod.hashCode.signature := by
  intro model
  obtain ⟨pair, pairFound, pairKinds⟩ : ∃ pair, model.class? 0 = some pair ∧
      pair.generated.map Method.kind = [.toString, .hashCode, .equals] := ⟨_, rfl, rfl⟩
  obtain ⟨single, singleFound, singleKinds⟩ : ∃ single, model.class? 1 = some single ∧
      single.generated.map Method.kind = [.toString, .equals] := ⟨_, rfl, rfl⟩
  have kinds (kind : ValueMethod) : (∃ method ∈ single.generated, method.kind = kind) ↔
      kind ∈ [ValueMethod.toString, .equals] := by
    rw [← singleKinds, List.mem_map]
  have agreed := (generated_pair_agrees_after_run latePlans 0 pair pairFound).1
  have declared := (generated_pair_agrees_after_run latePlans 1 single singleFound).2 .equals
    .hashCode (by decide) (by decide) ((kinds .equals).mpr (by decide)) ?_
  · exact ⟨pair, single, pairFound, singleFound, pairKinds, agreed, singleKinds, declared⟩
  · intro method member same
    exact absurd ((kinds .hashCode).mp ⟨method, member, same⟩) (by decide)

end ValueMethods
