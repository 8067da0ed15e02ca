import ValueMethods.Proofs.Settling

/-!
# What settling attaches

The decisions of a plan are about different value methods, so what is attached for one of them does
not get in the way of another.  Settling a plan therefore attaches, in order, just those of its
methods that the class did not have before, and says of every other one that it is there already.
-/

namespace ValueMethods

/-! ## Attaching several methods -/

namespace ClassDecl

/-- The class with further generated methods. -/
def attachAll (decl : ClassDecl) (methods : List Method) : ClassDecl :=
  methods.foldl attach decl

theorem generated_attachAll (decl : ClassDecl) (methods : List Method) :
    (decl.attachAll methods).generated = decl.generated ++ methods := by
  induction methods generalizing decl with
  | nil => simp [attachAll]
  | cons method rest ih =>
      have listed : (decl.attach method).generated = decl.generated ++ [method] := rfl
      rw [attachAll, List.foldl_cons, ← attachAll, ih, listed, List.append_assoc,
        List.singleton_append]

theorem hasMethod_attachAll (decl : ClassDecl) (methods : List Method) (signature : Signature) :
    (decl.attachAll methods).hasMethod signature = true ↔
      decl.hasMethod signature = true ∨ ∃ method ∈ methods, method.signature = signature := by
  induction methods generalizing decl with
  | nil => simp [attachAll]
  | cons method rest ih =>
      rw [attachAll, List.foldl_cons, ← attachAll, ih, hasMethod_attach, Bool.or_eq_true,
        beq_iff_eq, List.exists_mem_cons_iff]
      tauto

end ClassDecl

/-! ## Settling a plan -/

namespace Plan

/-- The decisions are about different value methods, and each method that is to be generated is the
one of its decision. -/
structure Orderly (decisions : List (ValueMethod × Decision)) : Prop where
  kindsDiffer : (decisions.map Prod.fst).Nodup
  built : ∀ kind method, (kind, .generate method) ∈ decisions →
    method.kind = kind ∧ ∃ className names, method.BuiltFor className names

namespace Orderly

variable {decisions : List (ValueMethod × Decision)}

theorem signature_eq (orderly : Orderly decisions) {kind : ValueMethod} {method : Method}
    (planned : (kind, .generate method) ∈ decisions) : method.signature = kind.signature := by
  obtain ⟨rfl, className, names, built⟩ := orderly.built kind method planned
  exact built.signature_eq

theorem tail {entry : ValueMethod × Decision} (orderly : Orderly (entry :: decisions)) :
    Orderly decisions where
  kindsDiffer := (List.nodup_cons.mp orderly.kindsDiffer).2
  built kind method planned := orderly.built kind method (List.mem_cons_of_mem entry planned)

/-- What the first decision attaches is not what a later one is about. -/
theorem signature_ne {kind other : ValueMethod} {method later : Method}
    (orderly : Orderly ((kind, .generate method) :: decisions))
    (planned : (other, .generate later) ∈ decisions) : method.signature ≠ later.signature := by
  rw [orderly.signature_eq List.mem_cons_self,
    orderly.signature_eq (List.mem_cons_of_mem _ planned)]
  intro same
  obtain rfl := ValueMethod.signature_injective same
  have fresh := (List.nodup_cons.mp orderly.kindsDiffer).1
  exact fresh (List.mem_map.mpr ⟨_, planned, rfl⟩)

end Orderly

/-- The method that a decision attaches to a class, if it attaches one. -/
def attachment? (decl : ClassDecl) : Decision → Option Method
  | .generate method => if decl.hasMethod method.signature then none else some method
  | .leaveOut _ => none

/-- The methods that decisions attach to a class, in order. -/
def attachments (decl : ClassDecl) (decisions : List (ValueMethod × Decision)) : List Method :=
  decisions.filterMap fun entry => attachment? decl entry.2

/-- What is reported of a decision. -/
def outcomeOn (decl : ClassDecl) : ValueMethod × Decision → Outcome
  | (kind, .generate method) =>
      ⟨kind, if decl.hasMethod method.signature then some .alreadyDefined else none⟩
  | (kind, .leaveOut reason) => ⟨kind, some reason⟩

theorem mem_attachments_iff {decl : ClassDecl} {decisions : List (ValueMethod × Decision)}
    {method : Method} :
    method ∈ attachments decl decisions ↔
      Generates decisions method ∧ decl.hasMethod method.signature = false := by
  simp only [attachments, List.mem_filterMap, Generates]
  constructor
  · rintro ⟨⟨kind, decision⟩, planned, attached⟩
    cases decision with
    | leaveOut reason => simp [attachment?] at attached
    | generate chosen =>
        cases owned : decl.hasMethod chosen.signature with
        | true => simp [attachment?, owned] at attached
        | false =>
            obtain rfl : chosen = method := by simpa [attachment?, owned] using attached
            exact ⟨⟨kind, planned⟩, owned⟩
  · rintro ⟨⟨kind, planned⟩, missing⟩
    exact ⟨(kind, .generate method), planned, by simp [attachment?, missing]⟩

/-- To later decisions, a class with a method attached is like the class before. -/
private theorem attach_irrelevant {kind : ValueMethod} {method : Method}
    {decisions : List (ValueMethod × Decision)}
    (orderly : Orderly ((kind, .generate method) :: decisions)) (decl : ClassDecl) :
    attachments (decl.attach method) decisions = attachments decl decisions ∧
      decisions.map (outcomeOn (decl.attach method)) = decisions.map (outcomeOn decl) := by
  have same (other : ValueMethod) (later : Method)
      (planned : (other, .generate later) ∈ decisions) :
      (decl.attach method).hasMethod later.signature = decl.hasMethod later.signature := by
    rw [ClassDecl.hasMethod_attach, beq_false_of_ne (orderly.signature_ne planned), Bool.false_or]
  constructor
  · apply List.filterMap_congr
    rintro ⟨other, decision⟩ planned
    cases decision with
    | leaveOut reason => rfl
    | generate later => simp only [attachment?, same other later planned]
  · apply List.map_congr_left
    rintro ⟨other, decision⟩ planned
    cases decision with
    | leaveOut reason => rfl
    | generate later => simp only [outcomeOn, same other later planned]

/-- Settling looks at the class as it was before, although it goes decision by decision. -/
theorem settleAll_eq {decisions : List (ValueMethod × Decision)} (orderly : Orderly decisions)
    (decl : ClassDecl) :
    settleAll decl decisions =
      (decl.attachAll (attachments decl decisions), decisions.map (outcomeOn decl)) := by
  induction decisions generalizing decl with
  | nil => rfl
  | cons entry rest ih =>
      obtain ⟨kind, decision⟩ := entry
      cases decision with
      | leaveOut reason =>
          simp only [settleAll, Decision.settle, ih orderly.tail]
          rfl
      | generate method =>
          cases owned : decl.hasMethod method.signature with
          | true =>
              simp only [settleAll, Decision.settle, owned, if_true, ih orderly.tail]
              simp [attachments, attachment?, outcomeOn, owned]
          | false =>
              obtain ⟨attached, reported⟩ := attach_irrelevant orderly decl
              simp only [settleAll, Decision.settle, owned, Bool.false_eq_true, if_false,
                ih orderly.tail, attached, reported]
              simp [attachments, attachment?, outcomeOn, owned, ClassDecl.attachAll]

theorem nodup_signatures_attachments {decisions : List (ValueMethod × Decision)}
    (orderly : Orderly decisions) (decl : ClassDecl) :
    ((attachments decl decisions).map Method.signature).Nodup := by
  induction decisions with
  | nil => exact List.nodup_nil
  | cons entry rest ih =>
      obtain ⟨kind, decision⟩ := entry
      have others := ih orderly.tail
      cases chosen : attachment? decl decision with
      | none => simpa [attachments, chosen] using others
      | some method =>
          have listed : attachments decl ((kind, decision) :: rest) =
              method :: attachments decl rest := by
            simp [attachments, chosen]
          have generates : decision = .generate method := by
            cases decision with
            | leaveOut reason => simp [attachment?] at chosen
            | generate other =>
                simp only [attachment?] at chosen
                split at chosen
                · simp at chosen
                · rw [Option.some.inj chosen]
          subst generates
          rw [listed, List.map_cons, List.nodup_cons]
          refine ⟨fun repeated => ?_, others⟩
          obtain ⟨later, member, same⟩ := List.mem_map.mp repeated
          obtain ⟨⟨other, planned⟩, _⟩ := mem_attachments_iff.mp member
          exact orderly.signature_ne planned same.symm

end Plan

/-- A new plan is orderly. -/
theorem ClassModel.orderly_plan (model : ClassModel) (options : Options) (id : ClassId) :
    Plan.Orderly (model.plan options id).decisions where
  kindsDiffer := by
    unfold ClassModel.plan
    split
    · rw [List.map_map, Function.comp_def, List.map_id']
      decide
    · exact List.nodup_nil
  built kind method planned := by
    simp only [ClassModel.plan] at planned
    split at planned
    · next decl found =>
        obtain ⟨other, _, same⟩ := List.mem_map.mp planned
        obtain ⟨rfl, decided⟩ := Prod.mk.inj same
        obtain ⟨_, _, built⟩ := Synthesis.of_decide_eq_generate decided
        have sameKind := Synthesis.kind_of_method? built
        exact ⟨sameKind, decl.name, _, options.helpers, sameKind ▸ built⟩
    · simp at planned

end ValueMethods
