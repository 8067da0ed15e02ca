import Mathlib.Data.List.Lex
import Mathlib.Data.String.Basic
import ValueMethods.Proofs.Independence

/-!
# Ordered method tables

Signatures are entered into a method table in order, each once.  So a table that methods have been
entered into holds their signatures without repeats, and for each of them the source that was
entered last.
-/

namespace ValueMethods

/-! ### The order of signatures -/

namespace Signature

variable {first second third : Signature}

theorem before_iff :
    first.before second = true ↔
      first.name < second.name ∨
        first.name = second.name ∧ first.parameters < second.parameters := by
  simp [before]

theorem before_irrefl (signature : Signature) : ¬signature.before signature = true := by
  rw [before_iff]
  rintro (name | ⟨_, parameters⟩)
  · exact lt_irrefl _ name
  · exact lt_irrefl _ parameters

theorem before_trans (earlier : first.before second = true) (later : second.before third = true) :
    first.before third = true := by
  rw [before_iff] at earlier later ⊢
  rcases earlier with name | ⟨name, parameters⟩ <;>
    rcases later with nameToo | ⟨nameToo, parametersToo⟩
  · exact .inl (lt_trans name nameToo)
  · exact .inl (nameToo ▸ name)
  · exact .inl (name ▸ nameToo)
  · exact .inr ⟨name.trans nameToo, lt_trans parameters parametersToo⟩

theorem before_of_not_before (different : first ≠ second) (other : ¬first.before second = true) :
    second.before first = true := by
  rw [before_iff, not_or, not_and] at other
  rw [before_iff]
  rcases lt_trichotomy first.name second.name with less | same | greater
  · exact absurd less other.1
  · rcases lt_trichotomy first.parameters second.parameters with less | sameToo | greater
    · exact absurd less (other.2 same)
    · have equal : first = second := by
        cases first
        cases second
        simp_all
      exact absurd equal different
    · exact .inr ⟨same.symm, greater⟩
  · exact .inl greater

end Signature

/-! ### Entering methods -/

namespace MethodTable

/-- The signatures of the table ascend. -/
def IsOrdered (table : MethodTable) : Prop :=
  table.signatures.Pairwise fun first second => first.before second = true

theorem IsOrdered.nodup {table : MethodTable} (ordered : table.IsOrdered) :
    table.signatures.Nodup := by
  refine ordered.imp fun {first second} earlier => ?_
  rintro rfl
  exact first.before_irrefl earlier

variable {table : MethodTable} {added : Signature} {source : Option String}

theorem mem_signatures_declare {signature : Signature} :
    signature ∈ (declare added source table).signatures ↔
      signature = added ∨ signature ∈ table.signatures := by
  rw [← has_iff_mem_signatures, has_declare, Bool.or_eq_true, beq_iff_eq, has_iff_mem_signatures,
    eq_comm]

theorem IsOrdered.declare (ordered : table.IsOrdered) :
    (MethodTable.declare added source table).IsOrdered := by
  induction table with
  | nil => exact List.pairwise_singleton _ _
  | cons entry rest ih =>
      obtain ⟨first, others⟩ := List.pairwise_cons.mp ordered
      rw [MethodTable.declare]
      split
      · exact ordered
      · next different =>
          split
          · next earlier =>
              refine List.pairwise_cons.mpr ⟨fun signature member => ?_, ordered⟩
              rcases List.mem_cons.mp member with rfl | later
              · exact earlier
              · exact Signature.before_trans earlier (first signature later)
          · next other =>
              refine List.pairwise_cons.mpr ⟨fun signature member => ?_, ih others⟩
              rcases mem_signatures_declare.mp member with rfl | later
              · exact Signature.before_of_not_before (Ne.symm different) other
              · exact first signature later

/-- A source that is entered is what is recorded for its signature, and for no other. -/
theorem source?_declare (text : String) (signature : Signature) :
    source? (declare added (some text) table) signature =
      if added = signature then some text else source? table signature := by
  induction table with
  | nil => exact source?_cons (added, some text) [] signature
  | cons entry rest ih =>
      rw [declare]
      split
      · next same =>
          rw [source?_cons, source?_cons, same]
          split <;> rfl
      · next different =>
          split
          · rw [source?_cons]
          · rw [source?_cons, source?_cons, ih]
            by_cases here : entry.1 = signature
            · subst here
              rw [if_pos rfl, if_pos rfl, if_neg (Ne.symm different)]
            · rw [if_neg here, if_neg here]

/-- Enters methods in order. -/
def declareAll (table : MethodTable) (methods : List (Signature × Option String)) : MethodTable :=
  methods.foldl (fun table method => declare method.1 method.2 table) table

theorem IsOrdered.declareAll (ordered : table.IsOrdered)
    (methods : List (Signature × Option String)) : (table.declareAll methods).IsOrdered := by
  induction methods generalizing table with
  | nil => exact ordered
  | cons method rest ih => exact ih ordered.declare

theorem mem_signatures_declareAll {methods : List (Signature × Option String)}
    {signature : Signature} :
    signature ∈ (table.declareAll methods).signatures ↔
      signature ∈ methods.map Prod.fst ∨ signature ∈ table.signatures := by
  induction methods generalizing table with
  | nil => simp [declareAll]
  | cons method rest ih =>
      rw [declareAll, List.foldl_cons, ← declareAll, ih, mem_signatures_declare, List.map_cons,
        List.mem_cons]
      tauto

/-- The last source that is entered for a signature stays. -/
theorem source?_declareAll {front back : List (Signature × Option String)} {text : String}
    (sourced : ∀ method ∈ back, method.2 ≠ none) (last : added ∉ back.map Prod.fst) :
    source? (table.declareAll (front ++ (added, some text) :: back)) added = some text := by
  have kept {table : MethodTable} (known : source? table added = some text) :
      source? (table.declareAll back) added = some text := by
    induction back generalizing table with
    | nil => exact known
    | cons method rest ih =>
        rw [List.map_cons, List.mem_cons, not_or] at last
        refine ih (fun other member => sourced other (List.mem_cons_of_mem method member)) last.2 ?_
        obtain ⟨newText, new⟩ := Option.ne_none_iff_exists'.mp (sourced method List.mem_cons_self)
        change source? (declare method.1 method.2 table) added = some text
        rw [new, source?_declare, if_neg (Ne.symm last.1), known]
  rw [declareAll, List.foldl_append, List.foldl_cons, ← declareAll]
  exact kept (by rw [source?_declare, if_pos rfl])

end MethodTable
end ValueMethods
