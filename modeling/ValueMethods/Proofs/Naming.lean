import Mathlib.Data.List.Nodup
import Mathlib.Data.List.Perm.Basic
import ValueMethods.Proofs.Construction

/-!
# Names of classes and fields

The index of a model that nobody has written to directly has one entry for each class, with the
qualified name of the class.  So a class is found by its qualified name, and by its simple name if
no other class has that.  Field names that a class accepts are different from each other.
-/

namespace ValueMethods

/-! ## Repeated names -/

private theorem firstRepeated_go_eq_none_iff (seen names : List String) :
    firstRepeated.go seen names = none ↔ names.Nodup ∧ ∀ name ∈ names, name ∉ seen := by
  induction names generalizing seen with
  | nil => simp [firstRepeated.go]
  | cons name rest ih =>
      rw [firstRepeated.go]
      by_cases known : name ∈ seen
      · simp [known]
      · rw [if_neg known, ih, List.nodup_cons, List.forall_mem_cons]
        simp only [List.mem_cons, not_or]
        constructor
        · rintro ⟨nodup, apart⟩
          have fresh : name ∉ rest := fun later => (apart name later).1 rfl
          exact ⟨⟨fresh, nodup⟩, known, fun other later => (apart other later).2⟩
        · rintro ⟨⟨fresh, nodup⟩, _, apart⟩
          refine ⟨nodup, fun other later => ⟨?_, apart other later⟩⟩
          rintro rfl
          exact fresh later

/-- No name is repeated exactly if all names differ. -/
theorem firstRepeated_eq_none_iff {names : List String} :
    firstRepeated names = none ↔ names.Nodup := by
  rw [firstRepeated, firstRepeated_go_eq_none_iff]
  simp

private theorem of_firstRepeated_go_eq_some {seen names : List String} {name : String}
    (repeated : firstRepeated.go seen names = some name) :
    ∃ front back, names = front ++ name :: back ∧ (name ∈ seen ∨ name ∈ front) ∧
      front.Nodup ∧ ∀ other ∈ front, other ∉ seen := by
  induction names generalizing seen with
  | nil => simp [firstRepeated.go] at repeated
  | cons first rest ih =>
      rw [firstRepeated.go] at repeated
      by_cases known : first ∈ seen
      · rw [if_pos known] at repeated
        obtain rfl := Option.some.inj repeated
        exact ⟨[], rest, rfl, .inl known, List.nodup_nil, by simp⟩
      · rw [if_neg known] at repeated
        obtain ⟨front, back, rfl, occurred, nodup, apart⟩ := ih repeated
        have fresh : first ∉ front := fun later => apart first later List.mem_cons_self
        refine ⟨first :: front, back, rfl, ?_, List.nodup_cons.mpr ⟨fresh, nodup⟩, ?_⟩
        · simpa [or_comm, or_assoc, or_left_comm] using occurred
        · rintro other member
          rcases List.mem_cons.mp member with rfl | later
          · exact known
          · exact fun before => apart other later (List.mem_cons_of_mem first before)

/-- The first repeated name is the one that ends the part of the list in which all names differ. -/
theorem of_firstRepeated_eq_some {names : List String} {name : String}
    (repeated : firstRepeated names = some name) :
    ∃ front back, names = front ++ name :: back ∧ name ∈ front ∧ front.Nodup := by
  obtain ⟨front, back, split, occurred, nodup, _⟩ := of_firstRepeated_go_eq_some repeated
  exact ⟨front, back, split, occurred.resolve_left List.not_mem_nil, nodup⟩

namespace ClassModel

/-! ## Qualified names -/

/-- The index leads from the present qualified name of each class to that class, and has nothing
else. -/
def Indexed (model : ClassModel) : Prop :=
  ∀ name id, model.index.lookup name = some id ↔
    ∃ decl, model.class? id = some decl ∧ decl.qualifiedName = name

/-- No class has two fields of one name. -/
def DistinctFields (model : ClassModel) : Prop :=
  ∀ id decl, model.class? id = some decl → (decl.fields.map Field.name).Nodup

/-- What holds of a class before a change and after it alike is not affected by the change. -/
theorem exists_class?_modify_iff {model : ClassModel} {target id : ClassId}
    {change : ClassDecl → ClassDecl} {property : ClassDecl → Prop}
    (same : ∀ decl, property (change decl) ↔ property decl) :
    (∃ decl, (model.modify target change).class? id = some decl ∧ property decl) ↔
      ∃ decl, model.class? id = some decl ∧ property decl := by
  rw [class?_modify]
  by_cases chosen : target = id
  · rw [if_pos chosen]
    cases model.class? id with
    | none => simp
    | some decl => simp [same]
  · rw [if_neg chosen]

theorem Indexed.modify {model : ClassModel} (indexed : model.Indexed) (target : ClassId)
    {change : ClassDecl → ClassDecl}
    (same : ∀ decl, (change decl).qualifiedName = decl.qualifiedName) :
    (model.modify target change).Indexed := by
  intro name id
  rw [exists_class?_modify_iff fun decl => by rw [same decl]]
  exact indexed name id

theorem DistinctFields.modify {model : ClassModel} (distinct : model.DistinctFields)
    (target : ClassId) {change : ClassDecl → ClassDecl}
    (same : ∀ decl, (change decl).fields = decl.fields) :
    (model.modify target change).DistinctFields := by
  intro id decl found
  rw [class?_modify] at found
  split at found
  · obtain ⟨old, before, rfl⟩ := Option.map_eq_some_iff.mp found
    rw [same old]
    exact distinct id old before
  · exact distinct id decl found

theorem Indexed.addClass {model extended : ClassModel} (indexed : model.Indexed)
    {decl : ClassDecl} (added : model.addClass decl = .ok extended) : extended.Indexed := by
  have classes := class?_of_addClass added
  obtain ⟨free, _, rfl⟩ := of_addClass_eq_ok added
  intro name id
  rw [classes, List.lookup_append]
  by_cases new : name = decl.qualifiedName
  · subst new
    rw [free, Option.none_or, List.lookup_cons_self, Option.some_inj]
    constructor
    · rintro rfl
      exact ⟨decl, by rw [if_pos rfl], rfl⟩
    · rintro ⟨other, found, named⟩
      by_contra earlier
      rw [if_neg (Ne.symm earlier)] at found
      have listed := (indexed decl.qualifiedName id).mpr ⟨other, found, named⟩
      rw [free] at listed
      simp at listed
  · have last : [(decl.qualifiedName, model.size)].lookup name = none := by
      rw [List.lookup_cons, beq_false_of_ne new, List.lookup_nil]
    rw [last, Option.or_none, indexed name id]
    by_cases isNew : id = model.size
    · rw [if_pos isNew, isNew, class?_size]
      simp [Ne.symm new]
    · rw [if_neg isNew]

theorem DistinctFields.addClass {model extended : ClassModel} (distinct : model.DistinctFields)
    {decl : ClassDecl} (added : model.addClass decl = .ok extended) :
    extended.DistinctFields := by
  obtain ⟨_, accepted, _⟩ := of_addClass_eq_ok added
  intro id other found
  rw [class?_of_addClass added] at found
  split at found
  · obtain rfl := Option.some.inj found
    exact firstRepeated_eq_none_iff.mp accepted
  · exact distinct id other found

/-! ## Finding a class -/

/-- The classes with a simple name, in order. -/
def namesakes (model : ClassModel) (name : String) : List ClassId :=
  model.ids.filter fun id => (model.class? id).any fun decl => decl.name == name

theorem nodup_namesakes (model : ClassModel) (name : String) : (model.namesakes name).Nodup :=
  List.nodup_range.filter _

theorem mem_namesakes_iff {model : ClassModel} {name : String} {id : ClassId} :
    id ∈ model.namesakes name ↔ ∃ decl, model.class? id = some decl ∧ decl.name = name := by
  simp only [namesakes, List.mem_filter, ids, List.mem_range, Option.any_eq_true, beq_iff_eq]
  constructor
  · exact fun ⟨_, named⟩ => named
  · rintro ⟨decl, found, named⟩
    exact ⟨lt_size_of_class? found, decl, found, named⟩

theorem find?_eq_some_iff_namesakes {model : ClassModel} {name : String}
    (missing : model.index.lookup name = none) (id : ClassId) :
    model.find? name = some id ↔ model.namesakes name = [id] := by
  unfold find?
  simp only [missing]
  rw [← namesakes]
  split
  · next only same => simp [same]
  · next others =>
      simp only [reduceCtorEq, false_iff]
      exact others id

section Find

variable {model : ClassModel} (indexed : model.Indexed)
include indexed

theorem Indexed.find?_qualifiedName {id : ClassId} {decl : ClassDecl}
    (found : model.class? id = some decl) : model.find? decl.qualifiedName = some id := by
  rw [find?, (indexed decl.qualifiedName id).mpr ⟨decl, found, rfl⟩]

/-- A name that is no qualified name finds the only class that has it as its simple name. -/
theorem Indexed.find?_eq_some_iff {name : String}
    (unqualified : ∀ id decl, model.class? id = some decl → decl.qualifiedName ≠ name)
    (id : ClassId) :
    model.find? name = some id ↔ (∃ decl, model.class? id = some decl ∧ decl.name = name) ∧
      ∀ other decl, model.class? other = some decl → decl.name = name → other = id := by
  have missing : model.index.lookup name = none := by
    by_contra present
    obtain ⟨other, listed⟩ := Option.ne_none_iff_exists'.mp present
    obtain ⟨decl, found, named⟩ := (indexed name other).mp listed
    exact unqualified other decl found named
  rw [find?_eq_some_iff_namesakes missing, ← List.perm_singleton,
    List.perm_ext_iff_of_nodup (model.nodup_namesakes name) (List.nodup_singleton id)]
  simp only [mem_namesakes_iff, List.mem_singleton]
  constructor
  · intro only
    exact ⟨(only id).mpr rfl, fun other decl found named => (only other).mp ⟨decl, found, named⟩⟩
  · rintro ⟨named, unique⟩ other
    constructor
    · rintro ⟨decl, found, sameName⟩
      exact unique other decl found sameName
    · rintro rfl
      exact named

end Find

end ClassModel
end ValueMethods
