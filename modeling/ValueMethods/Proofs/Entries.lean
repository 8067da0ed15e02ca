import ValueMethods.Proofs.Naming

/-!
# Adding the entries of a document

The entries of a document are added in order until one is at fault: its class has the name of an
earlier one, or it names a field twice.  If none is, all classes are there, each at the place of its
entry, and none extends anything yet.
-/

namespace ValueMethods

namespace ClassEntry

/-- The qualified name of the class that an entry describes. -/
def qualifiedName (package : Option String) (entry : ClassEntry) : String :=
  qualifyName (entry.package.or package) entry.name

/-- The names of the fields, in order. -/
def fieldNames (entry : ClassEntry) : List String :=
  entry.fields.map FieldEntry.name

variable (entry : ClassEntry) (package : Option String)

@[simp]
theorem qualifiedName_decl : (entry.decl package).qualifiedName = entry.qualifiedName package := by
  have same := entry.outline_decl package
  exact congrArg₂ qualifyName (congrArg Outline.package same) (congrArg Outline.name same)

@[simp]
theorem fieldNames_decl : (entry.decl package).fields.map Field.name = entry.fieldNames := by
  have same : (entry.decl package).fields = (entry.outline package).fields :=
    congrArg Outline.fields (entry.outline_decl package)
  rw [same]
  simp [outline, fieldNames]

@[simp]
theorem superclass_decl : (entry.decl package).superclass = none :=
  congrArg Outline.superclass (entry.outline_decl package)

theorem decl_with_superclass_none :
    { entry.decl package with superclass := none } = entry.decl package := by
  rw [← entry.superclass_decl package]

/-- What is wrong with an entry that comes after others. -/
inductive Fault (package : Option String) (earlier : List ClassEntry) (entry : ClassEntry) :
    ModelError → Prop
  /-- An earlier class has the name. -/
  | repeatedName {other : ClassEntry} (member : other ∈ earlier)
      (same : other.qualifiedName package = entry.qualifiedName package) :
      Fault package earlier entry (.duplicateClass (entry.qualifiedName package))
  /-- The name is new, but a field is named again. -/
  | repeatedField {front back : List String} {field : String}
      (new : ∀ other ∈ earlier, other.qualifiedName package ≠ entry.qualifiedName package)
      (names : entry.fieldNames = front ++ field :: back) (repeated : field ∈ front)
      (first : front.Nodup) :
      Fault package earlier entry (.duplicateField (entry.qualifiedName package) field)

/-- No two classes have the same name, and no class has two fields of one name. -/
structure Faultless (package : Option String) (entries : List ClassEntry) : Prop where
  names : (entries.map (qualifiedName package)).Nodup
  fields : ∀ entry ∈ entries, entry.fieldNames.Nodup

theorem Faultless.nil (package : Option String) : Faultless package [] where
  names := List.nodup_nil
  fields := by simp

theorem Faultless.concat {package : Option String} {earlier : List ClassEntry}
    (faultless : Faultless package earlier) {entry : ClassEntry}
    (new : ∀ other ∈ earlier, other.qualifiedName package ≠ entry.qualifiedName package)
    (fields : entry.fieldNames.Nodup) : Faultless package (earlier ++ [entry]) where
  names := by
    rw [List.map_append, List.map_singleton, ← List.concat_eq_append, List.nodup_concat]
    refine ⟨?_, faultless.names⟩
    simpa using new
  fields := by
    intro other member
    rcases List.mem_append.mp member with old | last
    · exact faultless.fields other old
    · rwa [List.mem_singleton.mp last]

/-- A part that ends at an entry with a fault is not faultless. -/
theorem Fault.not_faultless {package : Option String} {front back : List ClassEntry}
    {entry : ClassEntry} {error : ModelError} (fault : entry.Fault package front error) :
    ¬Faultless package (front ++ entry :: back) := by
  intro faultless
  cases fault with
  | @repeatedName other member same =>
      have names := faultless.names
      rw [List.map_append, List.map_cons, List.nodup_append] at names
      exact names.2.2 _ (List.mem_map_of_mem member) _ List.mem_cons_self same
  | repeatedField _ names repeated _ =>
      have nodup := faultless.fields entry (by simp)
      rw [names, List.nodup_append] at nodup
      exact nodup.2.2 _ repeated _ List.mem_cons_self rfl

end ClassEntry

namespace ClassModel

/-- The model with the classes of these entries, none of which extends anything. -/
def ofEntries (package : Option String) (entries : List ClassEntry) : ClassModel where
  classes := entries.map fun entry => entry.decl package
  index := (entries.map (ClassEntry.qualifiedName package)).zipIdx

section OfEntries

variable {package : Option String} {earlier : List ClassEntry}

theorem class?_ofEntries (id : ClassId) :
    (ofEntries package earlier).class? id = earlier[id]?.map fun entry => entry.decl package := by
  simp [class?, ofEntries]

@[simp]
theorem size_ofEntries : (ofEntries package earlier).size = earlier.length := by
  simp [size, ofEntries]

theorem lookup_ofEntries_eq_none_iff {name : String} :
    (ofEntries package earlier).index.lookup name = none ↔
      ∀ entry ∈ earlier, entry.qualifiedName package ≠ name := by
  rw [List.lookup_eq_none_iff]
  constructor
  · intro missing entry member same
    obtain ⟨id, inside, rfl⟩ := List.getElem_of_mem member
    have listed : (name, id) ∈ (ofEntries package earlier).index := by
      simp [ofEntries, List.mem_zipIdx_iff_getElem?, inside, same]
    simpa using missing (name, id) listed
  · rintro missing ⟨key, id⟩ listed
    rw [ofEntries, List.mem_zipIdx_iff_getElem?, List.getElem?_map] at listed
    obtain ⟨entry, found, rfl⟩ := Option.map_eq_some_iff.mp listed
    simpa using (missing entry (List.mem_of_getElem? found)).symm

/-- An entry is refused for what is wrong with it; one without fault is added at the end. -/
theorem addClass_ofEntries (package : Option String) (earlier : List ClassEntry)
    (entry : ClassEntry) :
    (∃ error, entry.Fault package earlier error ∧
      (ofEntries package earlier).addClass (entry.decl package) = .error error) ∨
    ((∀ other ∈ earlier, other.qualifiedName package ≠ entry.qualifiedName package) ∧
      entry.fieldNames.Nodup ∧
      (ofEntries package earlier).addClass (entry.decl package) =
        .ok (ofEntries package (earlier ++ [entry]))) := by
  simp only [addClass, enter, ClassEntry.qualifiedName_decl, ClassEntry.fieldNames_decl]
  cases known : (ofEntries package earlier).index.lookup (entry.qualifiedName package) with
  | some id =>
      have taken : ∃ other ∈ earlier,
          other.qualifiedName package = entry.qualifiedName package := by
        by_contra fresh
        push Not at fresh
        rw [lookup_ofEntries_eq_none_iff.mpr fresh] at known
        simp at known
      obtain ⟨other, member, same⟩ := taken
      exact .inl ⟨_, .repeatedName member same, by simp [accepted]⟩
  | none =>
      have new := lookup_ofEntries_eq_none_iff.mp known
      cases fields : firstRepeated entry.fieldNames with
      | some field =>
          obtain ⟨front, back, names, repeated, first⟩ := of_firstRepeated_eq_some fields
          exact .inl ⟨_, .repeatedField new names repeated first, by simp [accepted]⟩
      | none =>
          refine .inr ⟨new, firstRepeated_eq_none_iff.mp fields, ?_⟩
          simp [accepted, ofEntries, List.zipIdx_append, size]

end OfEntries

/-- The places of entries that name a superclass, with its name. -/
def pendingFrom : ClassId → List ClassEntry → List (ClassId × String)
  | _, [] => []
  | id, entry :: rest =>
      match entry.superclass with
      | some name => (id, name) :: pendingFrom (id + 1) rest
      | none => pendingFrom (id + 1) rest

/-- The entries are added up to the first that is at fault, or all of them. -/
theorem addEntries_ofEntries {package : Option String} {earlier : List ClassEntry}
    (faultless : ClassEntry.Faultless package earlier) (entries : List ClassEntry) :
    (∃ front entry back error, entries = front ++ entry :: back ∧
      ClassEntry.Faultless package (earlier ++ front) ∧
      entry.Fault package (earlier ++ front) error ∧
      addEntries package (ofEntries package earlier) entries = .error error) ∨
    (ClassEntry.Faultless package (earlier ++ entries) ∧
      addEntries package (ofEntries package earlier) entries =
        .ok (ofEntries package (earlier ++ entries), pendingFrom earlier.length entries)) := by
  induction entries generalizing earlier with
  | nil => exact .inr ⟨by rwa [List.append_nil], by simp [addEntries, pendingFrom]⟩
  | cons entry rest ih =>
      rcases addClass_ofEntries package earlier entry with
        ⟨error, fault, refused⟩ | ⟨new, fields, added⟩
      · refine .inl ⟨[], entry, rest, error, rfl, ?_, ?_, by rw [addEntries, refused]⟩
        · rwa [List.append_nil]
        · rwa [List.append_nil]
      · have longer := faultless.concat new fields
        rcases ih longer with ⟨front, other, back, error, split, sound, fault, refused⟩ |
          ⟨sound, accepted⟩
        · rw [List.append_assoc] at sound fault
          refine .inl ⟨entry :: front, other, back, error, by rw [split, List.cons_append],
            sound, fault, ?_⟩
          rw [addEntries, added]
          simp only [refused]
        · rw [List.append_assoc] at sound accepted
          refine .inr ⟨sound, ?_⟩
          rw [addEntries, added]
          simp only [accepted, List.length_append, List.length_singleton, size_ofEntries]
          rw [pendingFrom]
          cases entry.superclass <;> rfl

end ClassModel

/-- The classes of a document, none of which extends anything. -/
def Document.unlinked (document : Document) : ClassModel :=
  .ofEntries document.package document.classes

/-- The first entry at fault decides about a document; without one, the superclasses do. -/
theorem Document.model_eq (document : Document) :
    (∃ front entry back error, document.classes = front ++ entry :: back ∧
      ClassEntry.Faultless document.package front ∧ entry.Fault document.package front error ∧
      document.model = .error error) ∨
    (ClassEntry.Faultless document.package document.classes ∧
      document.model = document.unlinked.linkAll (ClassModel.pendingFrom 0 document.classes)) := by
  have nothing : ClassModel.empty = .ofEntries document.package [] := rfl
  rcases ClassModel.addEntries_ofEntries (ClassEntry.Faultless.nil document.package)
      document.classes with
    ⟨front, entry, back, error, split, sound, fault, refused⟩ | ⟨sound, accepted⟩
  · exact .inl ⟨front, entry, back, error, split, sound, fault, by rw [model, nothing, refused]⟩
  · exact .inr ⟨sound, by rw [model, nothing, accepted]; rfl⟩

end ValueMethods
