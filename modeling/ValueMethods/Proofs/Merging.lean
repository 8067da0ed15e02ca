import Mathlib.Data.List.Forall2
import ValueMethods.Documents.Loading

/-!
# Merging documents

The package of a document is applied in two places: when the document is merged, each class that
names no package is given it, and when the document is loaded, each class that has none still is
taken to be in it.  Both come to the same classes, so a document can be loaded as it is or merged
before, with the same model or the same error, and documents can be merged in groups.
-/

namespace ValueMethods

/-! ### The package of a class -/

namespace ClassEntry

/-- The second entry is the first one, in the given package if it names none itself.  An empty
package is named. -/
structure SettlesIn (package : Option String) (entry settled : ClassEntry) : Prop where
  name : settled.name = entry.name
  superclass : settled.superclass = entry.superclass
  isAbstract : settled.isAbstract = entry.isAbstract
  fields : settled.fields = entry.fields
  methods : settled.methods = entry.methods
  named : ∀ own, entry.package = some own → settled.package = some own
  unnamed : entry.package = none → settled.package = package

theorem settlesIn_iff {package : Option String} {entry settled : ClassEntry} :
    entry.SettlesIn package settled ↔ settled = entry.withPackage package := by
  constructor
  · intro settles
    have place : settled.package = entry.package.or package := by
      cases own : entry.package with
      | none => exact settles.unnamed own
      | some name => exact settles.named name own
    obtain ⟨name, _, superclass, isAbstract, fields, methods⟩ := settled
    cases settles.name
    cases settles.superclass
    cases settles.isAbstract
    cases settles.fields
    cases settles.methods
    rw [withPackage, ← place]
  · rintro rfl
    exact
      { name := rfl
        superclass := rfl
        isAbstract := rfl
        fields := rfl
        methods := rfl
        named := fun own known => by rw [withPackage, known, Option.some_or]
        unnamed := fun nameless => by rw [withPackage, nameless, Option.none_or] }

@[simp]
theorem withPackage_none (entry : ClassEntry) : entry.withPackage none = entry := by
  rw [withPackage, Option.or_none]

/-- An entry describes the same class before and after it is given its package. -/
theorem decl_withPackage (entry : ClassEntry) (package : Option String) :
    (entry.withPackage package).decl none = entry.decl package := by
  simp only [decl, withPackage, Option.or_none]

end ClassEntry

theorem ClassModel.addEntries_withPackage (package : Option String) (model : ClassModel)
    (entries : List ClassEntry) :
    model.addEntries none (entries.map fun entry => entry.withPackage package) =
      model.addEntries package entries := by
  induction entries generalizing model with
  | nil => rfl
  | cons entry rest ih =>
      rw [List.map_cons, addEntries, addEntries, entry.decl_withPackage]
      -- The name of the superclass is not touched, so the same classes are left to be linked.
      cases model.addClass (entry.decl package) with
      | error error => rfl
      | ok extended =>
          simp only [ih]
          rfl

/-! ### Merged documents -/

namespace Document

theorem model_eq_settledClasses (document : Document) :
    document.model = (⟨none, document.settledClasses⟩ : Document).model := by
  rw [model, model, settledClasses, ClassModel.addEntries_withPackage]

theorem settledClasses_merge (documents : List Document) :
    (merge documents).settledClasses = documents.flatMap settledClasses := by
  simp [merge, settledClasses]

theorem merge_singleton (document : Document) :
    merge [document] = ⟨none, document.settledClasses⟩ := by
  simp [merge]

/-- Documents can be merged in groups, and the merged documents then, with the same result. -/
theorem merge_map_merge (groups : List (List Document)) :
    merge (groups.map merge) = merge groups.flatten := by
  simp only [merge, mk.injEq, true_and]
  induction groups with
  | nil => rfl
  | cons group rest ih =>
      rw [List.map_cons, List.flatMap_cons, List.flatten_cons, List.flatMap_append, ih]
      exact congrArg (· ++ _) (settledClasses_merge group)

/-- The classes of documents, each with the package of its own document. -/
def entriesIn (documents : List Document) : List (Option String × ClassEntry) :=
  documents.flatMap fun document => document.classes.map fun entry => (document.package, entry)

/-- Each class of a merged document is a class of one of the documents, in order, settled in the
package of that document. -/
theorem settles_merge (documents : List Document) :
    List.Forall₂ (fun source settled => source.2.SettlesIn source.1 settled)
      (entriesIn documents) (merge documents).classes := by
  have settled : (merge documents).classes =
      (entriesIn documents).map fun source => source.2.withPackage source.1 := by
    simp only [merge, entriesIn, List.map_flatMap, List.map_map]
    rfl
  rw [settled, List.forall₂_map_right_iff, List.forall₂_same]
  exact fun source _ => ClassEntry.settlesIn_iff.mpr rfl

/-- Merging is coherent with loading.  One document describes the same model, or fails in the same
way, as it is and merged; a file can be loaded by itself or as the only one of several.  Documents
can be merged at once or in groups, and merging a merged document changes nothing.  The merged
document has the classes of all documents in order, each as it was but for a missing package, which
is that of its own document. -/
theorem merging_coherent_with_loading (documents : List Document) :
    (∀ document, (merge [document]).model = document.model) ∧
    (∀ tree path, ClassModel.loadFiles tree [path] = ClassModel.loadFile tree path) ∧
    (∀ groups : List (List Document), merge (groups.map merge) = merge groups.flatten) ∧
    (∀ others, merge [merge documents, merge others] = merge (documents ++ others)) ∧
    merge [merge documents] = merge documents ∧
    (merge documents).package = none ∧
    List.Forall₂ (fun source settled => source.2.SettlesIn source.1 settled)
      (entriesIn documents) (merge documents).classes := by
  have single (document : Document) : (merge [document]).model = document.model := by
    rw [merge_singleton, ← model_eq_settledClasses]
  refine ⟨single, ?_, merge_map_merge, ?_, ?_, rfl, settles_merge documents⟩
  · intro tree path
    rw [ClassModel.loadFiles, ClassModel.loadFile, ofFiles]
    cases ofFile tree path with
    | error error => rfl
    | ok document =>
        change (merge [document]).load = document.load
        rw [load, load, single]
  · intro others
    simpa using merge_map_merge [documents, others]
  · simpa using merge_map_merge [documents]

/-- An empty package is kept, and a package does not reach the classes of another document. -/
example (bare : ClassEntry) :
    (merge [⟨some "a", [{ bare with package := none }, { bare with package := some "" }]⟩,
      ⟨none, [{ bare with package := none }]⟩]).classes.map ClassEntry.package =
        [some "a", some "", none] := rfl

end Document
end ValueMethods
