import ValueMethods.Documents.Decoding
import ValueMethods.Proofs.JsonReading

/-!
# Documents written and read again

A document is told by its data tree: every entry that is left out has the value that reading puts
in its place.  So the JSON text of a document, laid out in any way, is read as that document.
-/

namespace ValueMethods

/-! ### Trees without numbers -/

namespace Json.IsVerbal

variable {front back : List (String × DataTree)}

theorem append (front_verbal : IsVerbal (.map front)) (back_verbal : IsVerbal (.map back)) :
    IsVerbal (.map (front ++ back)) := by
  cases front_verbal with
  | map front_verbal =>
      cases back_verbal with
      | map back_verbal => exact .map (List.forall_mem_append.mpr ⟨front_verbal, back_verbal⟩)

theorem single {value : DataTree} (key : String) (verbal : IsVerbal value) :
    IsVerbal (.map [(key, value)]) :=
  .map (by simpa using verbal)

theorem listMap {α : Type} {write : α → DataTree} (values : List α)
    (verbal : ∀ value, IsVerbal (write value)) : IsVerbal (.list (values.map write)) :=
  .list (List.forall_mem_map.mpr fun value _ => verbal value)

theorem nothing : IsVerbal (.map []) :=
  .map (by simp)

theorem optionalText (key : String) (value : Option String) :
    IsVerbal (.map (DataTree.optionalText key value)) := by
  cases value with
  | none => exact nothing
  | some content => exact single key (.text content)

theorem optionalFlag (key : String) (value : Bool) :
    IsVerbal (.map (DataTree.optionalFlag key value)) := by
  cases value with
  | false => exact nothing
  | true => exact single key (.bool true)

theorem optionalList {items : List DataTree} (key : String) (verbal : IsVerbal (.list items)) :
    IsVerbal (.map (DataTree.optionalList key items)) := by
  rw [DataTree.optionalList]
  split
  · exact nothing
  · exact single key verbal

end Json.IsVerbal

open Json (IsVerbal)

theorem FieldEntry.isVerbal_tree (field : FieldEntry) : IsVerbal field.tree :=
  (IsVerbal.append (.single _ (.text _)) (.single _ (.text _))).append (.optionalFlag _ _)

theorem MethodEntry.isVerbal_tree (method : MethodEntry) : IsVerbal method.tree :=
  (IsVerbal.append (.single _ (.text _)) (.optionalList _ (.listMap _ .text))).append
    (.optionalText _ _)

theorem ClassEntry.isVerbal_tree (entry : ClassEntry) : IsVerbal entry.tree :=
  (IsVerbal.single _ (.text _)).append (.optionalText _ _) |>.append (.optionalText _ _)
    |>.append (.optionalFlag _ _) |>.append (.single _ (.listMap _ FieldEntry.isVerbal_tree))
    |>.append (.optionalList _ (.listMap _ MethodEntry.isVerbal_tree))

theorem Document.isVerbal_tree (document : Document) : IsVerbal document.tree :=
  (IsVerbal.optionalText _ _).append (.single _ (.listMap _ ClassEntry.isVerbal_tree))

/-! ### Entries of records -/

namespace Decode

section Entries

variable {σ : Type} {step : σ → String → DataTree → Except DataFault σ}

theorem foldEntries_append {state middle last : σ} {front back : List (String × DataTree)}
    (front_taken : foldEntries step state front = .ok middle)
    (back_taken : foldEntries step middle back = .ok last) :
    foldEntries step state (front ++ back) = .ok last := by
  induction front generalizing state with
  | nil =>
      obtain rfl : state = middle := by simpa [foldEntries] using front_taken
      exact back_taken
  | cons entry front ih =>
      obtain ⟨key, value⟩ := entry
      rw [List.cons_append]
      simp only [foldEntries] at front_taken ⊢
      cases first : step state key value with
      | error fault => simp [first] at front_taken
      | ok changed => exact ih (by simpa [first] using front_taken)

theorem foldEntries_single {state changed : σ} {key : String} {value : DataTree}
    (taken : step state key value = .ok changed) :
    foldEntries step state [(key, value)] = .ok changed := by
  simp only [foldEntries, taken]

/-- An optional text fills a field that is still open, or leaves it open. -/
theorem foldEntries_optionalText (key : String) (put : Option (Option String) → σ)
    (taken : ∀ content, step (put none) key (.text content) = .ok (put (some (some content))))
    (value : Option String) :
    foldEntries step (put none) (DataTree.optionalText key value) = .ok (put (value.map some)) := by
  cases value with
  | none => rfl
  | some content => exact foldEntries_single (taken content)

/-- An optional flag fills a field that is still open, or leaves it open. -/
theorem foldEntries_optionalFlag (key : String) (put : Option Bool → σ)
    (taken : step (put none) key (.bool true) = .ok (put (some true))) (value : Bool) :
    foldEntries step (put none) (DataTree.optionalFlag key value) =
      .ok (put (if value then some true else none)) := by
  cases value with
  | false => rfl
  | true => exact foldEntries_single taken

/-- An optional list fills a field that is still open, or leaves it open. -/
theorem foldEntries_optionalList {α : Type} {write : α → DataTree} {values : List α}
    (key : String) (put : Option (List α) → σ)
    (taken : step (put none) key (.list (values.map write)) = .ok (put (some values))) :
    foldEntries step (put none) (DataTree.optionalList key (values.map write)) =
      .ok (put (if values.isEmpty then none else some values)) := by
  cases values with
  | nil => rfl
  | cons value values => exact foldEntries_single taken

end Entries

/-- A list left out when it is empty is restored. -/
theorem getD_list {α : Type} (values : List α) :
    (if values.isEmpty then none else some values).getD [] = values := by
  cases values <;> rfl

theorem getD_flag (value : Bool) : (if value then some true else none).getD false = value := by
  cases value <;> rfl

theorem getD_text (value : Option String) : (value.map some).getD none = value := by
  cases value <;> rfl

/-- What is read back one by one is read back as a list. -/
theorem list_map {α : Type} {decode : DataTree → Except DataFault α} {write : α → DataTree}
    (known : ∀ value, decode (write value) = .ok value) (values : List α) :
    list decode (.list (values.map write)) = .ok values := by
  rw [list]
  induction values with
  | nil => rfl
  | cons value values ih => rw [List.map_cons, all, known, ih]; rfl

theorem assign_none {α : Type} {decode : DataTree → Except DataFault α} {tree : DataTree}
    {value : α} (known : decode tree = .ok value) (field : String) :
    assign field none decode tree = .ok (some value) := by
  simp only [assign, Option.isSome_none, known]
  rfl

/-! ### Records -/

/-- A field is read back from its tree. -/
theorem field_tree (lenient : Bool) (entry : FieldEntry) :
    field lenient entry.tree = .ok entry := by
  obtain ⟨name, type, isStatic⟩ := entry
  have named : foldEntries FieldDraft.take {} [("name", .text name), ("type", .text type)] =
      .ok ⟨some name, some type, none⟩ := rfl
  have taken := foldEntries_append named
    (foldEntries_optionalFlag "static" (FieldDraft.mk (some name) (some type) ·) rfl isStatic)
  simp only [FieldEntry.tree, field, taken, bind, Except.bind, FieldDraft.entry, getD_flag]
  rfl

/-- A method is read back from its tree. -/
theorem method_tree (lenient : Bool) (entry : MethodEntry) :
    method lenient entry.tree = .ok entry := by
  obtain ⟨name, parameters, source⟩ := entry
  have texts : list text (.list (parameters.map .text)) = .ok parameters :=
    list_map (fun value => (rfl : text (.text value) = .ok value)) parameters
  have parametersTaken : (MethodDraft.mk (some name) none none).take "params"
      (.list (parameters.map .text)) = .ok ⟨some name, some parameters, none⟩ := by
    simp only [MethodDraft.take, assign_none texts]
    rfl
  have named : foldEntries MethodDraft.take {} [("name", .text name)] =
      .ok ⟨some name, none, none⟩ := rfl
  have listed := foldEntries_append named
    (foldEntries_optionalList "params" (MethodDraft.mk (some name) · none) parametersTaken)
  have taken := foldEntries_append listed
    (foldEntries_optionalText "source" (MethodDraft.mk (some name) _ ·) (fun _ => rfl) source)
  simp only [MethodEntry.tree, method, taken, bind, Except.bind, MethodDraft.entry, getD_list,
    getD_text]

/-- A class is read back from its tree. -/
theorem classEntry_tree (lenient : Bool) (entry : ClassEntry) :
    classEntry lenient entry.tree = .ok entry := by
  obtain ⟨name, package, superclass, isAbstract, fields, methods⟩ := entry
  have fieldsTaken (package superclass isAbstract) :
      (ClassDraft.mk (some name) package superclass isAbstract none none).take lenient "fields"
        (.list (fields.map FieldEntry.tree)) =
      .ok ⟨some name, package, superclass, isAbstract, some fields, none⟩ := by
    simp only [ClassDraft.take, assign_none (list_map (field_tree lenient) fields)]
    rfl
  have methodsTaken (package superclass isAbstract) :
      (ClassDraft.mk (some name) package superclass isAbstract (some fields) none).take lenient
        "methods" (.list (methods.map MethodEntry.tree)) =
      .ok ⟨some name, package, superclass, isAbstract, some fields, some methods⟩ := by
    simp only [ClassDraft.take, assign_none (list_map (method_tree lenient) methods)]
    rfl
  have named : foldEntries (ClassDraft.take lenient) {} [("name", .text name)] =
      .ok ⟨some name, none, none, none, none, none⟩ := rfl
  have placed := foldEntries_append named
    (foldEntries_optionalText "package" (ClassDraft.mk (some name) · none none none none)
      (fun _ => rfl) package)
  have linked := foldEntries_append placed
    (foldEntries_optionalText "extends" (ClassDraft.mk (some name) _ · none none none)
      (fun _ => rfl) superclass)
  have flagged := foldEntries_append linked
    (foldEntries_optionalFlag "abstract" (ClassDraft.mk (some name) _ _ · none none) rfl isAbstract)
  have filled := foldEntries_append flagged (foldEntries_single (fieldsTaken _ _ _))
  have taken := foldEntries_append filled
    (foldEntries_optionalList "methods" (ClassDraft.mk (some name) _ _ _ (some fields) ·)
      (methodsTaken _ _ _))
  simp only [ClassEntry.tree, classEntry, taken, bind, Except.bind, ClassDraft.entry, getD_list,
    getD_text, getD_flag, Option.getD_some]

/-- A document is read back from its tree. -/
theorem document_tree (lenient : Bool) (written : Document) :
    document lenient written.tree = .ok written := by
  obtain ⟨package, classes⟩ := written
  have classesTaken (package) : (DocumentDraft.mk package none).take lenient "classes"
      (.list (classes.map ClassEntry.tree)) = .ok ⟨package, some classes⟩ := by
    simp only [DocumentDraft.take, assign_none (list_map (classEntry_tree lenient) classes)]
    rfl
  have placed : foldEntries (DocumentDraft.take lenient) {} _ = _ :=
    foldEntries_optionalText "package" (DocumentDraft.mk · none) (fun _ => rfl) package
  have taken := foldEntries_append placed (foldEntries_single (classesTaken _))
  simp only [Document.tree, document, taken, bind, Except.bind, DocumentDraft.document,
    getD_text, Option.getD_some]

end Decode

/-! ### Documents -/

/-- However the text of a document is laid out, the document is read from it. -/
theorem Document.read_of_writes (document : Document) {front text back : List Char}
    (writes : Json.Writes document.tree text) (front_spacing : Json.IsSpacing front)
    (back_spacing : Json.IsSpacing back) :
    Document.read .json (String.ofList (front ++ (text ++ back))) = .ok document := by
  simp only [Document.read, writes.read front_spacing back_spacing, Decode.document_tree, if_true]

/-- A document written as JSON, without blanks or spread over lines, is read as that document. -/
theorem Document.read_written (document : Document) :
    Document.read .json (Json.compact document.tree) = .ok document ∧
      Document.read .json (Json.pretty 0 document.tree) = .ok document := by
  have nothing : Json.IsSpacing [] := by simp [Json.IsSpacing]
  constructor
  · have read := document.read_of_writes (Json.writes_compactChars document.isVerbal_tree)
      nothing nothing
    rwa [List.nil_append, List.append_nil] at read
  · have read := document.read_of_writes (Json.writes_pretty document.isVerbal_tree 0)
      nothing nothing
    rwa [List.nil_append, List.append_nil, String.ofList_toList] at read

end ValueMethods
