import Mathlib.Data.List.Range
import ValueMethods.CommandLine.FieldListing

/-!
# Listed fields

The rows of a listing are made in two loops over the ancestors and over the class itself, with a
position that is counted up at every identity field.  What the loops keep is that the rows with a
position show the identity fields so far, numbered from 1, and that the position is their number.
So the listing shows the identity that methods are generated for.
-/

namespace ValueMethods

/-- What the row of an identity field shows besides its position. -/
structure ShownField where
  /-- What the field has to do with the identity. -/
  role : FieldRole
  /-- Simple name of the class that declares the field. -/
  owner : String
  /-- The field. -/
  field : Field

/-- The row of an identity field at a position. -/
def ShownField.row (shown : ShownField) (position : Nat) : FieldRow :=
  ⟨some position, shown.field.name, shown.field.type, shown.owner, shown.role⟩

namespace ClassModel

/-- The instance fields that a class declares, each shown in the given role. -/
def shownFieldsOf (model : ClassModel) (role : FieldRole) (id : ClassId) : List ShownField :=
  (instanceFields (model.fieldsOf id)).map (⟨role, model.simpleName id, ·⟩)

/-- The instance fields of the ancestors of a class as they are shown. -/
def shownInherited (model : ClassModel) (id : ClassId) : List ShownField :=
  (model.ancestors id).flatMap (model.shownFieldsOf .inherited)

/-- The identity fields of a class as they are shown. -/
def shownFields (model : ClassModel) (id : ClassId) : List ShownField :=
  model.shownInherited id ++ model.shownFieldsOf .own id

section Shown

variable (model : ClassModel) (role : FieldRole) (id : ClassId)

theorem map_field_shownFieldsOf :
    (model.shownFieldsOf role id).map ShownField.field = instanceFields (model.fieldsOf id) := by
  simp [shownFieldsOf, Function.comp_def]

theorem map_field_shownInherited :
    (model.shownInherited id).map ShownField.field = (model.identityFields id).inherited := by
  simp only [shownInherited, List.map_flatMap, map_field_shownFieldsOf, identityFields,
    ancestorFields, instanceFields, List.filter_flatMap]

theorem map_field_shownFields :
    (model.shownFields id).map ShownField.field = (model.identityFields id).toList := by
  rw [shownFields, List.map_append, map_field_shownInherited, map_field_shownFieldsOf]
  rfl

variable {role id} in
theorem role_of_mem_shownFieldsOf {entry : ShownField}
    (member : entry ∈ model.shownFieldsOf role id) :
    entry.role = role := by
  obtain ⟨field, -, rfl⟩ := List.mem_map.mp member
  rfl

theorem map_role_shownFields :
    (model.shownFields id).map ShownField.role =
      List.replicate (model.identityFields id).inherited.length .inherited ++
        List.replicate (model.identityFields id).own.length .own := by
  have inherited : (model.shownInherited id).map ShownField.role =
      List.replicate (model.shownInherited id).length .inherited := by
    refine List.map_eq_replicate_iff.mpr fun entry member => ?_
    obtain ⟨ancestor, -, declared⟩ := List.mem_flatMap.mp member
    exact model.role_of_mem_shownFieldsOf declared
  have own : (model.shownFieldsOf .own id).map ShownField.role =
      List.replicate (model.shownFieldsOf .own id).length .own :=
    List.map_eq_replicate_iff.mpr fun entry => model.role_of_mem_shownFieldsOf
  rw [shownFields, List.map_append, inherited, own, ← map_field_shownInherited, List.length_map,
    identityFields, ← map_field_shownFieldsOf model .own id, List.length_map]

theorem map_owner_shownFields :
    (model.shownFields id).map ShownField.owner =
      (model.ancestors id ++ [id]).flatMap fun owner =>
        (instanceFields (model.fieldsOf owner)).map fun _ => model.simpleName owner := by
  simp [shownFields, shownInherited, shownFieldsOf, List.map_flatMap, Function.comp_def]

end Shown

end ClassModel

namespace RowDraft

/-- The draft shows the fields, numbered from 1, and the rows without a position. -/
structure Records (draft : RowDraft) (shown : List ShownField) (unplaced : List FieldRow) :
    Prop where
  placedRows : (draft.rows.filter fun row => row.role != .static) =
    (shown.zipIdx 1).map fun entry => entry.1.row entry.2
  unplacedRows : (draft.rows.filter fun row => row.role == .static) = unplaced
  counted : draft.position = shown.length

theorem records_empty : Records empty [] [] :=
  ⟨rfl, rfl, rfl⟩

namespace Records

variable {draft : RowDraft} {shown : List ShownField} {unplaced : List FieldRow}
  (records : draft.Records shown unplaced)
include records

theorem place {role : FieldRole} (identity : role ≠ .static) (owner : String) (field : Field) :
    (draft.place role owner field).Records (shown ++ [⟨role, owner, field⟩]) unplaced where
  placedRows := by
    rw [RowDraft.place, List.filter_append, records.placedRows, List.zipIdx_append, List.map_append,
      records.counted]
    simp [identity, ShownField.row, Nat.add_comm]
  unplacedRows := by
    rw [RowDraft.place, List.filter_append, records.unplacedRows]
    simp [identity]
  counted := by simp [RowDraft.place, records.counted]

theorem pass (owner : String) (field : Field) :
    (draft.pass owner field).Records shown
      (unplaced ++ [⟨none, field.name, field.type, owner, .static⟩]) where
  placedRows := by
    rw [RowDraft.pass, List.filter_append, records.placedRows]
    simp
  unplacedRows := by
    rw [RowDraft.pass, List.filter_append, records.unplacedRows]
    simp
  counted := records.counted

theorem placeAll {role : FieldRole} (identity : role ≠ .static) (owner : String)
    (fields : List Field) :
    (fields.foldl (RowDraft.place role owner) draft).Records
      (shown ++ fields.map (⟨role, owner, ·⟩)) unplaced := by
  induction fields generalizing draft shown with
  | nil => simpa using records
  | cons field rest ih => simpa using ih (records.place identity owner field)

/-- The loop over the ancestors adds their instance fields and nothing else. -/
theorem inheritAll (model : ClassModel) (ancestors : List ClassId) :
    (ancestors.foldl (RowDraft.inherit model) draft).Records
      (shown ++ ancestors.flatMap (model.shownFieldsOf .inherited)) unplaced := by
  induction ancestors generalizing draft shown with
  | nil => simpa using records
  | cons ancestor rest ih =>
      have here := records.placeAll (by decide : FieldRole.inherited ≠ .static)
        (model.simpleName ancestor) (instanceFields (model.fieldsOf ancestor))
      simpa [ClassModel.shownFieldsOf, RowDraft.inherit] using ih here

/-- The loop over the fields of a class adds its instance fields with positions, and its static
fields without. -/
theorem declareAll (owner : String) (fields : List Field) :
    (fields.foldl (RowDraft.declare owner) draft).Records
      (shown ++ (instanceFields fields).map (⟨.own, owner, ·⟩))
      (unplaced ++ (fields.filter Field.isStatic).map fun field =>
        ⟨none, field.name, field.type, owner, .static⟩) := by
  induction fields generalizing draft shown unplaced with
  | nil => simpa [instanceFields] using records
  | cons field rest ih =>
      cases isStatic : field.isStatic with
      | true =>
          have here := ih (records.pass owner field)
          simpa [RowDraft.declare, instanceFields, isStatic] using here
      | false =>
          have here := ih (records.place (by decide : FieldRole.own ≠ .static) owner field)
          simpa [RowDraft.declare, instanceFields, isStatic] using here

end Records

theorem records_of (model : ClassModel) (id : ClassId) :
    (RowDraft.of model id).Records (model.shownFields id)
      (((model.fieldsOf id).filter Field.isStatic).map fun field =>
        ⟨none, field.name, field.type, model.simpleName id, .static⟩) := by
  have inherited := records_empty.inheritAll model (model.ancestors id)
  exact inherited.declareAll (model.simpleName id) (model.fieldsOf id)

end RowDraft

namespace ClassListing

open RowDraft

/-- The rows of a listing that are not static show the identity fields of the class, in order and
numbered from 1 on: first the inherited ones, then its own.  The static fields of the class, and no
others, are shown without a position.  So the last position that is given is the number of identity
fields, and the line for the class names them. -/
theorem rows_show_identity (model : ClassModel) (id : ClassId) :
    let fields := model.identityFields id
    let placed := (of model id).rows.filter fun row => row.role != .static
    let unplaced := (of model id).rows.filter fun row => row.role == .static
    placed.map (fun row => (row.name, row.type)) =
        fields.toList.map (fun field => (field.name, field.type)) ∧
      placed.map FieldRow.position = (List.range' 1 fields.size).map some ∧
      placed.map FieldRow.role = List.replicate fields.inherited.length .inherited ++
        List.replicate fields.own.length .own ∧
      placed.map FieldRow.owner = (model.ancestors id ++ [id]).flatMap (fun owner =>
        (instanceFields (model.fieldsOf owner)).map fun _ => model.simpleName owner) ∧
      unplaced = ((model.fieldsOf id).filter Field.isStatic).map (fun field =>
        ⟨none, field.name, field.type, model.simpleName id, .static⟩) ∧
      (RowDraft.of model id).position = fields.size ∧
      (of model id).compactLine =
        model.qualifiedName id ++ ": " ++ Text.joinWith ", " fields.names := by
  intro fields placed unplaced
  have records := RowDraft.records_of model id
  have shown : (model.shownFields id).map ShownField.field = fields.toList :=
    model.map_field_shownFields id
  have size : (model.shownFields id).length = fields.size := by
    rw [← fields.length_toList, ← shown, List.length_map]
  -- what a row shows besides its position is what the field that it is for shows
  have through {α : Type} (view : FieldRow → α) (viewed : ShownField → α)
      (same : ∀ entry position, view (ShownField.row entry position) = viewed entry) :
      placed.map view = (model.shownFields id).map viewed := by
    have rows : placed = _ := records.placedRows
    calc placed.map view
        = ((model.shownFields id).zipIdx 1).map (viewed ∘ Prod.fst) := by
          rw [rows, List.map_map]
          exact List.map_congr_left fun entry _ => same entry.1 entry.2
      _ = (model.shownFields id).map viewed := by rw [← List.map_map, List.zipIdx_map_fst]
  have names : placed.map FieldRow.name = fields.names := by
    rw [through FieldRow.name (Field.name ∘ ShownField.field) fun _ _ => rfl, ← List.map_map, shown,
      IdentityFields.names]
  refine ⟨?_, ?_, ?_, ?_, records.unplacedRows, records.counted.trans size, ?_⟩
  · rw [through _ ((fun field => (field.name, field.type)) ∘ ShownField.field) fun _ _ => rfl,
      ← List.map_map, shown]
  · have rows : placed = _ := records.placedRows
    rw [rows, List.map_map, ← size, ← List.zipIdx_map_snd 1 (model.shownFields id), List.map_map]
    rfl
  · rw [through _ ShownField.role fun _ _ => rfl, model.map_role_shownFields]
  · rw [through _ ShownField.owner fun _ _ => rfl, model.map_owner_shownFields]
  · rw [compactLine, ← names]
    rfl

end ClassListing
end ValueMethods
