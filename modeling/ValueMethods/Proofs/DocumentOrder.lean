import ValueMethods.Proofs.Acceptance
import ValueMethods.Proofs.Relocation

/-!
# The order of documents and classes

A document with its classes in another order describes the same classes at other places.  A name
means the same class there, so the superclasses have a cycle in both orders or in neither, and what
a generation run leaves of a class does not tell in which order it was read.
-/

namespace ValueMethods

/-! ## Places in a list -/

/-- Keeps the first place and moves the places after it. -/
def movedBehindFirst (move : Equiv.Perm Nat) : Equiv.Perm Nat where
  toFun
    | 0 => 0
    | place + 1 => move place + 1
  invFun
    | 0 => 0
    | place + 1 => move.symm place + 1
  left_inv := by rintro (_ | place) <;> simp
  right_inv := by rintro (_ | place) <;> simp

/-- A list in another order has each of its members at some other place. -/
theorem exists_move_of_perm {α : Type} {first second : List α} (perm : first.Perm second) :
    ∃ move : Equiv.Perm Nat, ∀ place, second[move place]? = first[place]? := by
  induction perm with
  | nil => exact ⟨Equiv.refl Nat, fun _ => rfl⟩
  | cons member _ ih =>
      obtain ⟨move, moved⟩ := ih
      refine ⟨movedBehindFirst move, fun place => ?_⟩
      cases place with
      | zero => rfl
      | succ place => exact moved place
  | swap front back rest =>
      refine ⟨Equiv.swap 0 1, fun place => ?_⟩
      match place with
      | 0 => rfl
      | 1 => rfl
      | place + 2 =>
          rw [Equiv.swap_apply_of_ne_of_ne (by omega) (by omega)]
          rfl
  | trans _ _ ihFirst ihSecond =>
      obtain ⟨move, moved⟩ := ihFirst
      obtain ⟨further, movedFurther⟩ := ihSecond
      exact ⟨move.trans further, fun place => (movedFurther (move place)).trans (moved place)⟩

/-! ## Documents without links -/

theorem ClassEntry.Faultless.perm {package : Option String} {first second : List ClassEntry}
    (faultless : Faultless package first) (perm : first.Perm second) :
    Faultless package second where
  names := ((perm.map _).nodup_iff).mp faultless.names
  fields entry member := faultless.fields entry (perm.mem_iff.mpr member)

/-- Classes with different names are indexed by them. -/
theorem ClassModel.indexed_ofEntries {package : Option String} {entries : List ClassEntry}
    (faultless : ClassEntry.Faultless package entries) : (ofEntries package entries).Indexed := by
  -- On the entries from the last one back, as they have been added.
  induction entries using List.reverseRecOn with
  | nil => intro name id; simp [ofEntries, class?]
  | append_singleton earlier entry ih =>
      have sound : ClassEntry.Faultless package earlier :=
        { names := (List.map_append ▸ faultless.names).of_append_left
          fields := fun other member => faultless.fields other (List.mem_append_left _ member) }
      rcases addClass_ofEntries package earlier entry with ⟨error, fault, _⟩ | ⟨_, _, added⟩
      · exact absurd faultless fault.not_faultless
      · exact (ih sound).addClass added

namespace Document

/-- The second document has the entries of the first, each at the place it is moved to. -/
structure Reordered (move : Equiv.Perm ClassId) (first second : Document) : Prop where
  package : second.package = first.package
  perm : first.classes.Perm second.classes
  entry : ∀ id, second.classes[move id]? = first.classes[id]?

theorem indexed_linkedUpTo {document : Document}
    (sound : ClassEntry.Faultless document.package document.classes) (count : Nat) :
    (document.linkedUpTo count).Indexed := by
  induction count with
  | zero => exact ClassModel.indexed_ofEntries sound
  | succ count ih => exact ih.modify count fun _ => rfl

namespace Reordered

variable {move : Equiv.Perm ClassId} {first second : Document}
  (reordered : Reordered move first second)
include reordered

theorem symm : Reordered move.symm second first where
  package := reordered.package.symm
  perm := reordered.perm.symm
  entry id := by rw [← reordered.entry, move.apply_symm_apply]

theorem faultless (sound : ClassEntry.Faultless first.package first.classes) :
    ClassEntry.Faultless second.package second.classes := by
  rw [reordered.package]
  exact sound.perm reordered.perm

section Faultless

variable (sound : ClassEntry.Faultless first.package first.classes)
include sound

/-- Before any links are made, the classes are the same at other places. -/
theorem relocated_unlinked : ClassModel.Relocated move first.unlinked second.unlinked := by
  apply (ClassModel.indexed_ofEntries sound).relocated
    (ClassModel.indexed_ofEntries (reordered.faultless sound))
  · rw [ClassModel.size_ofEntries, ClassModel.size_ofEntries, reordered.perm.length_eq]
  · intro id
    rw [ClassModel.class?_ofEntries, ClassModel.class?_ofEntries, reordered.entry,
      reordered.package, Option.map_map]
    refine congrArg (Option.map · _) (funext fun entry => ?_)
    rw [Function.comp_apply, ClassDecl.relocate, entry.superclass_decl, Option.map_none,
      entry.decl_with_superclass_none]

theorem superclassOf (id : ClassId) :
    second.superclassOf (move id) = (first.superclassOf id).map (Superclass.relocate move) := by
  rw [Document.superclassOf, Document.superclassOf, reordered.entry, Option.map_map]
  refine congrArg (Option.map · _) (funext fun name => ?_)
  rw [(reordered.relocated_unlinked sound).resolveFrom, Function.comp_apply]
  cases first.unlinked.resolveFrom id name <;> rfl

theorem link {child parent : ClassId} (extended : first.Extends child parent) :
    second.Extends (move child) (move parent) := by
  rw [Extends, reordered.superclassOf sound, extended]
  rfl

theorem relocated_linked :
    ClassModel.Relocated move (first.linkedUpTo first.classes.length)
      (second.linkedUpTo second.classes.length) := by
  apply (indexed_linkedUpTo sound _).relocated (indexed_linkedUpTo (reordered.faultless sound) _)
  · rw [size_linkedUpTo, size_linkedUpTo, reordered.perm.length_eq]
  · intro id
    have moved := reordered.entry id
    rw [class?_linkedUpTo, class?_linkedUpTo, moved, reordered.package]
    cases found : first.classes[id]? with
    | none => rfl
    | some entry =>
        have inside : id < first.classes.length := (List.getElem?_eq_some_iff.mp found).1
        have insideToo : move id < second.classes.length :=
          (List.getElem?_eq_some_iff.mp (moved.trans found)).1
        simp only [Option.map_some, ClassDecl.relocate, if_pos inside, if_pos insideToo,
          reordered.superclassOf sound]

theorem isCycle {members : List ClassId} (cycle : first.IsCycle members) :
    second.IsCycle (members.map move) := by
  obtain ⟨start, rest, rfl, chain⟩ := cycle
  refine ⟨move start, rest.map move, rfl, ?_⟩
  have moved := List.isChain_map_of_isChain move (fun _ _ link => reordered.link sound link)
    chain
  rwa [List.map_cons, List.map_append, List.map_singleton] at moved

end Faultless

/-- A document that describes a model does so in any order. -/
theorem exists_model (loads : ∃ model, first.model = .ok model) :
    ∃ model, second.model = .ok model := by
  obtain ⟨model, loaded⟩ := loads
  obtain ⟨sound, noCycle, _⟩ := of_model_eq_ok loaded
  have soundToo := reordered.faultless sound
  rcases model_of_faultless soundToo with ⟨_, linked⟩ | ⟨culprit, closes, _⟩
  · exact ⟨_, linked⟩
  · obtain ⟨members, cycle, _⟩ := closes.exists_isCycle
    exact absurd (reordered.symm.isCycle soundToo cycle) (noCycle _)

/-- The two models have the same classes at other places. -/
theorem relocated_models {left right : ClassModel} (loadsLeft : first.model = .ok left)
    (loadsRight : second.model = .ok right) :
    ClassModel.Relocated move left right ∧ left.Indexed ∧ right.Indexed := by
  obtain ⟨sound, _, rfl⟩ := of_model_eq_ok loadsLeft
  obtain ⟨soundToo, _, rfl⟩ := of_model_eq_ok loadsRight
  exact ⟨reordered.relocated_linked sound, indexed_linkedUpTo sound _,
    indexed_linkedUpTo soundToo _⟩

end Reordered

/-! ## Documents in any order -/

/-- Documents and the classes of the merged document may come in any order: either way they describe
a model or neither way, and then what a generation run leaves of a class, under whatever name it is
looked for, is the same for both models.  Each class can be looked for under its qualified name. -/
theorem models_in_any_order (documents permuted : List Document) (classes : List ClassEntry)
    (anyOrder : permuted.Perm documents)
    (anyOrderWithin : classes.Perm (Document.merge permuted).classes) :
    let first := Document.merge documents
    let second : Document := { Document.merge permuted with classes }
    ((∃ model, first.model = .ok model) ↔ ∃ model, second.model = .ok model) ∧
    ∀ left right, first.model = .ok left → second.model = .ok right →
      left.size = right.size ∧
      ∀ options, right.published options = left.published options ∧
        ∀ id decl, left.class? id = some decl →
          ∃ view, left.published options decl.qualifiedName = some view ∧
            qualifyName view.package view.name = decl.qualifiedName := by
  intro first second
  have perm : first.classes.Perm second.classes :=
    (anyOrderWithin.trans (anyOrder.flatMap_right settledClasses)).symm
  obtain ⟨move, moved⟩ := exists_move_of_perm perm
  have reordered : Reordered move first second := ⟨rfl, perm, moved⟩
  refine ⟨⟨reordered.exists_model, reordered.symm.exists_model⟩, ?_⟩
  intro left right loadsLeft loadsRight
  obtain ⟨relocated, indexed, indexedToo⟩ := reordered.relocated_models loadsLeft loadsRight
  refine ⟨relocated.size.symm, fun options => ⟨?_, ?_⟩⟩
  · exact relocated.published indexed indexedToo options
  · exact fun id decl found => indexed.exists_published options found

/-! ### A class in front of its superclasses and behind them -/

/-- A class with an `equals` of its own.  Its superclass is named simply, and it is in the other
package. -/
def leafDocument : Document where
  package := some "p"
  classes :=
    [⟨"Leaf", none, some "Middle", false, [⟨"y", "int", false⟩],
      [⟨"equals", ["Object"], some "public boolean equals(Object o) { return o == this; }"⟩]⟩]

/-- A class and its superclass, which extends a class of no document. -/
def trunkDocument : Document where
  package := some "q"
  classes :=
    [⟨"Middle", none, some "q.Root", false, [⟨"x", "int", false⟩], []⟩,
      ⟨"Root", none, some "lib.Thing", true, [⟨"id", "long", false⟩], []⟩]

/-- The classes in the order from the root to the leaf have other handles, but they are the same. -/
theorem models_in_any_order_on_leaf :
    let first := Document.merge [leafDocument, trunkDocument]
    let second : Document :=
      { Document.merge [trunkDocument, leafDocument] with
        classes := [trunkDocument, leafDocument].flatMap (fun document =>
          document.settledClasses.reverse) }
    ∃ left right, first.model = .ok left ∧ second.model = .ok right ∧
      ["p.Leaf", "Middle", "q.Root"].map left.find? = [some 0, some 1, some 2] ∧
      ["p.Leaf", "Middle", "q.Root"].map right.find? = [some 2, some 1, some 0] ∧
      right.published .default = left.published .default := by
  intro first second
  obtain ⟨accepts, same⟩ := models_in_any_order [leafDocument, trunkDocument]
    [trunkDocument, leafDocument] second.classes (by decide +kernel) (by decide +kernel)
  have findsLeft : first.model.map (fun model => ["p.Leaf", "Middle", "q.Root"].map model.find?) =
      .ok [some 0, some 1, some 2] := by decide +kernel
  have findsRight : second.model.map
      (fun model => ["p.Leaf", "Middle", "q.Root"].map model.find?) =
        .ok [some 2, some 1, some 0] := by decide +kernel
  cases loadsLeft : first.model with
  | error error => simp [loadsLeft, Except.map] at findsLeft
  | ok left =>
      obtain ⟨right, loadsRight⟩ := accepts.mp ⟨left, loadsLeft⟩
      rw [loadsLeft] at findsLeft
      rw [loadsRight] at findsRight
      obtain ⟨_, published⟩ := same left right loadsLeft loadsRight
      exact ⟨left, right, rfl, loadsRight, Except.ok.inj findsLeft, Except.ok.inj findsRight,
        (published .default).1⟩

end Document

end ValueMethods
