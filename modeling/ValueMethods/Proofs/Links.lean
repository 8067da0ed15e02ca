import Mathlib.Data.Fintype.Pigeonhole
import Mathlib.Logic.Relation
import ValueMethods.Proofs.Lineage
import ValueMethods.Proofs.Outlines

/-!
# Superclass links

A class has at most one superclass in the model, so the links form a graph in which one can only
climb.  A class may be given a new superclass unless that superclass already leads to it; then no
cycle arises, whatever the class extended before.  Without cycles, climbing comes to an end after at
most as many links as there are classes, even if nobody keeps track of where it has been.
-/

namespace ValueMethods
namespace ClassModel

/-- The second class is the superclass of the first. -/
def Link (model : ClassModel) (child parent : ClassId) : Prop :=
  model.parent? child = some parent

/-- The second class is the first one or an ancestor of it. -/
abbrev Reaches (model : ClassModel) : ClassId → ClassId → Prop :=
  Relation.ReflTransGen model.Link

/-- The second class is reached from the first by at least one link. -/
abbrev HasAncestor (model : ClassModel) : ClassId → ClassId → Prop :=
  Relation.TransGen model.Link

/-- No class is an ancestor of itself. -/
def Acyclic (model : ClassModel) : Prop :=
  ∀ id, ¬model.HasAncestor id id

theorem link_iff {model : ClassModel} {child parent : ClassId} :
    model.Link child parent ↔ ∃ decl, model.class? child = some decl ∧
      decl.superclass = some (.inModel parent) := by
  unfold Link parent?
  cases found : model.class? child with
  | none => simp
  | some decl => cases extends? : decl.superclass with
    | none => simp [extends?]
    | some superclass => cases superclass <;> simp [extends?]

/-- A lineage lists what the links lead to. -/
theorem mem_lineage_iff {model : ClassModel} {id ancestor : ClassId} :
    ancestor ∈ model.lineage id ↔ model.Reaches id ancestor := by
  constructor
  · intro listed
    exact of_mem_climb (model.Reaches id) (fun _ _ reached link => reached.tail link) _ [] .refl
      listed
  · intro reached
    induction reached with
    | refl => exact self_mem_lineage model id
    | tail _ link ih => exact parent_mem_lineage ih link

/-! ## Giving a class a superclass -/

section Extend

variable {model : ClassModel} {child parent : ClassId}

theorem extend_of_reaches (above : model.Reaches parent child) :
    model.extend child parent = .error (.inheritanceCycle (model.qualifiedName child)) := by
  rw [extend, link, if_pos (mem_lineage_iff.mpr above), accepted]

theorem extend_of_not_reaches (apart : ¬model.Reaches parent child) :
    model.extend child parent = .ok (model.setSuperclass child (some (.inModel parent))) := by
  rw [extend, link, if_neg (mt mem_lineage_iff.mp apart), accepted]

/-- A superclass is refused if it is the class itself or has it as an ancestor, and then only. -/
theorem extend_eq_error_iff :
    model.extend child parent = .error (.inheritanceCycle (model.qualifiedName child)) ↔
      child = parent ∨ model.HasAncestor parent child := by
  rw [← Relation.reflTransGen_iff_eq_or_transGen]
  constructor
  · intro refused
    by_contra apart
    rw [extend_of_not_reaches apart] at refused
    simp at refused
  · exact extend_of_reaches

end Extend

/-- Only the links of the class itself change. -/
theorem link_setSuperclass_of_ne {model : ClassModel} {child id parent : ClassId}
    (other : id ≠ child) (superclass : Option Superclass) :
    (model.setSuperclass child superclass).Link id parent ↔ model.Link id parent := by
  rw [link_iff, link_iff, setSuperclass, class?_modify, if_neg other.symm]

theorem link_setSuperclass_self {model : ClassModel} {child parent : ClassId}
    {superclass : Option Superclass} :
    (model.setSuperclass child superclass).Link child parent ↔
      child < model.size ∧ superclass = some (.inModel parent) := by
  rw [link_iff, setSuperclass, class?_modify, if_pos rfl]
  cases found : model.class? child with
  | none =>
      have outside : ¬child < model.size := by simpa [class?, size] using found
      simp [outside]
  | some decl =>
      have inside : child < model.size := (List.getElem?_eq_some_iff.mp found).1
      simp [inside]

/-- To get to the class, one does not need its own links. -/
private theorem reaches_of_relinked {model : ClassModel} {child id : ClassId}
    {superclass : Option Superclass}
    (reached : (model.setSuperclass child superclass).Reaches id child) :
    model.Reaches id child := by
  induction reached using Relation.ReflTransGen.head_induction_on with
  | refl => exact .refl
  | @head id next link _ ih =>
      by_cases arrived : id = child
      · exact arrived ▸ .refl
      · exact ih.head ((link_setSuperclass_of_ne arrived superclass).mp link)

/-- A way along the new links is a way along the old ones, unless it goes through the class. -/
private theorem hasAncestor_or_through {model : ClassModel} {child id ancestor : ClassId}
    {superclass : Option Superclass}
    (above : (model.setSuperclass child superclass).HasAncestor id ancestor) :
    model.HasAncestor id ancestor ∨
      (model.setSuperclass child superclass).Reaches id child ∧
        (model.setSuperclass child superclass).HasAncestor child ancestor := by
  induction above with
  | @single ancestor link =>
      by_cases start : id = child
      · exact .inr ⟨start ▸ .refl, .single (start ▸ link)⟩
      · exact .inl (.single ((link_setSuperclass_of_ne start superclass).mp link))
  | @tail between ancestor front link ih =>
      by_cases through : between = child
      · exact .inr ⟨through ▸ front.to_reflTransGen, .single (through ▸ link)⟩
      · rcases ih with old | ⟨there, further⟩
        · exact .inl (old.tail ((link_setSuperclass_of_ne through superclass).mp link))
        · exact .inr ⟨there, further.tail link⟩

/-- A new superclass makes no cycle if it does not lead to the class, whatever the class extended
before. -/
theorem Acyclic.setSuperclass {model : ClassModel} (acyclic : model.Acyclic) {child : ClassId}
    {superclass : Option Superclass}
    (apart : ∀ parent, superclass = some (.inModel parent) → ¬model.Reaches parent child) :
    (model.setSuperclass child superclass).Acyclic := by
  intro id cycle
  rcases hasAncestor_or_through cycle with old | ⟨there, back⟩
  · exact acyclic id old
  · have around := back.trans_left there
    obtain ⟨parent, link, further⟩ := Relation.TransGen.head'_iff.mp around
    obtain ⟨_, chosen⟩ := link_setSuperclass_self.mp link
    exact apart parent chosen (reaches_of_relinked further)

/-! ## Climbing comes to an end -/

/-- The class that is reached by following a number of links, if there are so many. -/
def ascend (model : ClassModel) : Nat → ClassId → Option ClassId
  | 0, id => some id
  | count + 1, id => (model.parent? id).bind (model.ascend count)

theorem ascend_add (model : ClassModel) (first second : Nat) (id : ClassId) :
    model.ascend (first + second) id = (model.ascend first id).bind (model.ascend second) := by
  induction first generalizing id with
  | zero => rw [Nat.zero_add, ascend, Option.bind_some]
  | succ count ih =>
      rw [Nat.add_right_comm, ascend, ascend]
      cases model.parent? id with
      | none => rfl
      | some parent => rw [Option.bind_some, Option.bind_some, ih]

theorem hasAncestor_of_ascend {model : ClassModel} {count : Nat} {id ancestor : ClassId}
    (reached : model.ascend (count + 1) id = some ancestor) : model.HasAncestor id ancestor := by
  induction count generalizing id with
  | zero => exact .single (by simpa [Link, ascend] using reached)
  | succ count ih =>
      rw [ascend] at reached
      obtain ⟨parent, link, further⟩ := Option.bind_eq_some_iff.mp reached
      exact .head link (ih further)

/-- All superclasses of the model's classes are classes of the model. -/
def Closed (model : ClassModel) : Prop :=
  ∀ child parent, model.Link child parent → parent < model.size

theorem Closed.lt_size_of_ascend {model : ClassModel} (closed : model.Closed) {count : Nat}
    {id ancestor : ClassId} (start : id < model.size)
    (reached : model.ascend count id = some ancestor) : ancestor < model.size := by
  cases count with
  | zero =>
      obtain rfl : id = ancestor := by simpa [ascend] using reached
      exact start
  | succ count =>
      have above := hasAncestor_of_ascend reached
      obtain ⟨child, _, link⟩ := Relation.TransGen.tail'_iff.mp above
      exact closed child ancestor link

/-- Without cycles, no class has as many ancestors as there are classes. -/
theorem Acyclic.ascend_size {model : ClassModel} (acyclic : model.Acyclic)
    (closed : model.Closed) {id : ClassId} (start : id < model.size) :
    model.ascend model.size id = none := by
  by_contra further
  have reached (count : Fin (model.size + 1)) :
      ∃ ancestor : Fin model.size, model.ascend count id = some ancestor.val := by
    cases at? : model.ascend count id with
    | some ancestor => exact ⟨⟨ancestor, closed.lt_size_of_ascend start at?⟩, rfl⟩
    | none =>
        have whole : model.size = count + (model.size - count) := by omega
        rw [whole, ascend_add, at?, Option.bind_none] at further
        exact absurd rfl further
  choose visited arrives using reached
  -- Among more stops than classes there is a class that is met twice.
  obtain ⟨first, second, different, same⟩ := Fintype.exists_ne_map_eq_of_card_lt visited
    (by rw [Fintype.card_fin, Fintype.card_fin]; omega)
  have meets {early late : Fin (model.size + 1)} (before : early.val < late.val)
      (same : visited early = visited late) : False := by
    obtain ⟨count, between⟩ : ∃ count, late.val = early.val + (count + 1) :=
      ⟨late.val - early.val - 1, by omega⟩
    have again := arrives late
    rw [between, ascend_add, arrives early, Option.bind_some, ← same] at again
    exact acyclic _ (hasAncestor_of_ascend again)
  rcases Nat.lt_or_gt_of_ne (Fin.val_ne_of_ne different) with before | after
  · exact meets before same
  · exact meets after same.symm

/-- Looks for a class by following the links and nothing else; no answer if that takes more links
than allowed. -/
def seek (model : ClassModel) (sought : ClassId) : Nat → Option ClassId → Option Bool
  | _, none => some false
  | 0, some _ => none
  | limit + 1, some id =>
      if id = sought then some true else model.seek sought limit (model.parent? id)

/-- Where climbing comes to an end, the search answers, and it finds what the links lead to. -/
theorem exists_seek_eq {model : ClassModel} (sought : ClassId) {limit : Nat} {id : ClassId}
    (ends : model.ascend limit id = none) :
    ∃ found, model.seek sought limit (some id) = some found ∧
      (found = true ↔ model.Reaches id sought) := by
  induction limit generalizing id with
  | zero => simp [ascend] at ends
  | succ limit ih =>
      rw [seek]
      by_cases arrived : id = sought
      · exact ⟨true, by rw [if_pos arrived], by simp [arrived, Relation.ReflTransGen.refl]⟩
      · rw [if_neg arrived]
        cases link : model.parent? id with
        | none =>
            refine ⟨false, by rw [seek], ?_⟩
            simp only [Bool.false_eq_true, false_iff]
            intro reached
            rcases reached.cases_head with same | ⟨next, upward, _⟩
            · exact arrived same
            · rw [Link, link] at upward
              simp at upward
        | some parent =>
            rw [ascend, link, Option.bind_some] at ends
            obtain ⟨found, answered, finds⟩ := ih ends
            refine ⟨found, answered, finds.trans ⟨fun reached => reached.head link, ?_⟩⟩
            intro reached
            rcases reached.cases_head with same | ⟨next, upward, further⟩
            · exact absurd same arrived
            · obtain rfl : parent = next := by simpa [Link, link] using upward
              exact further

end ClassModel
end ValueMethods
