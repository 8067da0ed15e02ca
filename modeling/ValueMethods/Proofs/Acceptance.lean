import Mathlib.Data.List.Chain
import Mathlib.Order.Bounds.Basic
import ValueMethods.Proofs.Entries
import ValueMethods.Proofs.Links

/-!
# Documents that describe a model

What a document says about superclasses is settled by its classes alone: a name means the same
before and after any of the links have been made.  Links are made in the order of the document, and
the first one that closes a cycle ends it.  So a document with faultless entries describes a model
exactly if its superclasses have no cycle, and the class that is blamed is the one at which the
first cycle is complete.
-/

namespace ValueMethods

/-! ## What the superclasses of a document mean -/

namespace Document

/-- What a class of the document extends: the class that the name means among all classes of the
document, or one outside of it. -/
def superclassOf (document : Document) (id : ClassId) : Option Superclass :=
  (document.classes[id]?.bind ClassEntry.superclass).map fun name =>
    match document.unlinked.resolveFrom id name with
    | some parent => .inModel parent
    | none => .external name

/-- The first class extends the second, both by their places in the document. -/
def Extends (document : Document) (child parent : ClassId) : Prop :=
  document.superclassOf child = some (.inModel parent)

/-- Each class extends the next one, and the last one the first. -/
def IsCycle (document : Document) (members : List ClassId) : Prop :=
  ∃ first rest, members = first :: rest ∧ List.IsChain document.Extends (first :: (rest ++ [first]))

/-- The classes of the document, of which so many have got their superclasses. -/
def linkedUpTo (document : Document) : Nat → ClassModel
  | 0 => document.unlinked
  | count + 1 => (document.linkedUpTo count).setSuperclass count (document.superclassOf count)

variable {document : Document}

theorem Extends.lt_length {child parent : ClassId} (link : document.Extends child parent) :
    child < document.classes.length := by
  by_contra beyond
  have missing : document.classes[child]? = none := by simpa using beyond
  simp [Extends, superclassOf, missing] at link

end Document

/-! ## Links made one after another -/

namespace ClassModel

theorem find?_setSuperclass (model : ClassModel) (target : ClassId)
    (superclass : Option Superclass) (name : String) :
    (model.setSuperclass target superclass).find? name = model.find? name := by
  have sameName (id : ClassId) :
      ((model.setSuperclass target superclass).class? id).any (fun decl => decl.name == name) =
        (model.class? id).any fun decl => decl.name == name := by
    rw [setSuperclass, class?_modify]
    split
    · cases model.class? id <;> rfl
    · rfl
  have sameIds : (model.setSuperclass target superclass).ids = model.ids := by
    simp [ids, setSuperclass]
  simp only [find?, sameName, sameIds]
  rfl

theorem resolveFrom_setSuperclass (model : ClassModel) (target : ClassId)
    (superclass : Option Superclass) (child : ClassId) (name : String) :
    (model.setSuperclass target superclass).resolveFrom child name =
      model.resolveFrom child name := by
  have samePackage :
      ((model.setSuperclass target superclass).class? child).bind ClassDecl.package =
        (model.class? child).bind ClassDecl.package := by
    rw [setSuperclass, class?_modify]
    split
    · cases model.class? child <;> rfl
    · rfl
  simp only [resolveFrom, resolveName, find?_setSuperclass, samePackage]

/-- To give a class the superclass that it has changes nothing. -/
theorem setSuperclass_eq_self {model : ClassModel} {target : ClassId}
    {superclass : Option Superclass}
    (same : ∀ decl, model.class? target = some decl → decl.superclass = superclass) :
    model.setSuperclass target superclass = model := by
  have sameClasses : (model.setSuperclass target superclass).classes = model.classes := by
    apply List.ext_getElem?
    intro id
    change (model.setSuperclass target superclass).class? id = model.class? id
    rw [setSuperclass, class?_modify]
    split
    · next chosen =>
        subst chosen
        cases found : model.class? target with
        | none => rfl
        | some decl => rw [Option.map_some, ← same decl found]
    · rfl
  exact congrArg (fun classes => { model with classes }) sameClasses

end ClassModel

namespace Document

variable (document : Document)

theorem resolveFrom_linkedUpTo (count : Nat) (child : ClassId) (name : String) :
    (document.linkedUpTo count).resolveFrom child name =
      document.unlinked.resolveFrom child name := by
  induction count with
  | zero => rfl
  | succ count ih => rw [linkedUpTo, ClassModel.resolveFrom_setSuperclass, ih]

/-- Classes before the given place extend what the document says, the others nothing. -/
theorem class?_linkedUpTo (count : Nat) (id : ClassId) :
    (document.linkedUpTo count).class? id = document.classes[id]?.map fun entry =>
      { entry.decl document.package with
        superclass := if id < count then document.superclassOf id else none } := by
  induction count with
  | zero =>
      rw [linkedUpTo, unlinked, ClassModel.class?_ofEntries]
      simp only [Nat.not_lt_zero, if_false, ClassEntry.decl_with_superclass_none]
  | succ count ih =>
      rw [linkedUpTo, ClassModel.setSuperclass, ClassModel.class?_modify, ih]
      by_cases chosen : count = id
      · subst chosen
        rw [if_pos rfl, Option.map_map]
        simp only [Nat.lt_succ_self, if_true]
        rfl
      · have same : id < count + 1 ↔ id < count := by
          have other : id ≠ count := fun equal => chosen equal.symm
          exact ⟨fun before => Nat.lt_of_le_of_ne (Nat.le_of_lt_succ before) other,
            Nat.lt_succ_of_lt⟩
        simp only [if_neg chosen, same]

@[simp]
theorem size_linkedUpTo (count : Nat) :
    (document.linkedUpTo count).size = document.classes.length := by
  induction count with
  | zero => exact ClassModel.size_ofEntries
  | succ count ih => rw [linkedUpTo, ClassModel.setSuperclass, ClassModel.size_modify, ih]

variable {document}

/-- Of what the document says about superclasses, the links so far are a beginning. -/
theorem link_linkedUpTo_iff {count : Nat} {child parent : ClassId} :
    (document.linkedUpTo count).Link child parent ↔
      child < count ∧ document.Extends child parent := by
  rw [ClassModel.link_iff, class?_linkedUpTo]
  constructor
  · rintro ⟨decl, found, link⟩
    obtain ⟨entry, _, rfl⟩ := Option.map_eq_some_iff.mp found
    by_cases before : child < count
    · rw [if_pos before] at link
      exact ⟨before, link⟩
    · simp [before] at link
  · rintro ⟨before, link⟩
    refine ⟨_, by rw [List.getElem?_eq_getElem link.lt_length, Option.map_some], ?_⟩
    rw [if_pos before]
    exact link

end Document

/-! ## All links -/

namespace Document

variable (document : Document)

/-- The superclass of the class at this place would lead back to it, and no superclass before it
made a cycle. -/
structure ClosesCycle (culprit : ClassId) : Prop where
  acyclic : (document.linkedUpTo culprit).Acyclic
  back : ∃ parent, document.Extends culprit parent ∧
    (document.linkedUpTo culprit).Reaches parent culprit

variable {document}

theorem superclassOf_eq {id : ClassId} {entry : ClassEntry}
    (found : document.classes[id]? = some entry) :
    document.superclassOf id = entry.superclass.map fun name =>
      match document.unlinked.resolveFrom id name with
      | some parent => .inModel parent
      | none => .external name := by
  rw [superclassOf, found, Option.bind_some]

theorem linkedUpTo_succ_of_root {id : ClassId} (root : document.superclassOf id = none) :
    document.linkedUpTo (id + 1) = document.linkedUpTo id := by
  rw [linkedUpTo, root]
  apply ClassModel.setSuperclass_eq_self
  intro decl found
  rw [class?_linkedUpTo] at found
  obtain ⟨entry, _, rfl⟩ := Option.map_eq_some_iff.mp found
  simp

/-- Links are made until one closes a cycle, or all of them. -/
theorem linkAll_linkedUpTo {done rest : List ClassEntry}
    (split : document.classes = done ++ rest)
    (acyclic : (document.linkedUpTo done.length).Acyclic) :
    ((document.linkedUpTo document.classes.length).Acyclic ∧
      (document.linkedUpTo done.length).linkAll (ClassModel.pendingFrom done.length rest) =
        .ok (document.linkedUpTo document.classes.length)) ∨
    ∃ culprit, document.ClosesCycle culprit ∧
      (document.linkedUpTo done.length).linkAll (ClassModel.pendingFrom done.length rest) =
        .error (.inheritanceCycle ((document.linkedUpTo culprit).qualifiedName culprit)) := by
  -- On the entries that are left; that the links so far have no cycle is what carries it.
  induction rest generalizing done with
  | nil =>
      rw [List.append_nil] at split
      rw [split]
      exact .inl ⟨acyclic, rfl⟩
  | cons entry rest ih =>
      have longer : document.classes = (done ++ [entry]) ++ rest := by
        rw [split, List.append_assoc, List.singleton_append]
      specialize ih longer
      rw [List.length_append, List.length_singleton] at ih
      have found : document.classes[done.length]? = some entry := by simp [split]
      have means := superclassOf_eq found
      have next : document.linkedUpTo (done.length + 1) =
        (document.linkedUpTo done.length).setSuperclass done.length
          (document.superclassOf done.length) := rfl
      rw [ClassModel.pendingFrom]
      cases named : entry.superclass with
      | none =>
          rw [named, Option.map_none] at means
          rw [linkedUpTo_succ_of_root means] at ih
          exact ih acyclic
      | some name =>
          rw [named, Option.map_some] at means
          simp only [ClassModel.linkAll, resolveFrom_linkedUpTo]
          cases resolved : document.unlinked.resolveFrom done.length name with
          | none =>
              rw [resolved] at means
              rw [next, means] at ih
              exact ih (acyclic.setSuperclass (by simp))
          | some parent =>
              rw [resolved] at means
              rw [next, means] at ih
              by_cases above : (document.linkedUpTo done.length).Reaches parent done.length
              · refine .inr ⟨done.length, ⟨acyclic, parent, means, above⟩, ?_⟩
                simp only [ClassModel.extend_of_reaches above]
              · simp only [ClassModel.extend_of_not_reaches above]
                apply ih
                apply acyclic.setSuperclass
                rintro _ ⟨⟩
                exact above

/-! ## Cycles -/

/-- Going round a cycle: one link away from a member, and on until it is reached again. -/
private theorem IsCycle.unroll {members : List ClassId} (cycle : document.IsCycle members) :
    ∃ first next further, document.Extends first next ∧
      List.IsChain document.Extends (next :: further) ∧
      (next :: further).getLast (List.cons_ne_nil next further) = first ∧
      ∀ member, member ∈ next :: further ↔ member ∈ members := by
  obtain ⟨first, rest, rfl, chain⟩ := cycle
  obtain ⟨next, further, onward⟩ : ∃ next further, rest ++ [first] = next :: further :=
    List.exists_cons_of_ne_nil (by simp)
  rw [onward, List.isChain_cons_cons] at chain
  refine ⟨first, next, further, chain.1, chain.2, by simp [← onward], fun member => ?_⟩
  rw [← onward, List.mem_append, List.mem_singleton, List.mem_cons, or_comm]

theorem IsCycle.lt_length {members : List ClassId} (cycle : document.IsCycle members)
    {member : ClassId} (listed : member ∈ members) : member < document.classes.length := by
  obtain ⟨first, next, further, link, chain, last, sameMembers⟩ := cycle.unroll
  exact chain.backwards_cons_induction (· < document.classes.length) further last
    (fun _ _ link _ => link.lt_length) link.lt_length member ((sameMembers member).mpr listed)

theorem IsCycle.not_acyclic {members : List ClassId} (cycle : document.IsCycle members)
    {count : Nat} (before : ∀ member ∈ members, member < count) :
    ¬(document.linkedUpTo count).Acyclic := by
  obtain ⟨first, next, further, link, chain, last, sameMembers⟩ := cycle.unroll
  have inside (member : ClassId) (listed : member ∈ next :: further) : member < count :=
    before member ((sameMembers member).mp listed)
  have linked : List.IsChain (document.linkedUpTo count).Link (next :: further) :=
    chain.imp_of_mem_imp fun child _ listed _ link =>
      link_linkedUpTo_iff.mpr ⟨inside child listed, link⟩
  have reached := List.relationReflTransGen_of_exists_isChain_cons further linked last
  have start : first < count := inside first (last ▸ List.getLast_mem _)
  intro acyclic
  exact acyclic first (.head' (link_linkedUpTo_iff.mpr ⟨start, link⟩) reached)

/-- Whoever closes a cycle comes last in it. -/
theorem ClosesCycle.exists_isCycle {culprit : ClassId} (closes : document.ClosesCycle culprit) :
    ∃ members, document.IsCycle members ∧ IsGreatest {member | member ∈ members} culprit := by
  obtain ⟨parent, link, reached⟩ := closes.back
  obtain ⟨further, chain, last⟩ := List.exists_isChain_cons_of_relationReflTransGen reached
  have upTo : ∀ member ∈ parent :: further, member ≤ culprit :=
    chain.backwards_cons_induction (· ≤ culprit) further last
      (fun _ _ upward _ => Nat.le_of_lt (link_linkedUpTo_iff.mp upward).1) (Nat.le_refl culprit)
  have said : List.IsChain document.Extends (parent :: further) :=
    chain.imp fun _ _ upward => (link_linkedUpTo_iff.mp upward).2
  -- The way back from the superclass ends at the culprit, where the cycle began.
  have around : (parent :: further).dropLast ++ [culprit] = parent :: further := by
    rw [← last, List.dropLast_append_getLast]
  refine ⟨culprit :: (parent :: further).dropLast, ⟨culprit, _, rfl, ?_⟩, List.mem_cons_self, ?_⟩
  · rw [around]
    exact said.cons_cons link
  · rintro member listed
    rcases List.mem_cons.mp listed with rfl | inside
    · exact Nat.le_refl member
    · exact upTo member (List.mem_of_mem_dropLast inside)

/-- Among all cycles, the one that is complete first decides who is blamed. -/
theorem ClosesCycle.isLeast {culprit : ClassId} (closes : document.ClosesCycle culprit) :
    IsLeast {last | ∃ members, document.IsCycle members ∧
      IsGreatest {member | member ∈ members} last} culprit := by
  refine ⟨closes.exists_isCycle, ?_⟩
  rintro last ⟨members, cycle, greatest⟩
  by_contra earlier
  have before (member : ClassId) (listed : member ∈ members) : member < culprit :=
    Nat.lt_of_le_of_lt (greatest.2 listed) (Nat.lt_of_not_le earlier)
  exact cycle.not_acyclic before closes.acyclic

theorem unlinked_acyclic (document : Document) : document.unlinked.Acyclic := by
  intro id around
  obtain ⟨parent, link, _⟩ := Relation.TransGen.head'_iff.mp around
  have first : (document.linkedUpTo 0).Link id parent := link
  exact Nat.not_lt_zero id (link_linkedUpTo_iff.mp first).1

/-- What becomes of a document whose entries are faultless. -/
theorem model_of_faultless
    (faultless : ClassEntry.Faultless document.package document.classes) :
    ((∀ members, ¬document.IsCycle members) ∧
      document.model = .ok (document.linkedUpTo document.classes.length)) ∨
    ∃ culprit, document.ClosesCycle culprit ∧
      document.model =
        .error (.inheritanceCycle ((document.linkedUpTo culprit).qualifiedName culprit)) := by
  rcases document.model_eq with ⟨front, entry, back, error, split, _, fault, _⟩ | ⟨_, links⟩
  · rw [split] at faultless
    exact absurd faultless fault.not_faultless
  · rw [links]
    have whole : document.classes = [] ++ document.classes := rfl
    rcases linkAll_linkedUpTo whole document.unlinked_acyclic with
      ⟨acyclic, linked⟩ | ⟨culprit, closes, refused⟩
    · refine .inl ⟨fun members cycle => ?_, linked⟩
      exact cycle.not_acyclic (fun _ listed => cycle.lt_length listed) acyclic
    · exact .inr ⟨culprit, closes, refused⟩

theorem model_of_faulty
    (faulty : ¬ClassEntry.Faultless document.package document.classes) :
    ∃ front entry back error, document.classes = front ++ entry :: back ∧
      ClassEntry.Faultless document.package front ∧
      entry.Fault document.package front error ∧ document.model = .error error := by
  rcases document.model_eq with first | ⟨faultless, _⟩
  · exact first
  · exact absurd faultless faulty

theorem of_model_eq_ok {model : ClassModel} (loads : document.model = .ok model) :
    ClassEntry.Faultless document.package document.classes ∧
      (∀ members, ¬document.IsCycle members) ∧
      model = document.linkedUpTo document.classes.length := by
  by_cases faultless : ClassEntry.Faultless document.package document.classes
  · rcases model_of_faultless faultless with ⟨noCycle, linked⟩ | ⟨culprit, _, refused⟩
    · exact ⟨faultless, noCycle, Except.ok.inj (loads.symm.trans linked)⟩
    · rw [loads] at refused
      simp at refused
  · obtain ⟨_, _, _, error, _, _, _, refused⟩ := model_of_faulty faultless
    rw [loads] at refused
    simp at refused

theorem qualifiedName_linkedUpTo (count : Nat) {id : ClassId} {entry : ClassEntry}
    (found : document.classes[id]? = some entry) :
    (document.linkedUpTo count).qualifiedName id = entry.qualifiedName document.package := by
  rw [ClassModel.qualifiedName, class?_linkedUpTo, found, Option.map_some, Option.elim_some,
    ← entry.qualifiedName_decl]
  rfl

end Document

/-! ## Acceptance -/

/-- A document describes a model exactly if its classes have different names, no class has two
fields of one name, and the superclasses have no cycle.  The model then has the classes of the
document, each extending what the document says.  Otherwise the first entry at fault is reported,
or, if there is none, that class which is the first among the last members of all cycles. -/
theorem Document.acceptance_exact (document : Document) :
    ((∃ model, document.model = .ok model) ↔
      (document.classes.map (ClassEntry.qualifiedName document.package)).Nodup ∧
      (∀ entry ∈ document.classes, entry.fieldNames.Nodup) ∧
      ∀ members, ¬document.IsCycle members) ∧
    (∀ model, document.model = .ok model → model.size = document.classes.length ∧
      ∀ id entry, document.classes[id]? = some entry → model.class? id =
        some { entry.decl document.package with
          superclass := document.superclassOf id }) ∧
    (¬ClassEntry.Faultless document.package document.classes →
      ∃ front entry back error, document.classes = front ++ entry :: back ∧
        ClassEntry.Faultless document.package front ∧
        entry.Fault document.package front error ∧ document.model = .error error) ∧
    (ClassEntry.Faultless document.package document.classes →
      (∃ members, document.IsCycle members) →
      ∃ culprit entry, document.classes[culprit]? = some entry ∧
        IsLeast {last | ∃ members, document.IsCycle members ∧
          IsGreatest {member | member ∈ members} last} culprit ∧
        document.model =
          .error (.inheritanceCycle (entry.qualifiedName document.package))) := by
  refine ⟨⟨?_, ?_⟩, ?_, model_of_faulty, ?_⟩
  · rintro ⟨model, loads⟩
    obtain ⟨⟨names, fields⟩, noCycle, _⟩ := of_model_eq_ok loads
    exact ⟨names, fields, noCycle⟩
  · rintro ⟨names, fields, noCycle⟩
    rcases model_of_faultless ⟨names, fields⟩ with ⟨_, linked⟩ | ⟨culprit, closes, _⟩
    · exact ⟨_, linked⟩
    · obtain ⟨members, cycle, _⟩ := closes.exists_isCycle
      exact absurd cycle (noCycle members)
  · intro model loads
    obtain ⟨_, _, rfl⟩ := of_model_eq_ok loads
    refine ⟨document.size_linkedUpTo _, fun id entry found => ?_⟩
    have inside : id < document.classes.length := (List.getElem?_eq_some_iff.mp found).1
    rw [class?_linkedUpTo, found, Option.map_some, if_pos inside]
  · rintro faultless ⟨members, cycle⟩
    rcases model_of_faultless faultless with ⟨noCycle, _⟩ | ⟨culprit, closes, refused⟩
    · exact absurd cycle (noCycle members)
    · obtain ⟨parent, link, _⟩ := closes.back
      have found := List.getElem?_eq_getElem link.lt_length
      rw [qualifiedName_linkedUpTo culprit found] at refused
      exact ⟨culprit, _, found, closes.isLeast, refused⟩

/-! ### Two cycles, one inside the other -/

/-- Four classes.  The second and the third extend each other, and so do the first and the last. -/
def nestedCycles : Document where
  package := some "p"
  classes :=
    [⟨"A", none, some "D", false, [⟨"x", "int", false⟩], []⟩,
      ⟨"B", none, some "C", false, [], []⟩,
      ⟨"C", none, some "p.B", false, [], []⟩,
      ⟨"D", some "p", some "A", true, [], []⟩]

/-- The first three of these classes, but the third extends a class of no document. -/
def mendedCycles : Document where
  package := some "p"
  classes := nestedCycles.classes.take 2 ++ [⟨"C", none, some "q.E", false, [], []⟩]

/-- The inner cycle is complete first, so its last class is blamed.  The mended document describes a
model, in which the missing class lies outside. -/
theorem Document.acceptance_exact_on_nestedCycles :
    (∃ culprit entry, nestedCycles.classes[culprit]? = some entry ∧
      IsLeast {last | ∃ members, nestedCycles.IsCycle members ∧
        IsGreatest {member | member ∈ members} last} culprit ∧
      nestedCycles.model = .error (.inheritanceCycle (entry.qualifiedName (some "p"))) ∧
      entry.qualifiedName (some "p") = "p.C") ∧
    (∀ members, ¬mendedCycles.IsCycle members) ∧
    ∃ model, mendedCycles.model = .ok model ∧
      (model.class? 0).map ClassDecl.superclass = some (some (.external "D")) ∧
      (model.class? 1).map ClassDecl.superclass = some (some (.inModel 2)) ∧
      (model.class? 2).map ClassDecl.superclass = some (some (.external "q.E")) := by
  constructor
  · obtain ⟨_, _, _, blames⟩ := nestedCycles.acceptance_exact
    have faultless : ClassEntry.Faultless nestedCycles.package nestedCycles.classes :=
      ⟨by decide, by decide⟩
    have around : nestedCycles.superclassOf 1 = some (.inModel 2) ∧
        nestedCycles.superclassOf 2 = some (.inModel 1) := by decide +kernel
    have inner : nestedCycles.IsCycle [1, 2] :=
      ⟨1, [2], rfl, .cons_cons around.1 (.cons_cons around.2 (.singleton 1))⟩
    obtain ⟨culprit, entry, found, least, refused⟩ := blames faultless ⟨_, inner⟩
    refine ⟨culprit, entry, found, least, refused, ?_⟩
    have reported : nestedCycles.model.map (fun _ => ()) = .error (.inheritanceCycle "p.C") := by
      decide +kernel
    rw [refused] at reported
    exact ModelError.inheritanceCycle.inj (Except.error.inj reported)
  · obtain ⟨accepts, links, _, _⟩ := mendedCycles.acceptance_exact
    have loaded : mendedCycles.model.toOption.isSome = true := by decide +kernel
    cases loads : mendedCycles.model with
    | error error => simp [loads, Except.toOption] at loaded
    | ok model =>
        obtain ⟨_, _, noCycle⟩ := accepts.mp ⟨model, loads⟩
        obtain ⟨_, extends?⟩ := links model loads
        have means : mendedCycles.superclassOf 0 = some (.external "D") ∧
            mendedCycles.superclassOf 1 = some (.inModel 2) ∧
            mendedCycles.superclassOf 2 = some (.external "q.E") := by decide +kernel
        refine ⟨noCycle, model, rfl, ?_, ?_, ?_⟩
        · rw [extends? 0 _ rfl, Option.map_some, means.1]
        · rw [extends? 1 _ rfl, Option.map_some, means.2.1]
        · rw [extends? 2 _ rfl, Option.map_some, means.2.2]

end ValueMethods
