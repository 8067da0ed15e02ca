import ValueMethods.Proofs.Hierarchy

/-!
# Ancestors as the longest walk

The ancestors of a class are collected in a loop that remembers where it has been.  What it collects
is the longest walk along the superclass links that comes to no class twice, whatever the shape of
the links; every other such walk is the beginning of it.  Without cycles the longest walk from a
class goes on with the longest walk from its superclass, so the fields of a class are those of the
superclass followed by its own.
-/

namespace ValueMethods
namespace ClassModel

/-! ## Walks -/

/-- The superclass of a class, the superclass of that one, and so on, as far as the list goes; no
class occurs twice, and neither does the class where the walk starts. -/
structure IsWalk (model : ClassModel) (id : ClassId) (walk : List ClassId) : Prop where
  linked : (id :: walk).IsChain model.Link
  nodup : (id :: walk).Nodup

section Walks

variable {model : ClassModel} {id : ClassId} {walk : List ClassId}

/-- All classes of a walk but the last one have a superclass, so they are classes of the model. -/
theorem lt_size_of_mem_dropLast (linked : (id :: walk).IsChain model.Link) :
    ∀ seen ∈ (id :: walk).dropLast, seen < model.size := by
  induction walk generalizing id with
  | nil => simp
  | cons next rest ih =>
      obtain ⟨link, onward⟩ := List.isChain_cons_cons.mp linked
      rw [List.dropLast_cons_of_ne_nil (List.cons_ne_nil next rest)]
      exact List.forall_mem_cons.mpr ⟨lt_size_of_parent? link, ih onward⟩

/-- In a closed model the last class of a walk is a class of the model too. -/
theorem Closed.lt_size_of_mem (closed : model.Closed) (start : id < model.size)
    (linked : (id :: walk).IsChain model.Link) : ∀ seen ∈ id :: walk, seen < model.size := by
  induction walk generalizing id with
  | nil => simpa using start
  | cons next rest ih =>
      obtain ⟨link, onward⟩ := List.isChain_cons_cons.mp linked
      exact List.forall_mem_cons.mpr ⟨start, ih (closed id next link) onward⟩

private theorem length_le_size {ids : List ClassId} (nodup : ids.Nodup)
    (inside : ∀ id ∈ ids, id < model.size) : ids.length ≤ model.size := by
  have inRange : ids ⊆ List.range model.size := fun id listed =>
    List.mem_range.mpr (inside id listed)
  simpa using (nodup.subperm inRange).length_le

theorem IsWalk.length_le (isWalk : model.IsWalk id walk) : walk.length ≤ model.size := by
  have nodup : (id :: walk).dropLast.Nodup := isWalk.nodup.sublist (List.dropLast_sublist _)
  simpa using length_le_size nodup (lt_size_of_mem_dropLast isWalk.linked)

theorem IsWalk.length_lt (isWalk : model.IsWalk id walk) (closed : model.Closed)
    (start : id < model.size) : walk.length < model.size :=
  length_le_size isWalk.nodup (closed.lt_size_of_mem start isWalk.linked)

end Walks

theorem closed_iff {model : ClassModel} :
    model.Closed ↔ ∀ child < model.size, ∀ parent ∈ model.parent? child, parent < model.size :=
  ⟨fun closed child _ parent link => closed child parent link,
    fun inside child parent link => inside child (lt_size_of_parent? link) parent link⟩

instance (model : ClassModel) : Decidable model.Closed :=
  decidable_of_iff _ closed_iff.symm

/-! ## What the loop collects -/

theorem head?_climb (model : ClassModel) (limit : Nat) (visited : List ClassId) (id : ClassId) :
    ∀ first ∈ (model.climb limit visited id).head?, first = id := by
  intro first starts
  cases limit with
  | zero => simp [climb] at starts
  | succ limit =>
      rw [climb] at starts
      split at starts
      · simp at starts
      · split at starts <;> simpa [eq_comm] using starts

theorem isChain_climb (model : ClassModel) (limit : Nat) (visited : List ClassId) (id : ClassId) :
    (model.climb limit visited id).IsChain model.Link := by
  induction limit generalizing visited id with
  | zero => exact .nil
  | succ limit ih =>
      rw [climb]
      split
      · exact .nil
      · split
        · next parent link =>
            refine List.isChain_cons.mpr ⟨fun first starts => ?_, ih (id :: visited) parent⟩
            rw [model.head?_climb limit (id :: visited) parent first starts]
            exact link
        · exact .singleton id

/-- The loop follows every walk to its end, if the walk stays away from the classes that have been
visited and the limit allows for it. -/
theorem prefix_climb {model : ClassModel} (limit : Nat) {visited walk : List ClassId} {id : ClassId}
    (isWalk : model.IsWalk id walk) (apart : List.Disjoint (id :: walk) visited)
    (enough : walk.length < limit) : id :: walk <+: model.climb limit visited id := by
  induction limit generalizing visited walk id with
  | zero => exact absurd enough (Nat.not_lt_zero _)
  | succ limit ih =>
      obtain ⟨fresh, onward⟩ := List.disjoint_cons_left.mp apart
      cases walk with
      | nil =>
          obtain ⟨rest, listed⟩ := climb_succ model limit fresh
          rw [listed]
          exact ⟨rest, rfl⟩
      | cons next rest =>
          obtain ⟨link, linked⟩ := List.isChain_cons_cons.mp isWalk.linked
          obtain ⟨other, nodup⟩ := List.nodup_cons.mp isWalk.nodup
          have above : model.parent? id = some next := link
          rw [climb, if_neg fresh, above]
          have apartOn : List.Disjoint (next :: rest) (id :: visited) :=
            List.disjoint_cons_right.mpr ⟨other, onward⟩
          have further := ih ⟨linked, nodup⟩ apartOn (Nat.lt_of_succ_lt_succ enough)
          exact List.cons_prefix_cons.mpr ⟨rfl, further⟩

/-- From the limit on that the loop runs with, no limit is ever what ends it. -/
theorem climb_eq_lineage (model : ClassModel) {limit : Nat} (enough : model.size < limit)
    (id : ClassId) : model.climb limit [] id = model.lineage id := by
  have walks {limit : Nat} (enough : model.size < limit) : ∃ walk,
      model.climb limit [] id = id :: walk ∧ model.IsWalk id walk := by
    obtain ⟨smaller, rfl⟩ : ∃ smaller, limit = smaller + 1 := ⟨limit - 1, by omega⟩
    obtain ⟨walk, listed⟩ := climb_succ model smaller (List.not_mem_nil (a := id))
    refine ⟨walk, listed, ?_, ?_⟩
    · exact listed ▸ model.isChain_climb _ [] id
    · exact listed ▸ (model.nodup_climb _ [] id).1
  have reaches {long short : Nat} (enough : model.size < long) (enoughToo : model.size < short) :
      model.climb long [] id <+: model.climb short [] id := by
    obtain ⟨walk, listed, isWalk⟩ := walks enough
    rw [listed]
    exact prefix_climb short isWalk (List.disjoint_nil_right _)
      (Nat.lt_of_le_of_lt isWalk.length_le enoughToo)
  have limits : model.size < model.size + 1 := Nat.lt_succ_self _
  exact (reaches enough limits).eq_of_length
    (Nat.le_antisymm (reaches enough limits).length_le (reaches limits enough).length_le)

theorem isWalk_tail_lineage (model : ClassModel) (id : ClassId) :
    model.IsWalk id (model.lineage id).tail where
  linked := model.lineage_eq_cons id ▸ model.isChain_climb _ [] id
  nodup := model.lineage_eq_cons id ▸ model.nodup_lineage id

/-- A walk from a class is the beginning of its lineage. -/
theorem IsWalk.prefix_tail_lineage {model : ClassModel} {id : ClassId} {walk : List ClassId}
    (isWalk : model.IsWalk id walk) : walk <+: (model.lineage id).tail := by
  have followed := prefix_climb (model.size + 1) isWalk (List.disjoint_nil_right _)
    (Nat.lt_succ_of_le isWalk.length_le)
  rw [← lineage, lineage_eq_cons] at followed
  exact (List.cons_prefix_cons.mp followed).2

/-! ## Models without cycles -/

/-- Without cycles the way up from a class goes on as the way up from its superclass. -/
theorem Acyclic.lineage_eq {model : ClassModel} (acyclic : model.Acyclic) {child parent : ClassId}
    (link : model.Link child parent) : model.lineage child = child :: model.lineage parent := by
  have walkOn : model.IsWalk child (model.lineage parent) := by
    refine ⟨List.isChain_cons.mpr ⟨fun first starts => ?_, model.isChain_climb _ [] parent⟩, ?_⟩
    · rw [model.head?_climb _ [] parent first starts]
      exact link
    · refine List.nodup_cons.mpr ⟨fun around => ?_, model.nodup_lineage parent⟩
      exact acyclic child (.head' link (mem_lineage_iff.mp around))
  have forth := walkOn.prefix_tail_lineage
  have back : (model.lineage child).tail <+: model.lineage parent := by
    have whole := model.isWalk_tail_lineage child
    cases rest : (model.lineage child).tail with
    | nil => exact List.nil_prefix
    | cons next walk =>
        rw [rest] at whole
        obtain ⟨upward, linked⟩ := List.isChain_cons_cons.mp whole.linked
        obtain rfl : parent = next := Option.some.inj (link.symm.trans upward)
        have onward : model.IsWalk parent walk := ⟨linked, (List.nodup_cons.mp whole.nodup).2⟩
        rw [lineage_eq_cons]
        exact List.cons_prefix_cons.mpr ⟨rfl, onward.prefix_tail_lineage⟩
  rw [lineage_eq_cons, forth.eq_of_length (Nat.le_antisymm forth.length_le back.length_le)]

theorem Acyclic.ancestors_eq {model : ClassModel} (acyclic : model.Acyclic)
    {child parent : ClassId} (link : model.Link child parent) :
    model.ancestors child = model.ancestors parent ++ [parent] := by
  rw [ancestors, acyclic.lineage_eq link, List.tail_cons, lineage_eq_cons, List.reverse_cons,
    ancestors]

theorem ancestors_eq_nil {model : ClassModel} {id : ClassId} (root : model.parent? id = none) :
    model.ancestors id = [] := by
  simp [ancestors, lineage, climb, root]

/-- What the fields of a class are made up of, given those of its superclass. -/
structure ContinuesFields (model : ClassModel) (child parent : ClassId) : Prop where
  ancestorFields : model.ancestorFields child = model.ancestorFields parent ++ model.fieldsOf parent
  identityFields : (model.identityFields child).toList =
    (model.identityFields parent).toList ++ instanceFields (model.fieldsOf child)

theorem Acyclic.continuesFields {model : ClassModel} (acyclic : model.Acyclic)
    {child parent : ClassId} (link : model.Link child parent) :
    model.ContinuesFields child parent := by
  have collected : model.ancestorFields child =
      model.ancestorFields parent ++ model.fieldsOf parent := by
    rw [ancestorFields, acyclic.ancestors_eq link, List.flatMap_append, List.flatMap_singleton,
      ancestorFields]
  refine ⟨collected, ?_⟩
  simp only [IdentityFields.toList, ClassModel.identityFields, collected, instanceFields,
    List.filter_append]

/-! ## Declared fields by their positions -/

/-- The field at a position among those that a class declares. -/
def fieldAt? (model : ClassModel) (slot : ClassId × Nat) : Option Field :=
  (model.fieldsOf slot.1)[slot.2]?

/-- Where a class declares its instance fields. -/
def instanceSlots (model : ClassModel) (owner : ClassId) : List (ClassId × Nat) :=
  ((model.fieldsOf owner).zipIdx.filter fun entry => !entry.1.isStatic).map fun entry =>
    (owner, entry.2)

/-- Where the identity fields of a class are declared, in order. -/
def identitySlots (model : ClassModel) (id : ClassId) : List (ClassId × Nat) :=
  (model.ancestors id ++ [id]).flatMap model.instanceSlots

theorem map_fieldAt?_instanceSlots (model : ClassModel) (owner : ClassId) :
    (model.instanceSlots owner).map model.fieldAt? =
      (instanceFields (model.fieldsOf owner)).map some := by
  have declared : ∀ entry ∈ (model.fieldsOf owner).zipIdx.filter fun entry => !entry.1.isStatic,
      model.fieldAt? (owner, entry.2) = some entry.1 := fun entry listed =>
    List.mem_zipIdx_iff_getElem?.mp (List.mem_of_mem_filter listed)
  have fields : ((model.fieldsOf owner).zipIdx.filter fun entry => !entry.1.isStatic).map Prod.fst =
      instanceFields (model.fieldsOf owner) := by
    conv_rhs => rw [instanceFields, ← List.zipIdx_map_fst 0 (model.fieldsOf owner), List.filter_map]
    rfl
  rw [instanceSlots, List.map_map, ← fields, List.map_map]
  exact List.map_congr_left declared

/-- The slots are those of the identity fields, in order. -/
theorem map_fieldAt?_identitySlots (model : ClassModel) (id : ClassId) :
    (model.identitySlots id).map model.fieldAt? =
      (model.identityFields id).toList.map some := by
  simp only [identitySlots, IdentityFields.toList, identityFields, ancestorFields, instanceFields,
    List.map_flatMap, List.flatMap_append, List.flatMap_singleton, map_fieldAt?_instanceSlots,
    List.map_append, List.filter_flatMap]

theorem nodup_instanceSlots (model : ClassModel) (owner : ClassId) :
    (model.instanceSlots owner).Nodup := by
  have positions : ((model.fieldsOf owner).zipIdx.map Prod.snd).Nodup := by
    rw [List.zipIdx_map_snd]
    exact List.nodup_range'
  refine List.Nodup.of_map Prod.snd ?_
  rw [instanceSlots, List.map_map]
  exact positions.sublist (List.filter_sublist.map Prod.snd)

/-- No declared field is an identity field twice. -/
theorem nodup_identitySlots (model : ClassModel) (id : ClassId) :
    (model.identitySlots id).Nodup := by
  have owners : (model.ancestors id ++ [id]).Nodup := by
    rw [ancestors, ← List.reverse_cons, ← lineage_eq_cons, List.nodup_reverse]
    exact model.nodup_lineage id
  refine List.nodup_flatMap.mpr ⟨fun owner _ => model.nodup_instanceSlots owner, ?_⟩
  refine owners.imp fun different => ?_
  intro slot listed listedToo
  obtain ⟨_, _, same⟩ := List.mem_map.mp listed
  obtain ⟨_, _, sameToo⟩ := List.mem_map.mp listedToo
  exact different ((congrArg Prod.fst same).trans (congrArg Prod.fst sameToo).symm)

theorem isStatic_of_mem_identityFields {model : ClassModel} {id : ClassId} {field : Field}
    (listed : field ∈ (model.identityFields id).toList) : field.isStatic = false := by
  rcases List.mem_append.mp listed with inherited | own
  · simpa using (List.mem_filter.mp inherited).2
  · simpa using (List.mem_filter.mp own).2

/-! ## The ancestors of a class -/

/-- Whatever the shape of the links: the loop that collects the ancestors is never ended by its
limit; it collects fewer classes than there are, none of them twice and not the class itself,
and they are the longest walk from the class backwards; no declared field is an identity field
twice and no static field is one.  If there are no cycles, the fields of a class are those of its
superclass followed by its own, and a class without a superclass in the model has only its own. -/
theorem ancestors_are_longest_walk (model : ClassModel) (id : ClassId) :
    (∀ limit, model.size < limit → model.climb limit [] id = model.lineage id) ∧
    (model.Closed → id < model.size → (model.ancestors id).length ≤ model.size - 1) ∧
    (model.ancestors id).Nodup ∧ id ∉ model.ancestors id ∧
    (∃ longest, model.ancestors id = longest.reverse ∧ model.IsWalk id longest ∧
      ∀ walk, model.IsWalk id walk → walk <+: longest) ∧
    (model.identitySlots id).map model.fieldAt? = (model.identityFields id).toList.map some ∧
    (model.identitySlots id).Nodup ∧
    (∀ field ∈ (model.identityFields id).toList, field.isStatic = false) ∧
    (model.Acyclic → ∀ parent, model.Link id parent → model.ContinuesFields id parent) ∧
    ((∀ parent, ¬model.Link id parent) → model.ancestorFields id = [] ∧
      (model.identityFields id).toList = instanceFields (model.fieldsOf id)) := by
  have whole := model.isWalk_tail_lineage id
  obtain ⟨other, nodup⟩ := List.nodup_cons.mp whole.nodup
  refine ⟨fun limit enough => model.climb_eq_lineage enough id, ?_, ?_, ?_, ?_,
    model.map_fieldAt?_identitySlots id, model.nodup_identitySlots id,
    fun field => isStatic_of_mem_identityFields,
    fun acyclic parent link => acyclic.continuesFields link, ?_⟩
  · intro closed start
    rw [ancestors, List.length_reverse]
    exact Nat.le_pred_of_lt (whole.length_lt closed start)
  · exact List.nodup_reverse.mpr nodup
  · exact mt List.mem_reverse.mp other
  · exact ⟨_, rfl, whole, fun walk isWalk => isWalk.prefix_tail_lineage⟩
  · intro root
    have nothing : model.ancestorFields id = [] := by
      rw [ancestorFields, ancestors_eq_nil (Option.eq_none_iff_forall_ne_some.mpr root),
        List.flatMap_nil]
    refine ⟨nothing, ?_⟩
    rw [IdentityFields.toList, identityFields, nothing]
    rfl

/-! ### A loop above a class -/

/-- A class below two classes that extend each other; each has an instance field and a static
one. -/
def belowLoop : ClassModel where
  classes :=
    [⟨"Leaf", none, false, [⟨"l", "int", false⟩, ⟨"L", "int", true⟩], some (.inModel 1), [], []⟩,
      ⟨"Middle", none, false, [⟨"m", "int", false⟩, ⟨"M", "int", true⟩], some (.inModel 2), [], []⟩,
      ⟨"Root", none, false, [⟨"R", "int", true⟩, ⟨"r", "int", false⟩], some (.inModel 1), [], []⟩]
  index := [("Leaf", 0), ("Middle", 1), ("Root", 2)]

/-- Three classes in a line, the last of them below a class outside the model. -/
def inLine : List Construction :=
  [.addClass ⟨"Leaf", none, false, [⟨"l", "int", false⟩, ⟨"L", "int", true⟩], none⟩ [],
    .addClass ⟨"Middle", none, false, [⟨"m", "int", false⟩, ⟨"M", "int", true⟩], none⟩ [],
    .addClass ⟨"Root", none, false, [⟨"R", "int", true⟩, ⟨"r", "int", false⟩], none⟩ [],
    .extend 0 1, .extend 1 2, .extendExternal 2 "lib.Base"]

/-- The loop above is walked through once.  On the line, the fields of each class follow those of
the class above. -/
theorem ancestors_are_longest_walk_below_loop :
    belowLoop.Closed ∧ belowLoop.ancestors 0 = [2, 1] ∧ (belowLoop.ancestors 0).length ≤ 3 - 1 ∧
      (∀ walk, belowLoop.IsWalk 0 walk → walk <+: [1, 2]) ∧
      belowLoop.identitySlots 0 = [(2, 1), (1, 0), (0, 0)] ∧ (belowLoop.identitySlots 0).Nodup ∧
      (empty.constructAll inLine).ContinuesFields 0 1 := by
  have closed : belowLoop.Closed := by decide +kernel
  have collected : belowLoop.ancestors 0 = [2, 1] := by decide +kernel
  obtain ⟨_, short, _, _, ⟨longest, reversed, _, within⟩, _, nodup, _⟩ :=
    ancestors_are_longest_walk belowLoop 0
  obtain rfl : [1, 2] = longest := by
    rw [← List.reverse_reverse longest, ← reversed, collected]
    rfl
  have proper : empty.Properly inLine := by
    have three : 2 < 3 := by decide
    refine ⟨rfl, rfl, rfl, ⟨?_, ?_⟩, ⟨?_, ?_⟩, three, trivial⟩ <;> decide
  have acyclic := (wellFormed_empty.constructAll proper).acyclic
  obtain ⟨_, _, _, _, _, _, _, _, continues, _⟩ :=
    ancestors_are_longest_walk (empty.constructAll inLine) 0
  refine ⟨closed, collected, short closed (by decide), within, by decide +kernel, nodup, ?_⟩
  exact continues acyclic 1 (by decide +kernel : (empty.constructAll inLine).parent? 0 = some 1)

end ClassModel
end ValueMethods
