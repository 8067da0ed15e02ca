import ValueMethods.Proofs.Growth

/-!
# Well-formed trees

A file system lists an entry once, in a directory, and under a name that stands between two slashes
and does not lead upward.  Making directories and writing files keeps a tree like that, so every
tree that is made from an empty one is well formed.
-/

namespace ValueMethods
namespace FileTree

/-- The entries lie in directories, each at a location of its own, and names stand in locations. -/
structure IsWellFormed (tree : FileTree) : Prop where
  grounded : tree.IsGrounded
  distinct : (tree.entries.map Prod.fst).Nodup
  named : ∀ entry ∈ tree.entries, ∀ name ∈ entry.1, Path.IsName name
  downward : ∀ entry ∈ tree.entries, ".." ∉ entry.1

instance (tree : FileTree) : Decidable tree.IsGrounded :=
  inferInstanceAs (Decidable (∀ entry ∈ tree.entries, _ = _))

instance (tree : FileTree) : Decidable tree.IsWellFormed :=
  decidable_of_iff (tree.IsGrounded ∧ (tree.entries.map Prod.fst).Nodup ∧
      (∀ entry ∈ tree.entries, ∀ name ∈ entry.1, Path.IsName name) ∧
      ∀ entry ∈ tree.entries, ".." ∉ entry.1)
    ⟨fun ⟨grounded, distinct, named, downward⟩ => ⟨grounded, distinct, named, downward⟩,
      fun ⟨grounded, distinct, named, downward⟩ => ⟨grounded, distinct, named, downward⟩⟩

theorem lookup_of_mem {entries : List (Location × Node)} {location : Location} {node : Node}
    (distinct : (entries.map Prod.fst).Nodup) (member : (location, node) ∈ entries) :
    entries.lookup location = some node := by
  obtain ⟨front, back, shape⟩ := List.append_of_mem member
  refine List.lookup_eq_some_iff.mpr ⟨front, back, shape, fun earlier within => ?_⟩
  rw [shape, List.map_append, List.nodup_append] at distinct
  have apart := distinct.2.2 earlier.1 (List.mem_map_of_mem within) location (by simp)
  simpa using apart.symm

/-- Above an entry there are directories. -/
theorem IsGrounded.node?_above {tree : FileTree} (grounded : tree.IsGrounded)
    {location further : Location} {node : Node} (within : location <+: further)
    (other : location ≠ further) (found : tree.node? further = some node) :
    tree.node? location = some .directory := by
  obtain ⟨rest, rfl⟩ := within
  have longer : rest ≠ [] := fun none => other (by rw [none, List.append_nil])
  have entry := grounded _ (mem_entries_of_node? (by simp [longer]) found)
  rw [List.dropLast_append_of_ne_nil longer] at entry
  exact grounded.node?_of_above (List.prefix_append location rest.dropLast) entry

theorem IsGrounded.node?_ne_none {tree : FileTree} (grounded : tree.IsGrounded)
    {location further : Location} {node : Node} (within : location <+: further)
    (found : tree.node? further = some node) : tree.node? location ≠ none := by
  by_cases here : location = further
  · simp [here, found]
  · simp [grounded.node?_above within here found]

/-- Names lead from a directory to a directory. -/
theorem IsGrounded.node?_of_leads {tree : FileTree} (grounded : tree.IsGrounded)
    {place target : Location} {names : List String} (leads : tree.Leads place names target)
    (known : tree.node? place = some .directory) : tree.node? target = some .directory := by
  induction leads with
  | here place => exact known
  | stay _ _ ih => exact ih known
  | up _ ih => exact ih (grounded.node?_of_above (List.dropLast_prefix _) known)
  | down _ inside _ ih => exact ih inside

namespace IsWellFormed

variable {tree : FileTree} (wellFormed : tree.IsWellFormed)
include wellFormed

theorem node?_of_mem {location : Location} {node : Node} (inside : location ≠ [])
    (member : (location, node) ∈ tree.entries) : tree.node? location = some node := by
  rw [node?, if_neg inside, lookup_of_mem wellFormed.distinct member]

theorem named_of_node? {location : Location} {node : Node}
    (found : tree.node? location = some node) : ∀ name ∈ location, Path.IsName name := by
  by_cases inside : location = []
  · simp [inside]
  · exact wellFormed.named _ (mem_entries_of_node? inside found)

theorem downward_of_node? {location : Location} {node : Node}
    (found : tree.node? location = some node) : ".." ∉ location := by
  by_cases inside : location = []
  · simp [inside]
  · exact wellFormed.downward _ (mem_entries_of_node? inside found)

theorem named_of_below {place names : Location} {node : Node}
    (found : tree.node? (place ++ names) = some node) : ∀ name ∈ names, Path.IsName name :=
  fun name within => wellFormed.named_of_node? found name (List.mem_append_right place within)

theorem downward_of_below {place names : Location} {node : Node}
    (found : tree.node? (place ++ names) = some node) : ".." ∉ names := fun within =>
  wellFormed.downward_of_node? found (List.mem_append_right place within)

end IsWellFormed

/-! ### Trees that are made -/

theorem mem_putEntry {location : Location} {node : Node} {entries : List (Location × Node)}
    {entry : Location × Node} (member : entry ∈ putEntry location node entries) :
    entry = (location, node) ∨ entry ∈ entries := by
  induction entries with
  | nil => exact .inl (List.mem_singleton.mp member)
  | cons first rest ih =>
      rw [putEntry] at member
      split at member
      · rcases List.mem_cons.mp member with here | later
        · exact .inl here
        · exact .inr (List.mem_cons_of_mem first later)
      · rcases List.mem_cons.mp member with rfl | later
        · exact .inr List.mem_cons_self
        · exact (ih later).imp_right (List.mem_cons_of_mem first)

theorem nodup_putEntry {location : Location} {node : Node} {entries : List (Location × Node)}
    (distinct : (entries.map Prod.fst).Nodup) :
    ((putEntry location node entries).map Prod.fst).Nodup := by
  induction entries with
  | nil => simp [putEntry]
  | cons first rest ih =>
      obtain ⟨fresh, later⟩ := List.nodup_cons.mp distinct
      rw [putEntry]
      split
      · next here => simpa [here] using distinct
      · next other =>
          refine List.nodup_cons.mpr ⟨fun member => ?_, ih later⟩
          obtain ⟨entry, within, same⟩ := List.mem_map.mp member
          rcases mem_putEntry within with rfl | old
          · exact other same.symm
          · exact fresh (List.mem_map.mpr ⟨entry, old, same⟩)

/-- A tree stays well formed if something is put into a directory where no directory is. -/
theorem IsWellFormed.put {tree : FileTree} (wellFormed : tree.IsWellFormed) {front : Location}
    {name : String} (above : tree.node? front = some .directory) (single : Path.IsName name)
    (downward : name ≠ "..") (other : tree.node? (front ++ [name]) ≠ some .directory)
    (node : Node) : (tree.put (front ++ [name]) node).IsWellFormed where
  grounded := by
    intro entry member
    rw [node?_put _ _ _ (by simp)]
    rcases mem_putEntry member with rfl | old
    · simpa using above
    · have known := wellFormed.grounded entry old
      rwa [if_neg]
      intro same
      exact other (same ▸ known)
  distinct := nodup_putEntry wellFormed.distinct
  named := by
    intro entry member
    rcases mem_putEntry member with rfl | old
    · simpa [or_imp, forall_and, single] using wellFormed.named_of_node? above
    · exact wellFormed.named entry old
  downward := by
    intro entry member
    rcases mem_putEntry member with rfl | old
    · simpa [downward.symm] using wellFormed.downward_of_node? above
    · exact wellFormed.downward entry old

/-- The trees that come from an empty one when directories are made and entered and files are
written. -/
inductive IsMade : FileTree → Prop
  | empty : IsMade .empty
  | directory {before after : FileTree} {path : String} (made : IsMade before)
      (done : before.makeDirectory path = .ok after) : IsMade after
  | file {before after : FileTree} {path : String} {content : ByteArray} (made : IsMade before)
      (done : before.write path content = .ok after) : IsMade after
  | entered {tree : FileTree} {location : Location} (made : IsMade tree)
      (here : tree.node? location = some .directory) : IsMade { tree with current := location }

theorem isName_of_mem_pieces {path name : String} (member : name ∈ Text.pieces '/' path)
    (proper : Path.IsProper name) : Path.IsName name := by
  obtain ⟨piece, within, rfl⟩ := List.mem_map.mp member
  exact ⟨by simpa using Text.not_mem_of_mem_splitOn within, proper.visible⟩

/-- A step of making a tree: what is put stands under a name in a directory. -/
theorem IsWellFormed.put_of_leads {tree : FileTree} (wellFormed : tree.IsWellFormed)
    (here : tree.node? tree.current = some .directory) {path name : String}
    {front back : List String} {target : Location}
    (shape : Text.pieces '/' path = front ++ name :: back)
    (leads : tree.Leads (tree.start path) front target) (proper : Path.IsProper name)
    (other : tree.node? (target ++ [name]) ≠ some .directory) (node : Node) :
    (tree.put (target ++ [name]) node).IsWellFormed ∧
      (tree.put (target ++ [name]) node).node? tree.current = some .directory := by
  have started : tree.node? (tree.start path) = some .directory := by
    rw [start]
    split
    · rfl
    · exact here
  have above := wellFormed.grounded.node?_of_leads leads started
  have single : Path.IsName name := by
    have member : name ∈ Text.pieces '/' path := by simp [shape]
    exact isName_of_mem_pieces member proper
  refine ⟨wellFormed.put above single proper.downward other node, ?_⟩
  rw [node?_put _ _ _ (by simp), if_neg, here]
  intro same
  exact other (same ▸ here)

/-- Every tree that is made is well formed, and its current directory is there. -/
theorem IsMade.isWellFormed {tree : FileTree} (made : tree.IsMade) :
    tree.IsWellFormed ∧ tree.node? tree.current = some .directory := by
  induction made with
  | empty => exact ⟨⟨by simp [IsGrounded, FileTree.empty], by simp [FileTree.empty],
      by simp [FileTree.empty], by simp [FileTree.empty]⟩, rfl⟩
  | @directory before after path _ done ih =>
      unfold makeDirectory at done
      split at done
      · simp at done
      · next location reached =>
          obtain rfl := Except.ok.inj done
          obtain ⟨-, follows⟩ := destination_eq_ok_iff.mp reached
          cases follows with
          | free shape _ leads proper missing =>
              exact ih.1.put_of_leads ih.2 shape leads proper (by simp [missing]) .directory
      · simp at done
  | @file before after path content _ done ih =>
      obtain ⟨_, ⟨-, front, name, target, shape, leads, proper, rfl⟩, other, rfl⟩ :=
        write_eq_ok done
      obtain ⟨stored, here⟩ := ih.1.put_of_leads ih.2 shape leads proper other (.file content)
      exact ⟨⟨stored.grounded, stored.distinct, stored.named, stored.downward⟩, here⟩
  | entered _ here ih => exact ⟨⟨ih.1.grounded, ih.1.distinct, ih.1.named, ih.1.downward⟩, here⟩

end FileTree
end ValueMethods
