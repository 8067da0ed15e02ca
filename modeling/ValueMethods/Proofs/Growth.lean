import ValueMethods.Files.Discovery
import ValueMethods.Proofs.Routes

/-!
# Growing trees

A run makes directories at free places and writes files where no directory is; it removes nothing,
and what it writes is noted.  So directories stay directories, files stay files, and paths lead
where they led before.  Documents are the same after as before, as long as no file with the name of
a document is written.
-/

namespace ValueMethods
namespace FileTree

/-- A tree after directories have been made at free places and files have been written. -/
inductive Growth (directories : Location → Prop) (files : Location → ByteArray → Prop)
    (before : FileTree) : FileTree → Prop
  | refl : Growth directories files before before
  | directory {after : FileTree} {location : Location}
      (grown : Growth directories files before after) (free : after.node? location = none)
      (expected : directories location) :
      Growth directories files before (after.put location .directory)
  | file {after : FileTree} {location : Location} {content : ByteArray}
      (grown : Growth directories files before after)
      (other : after.node? location ≠ some .directory) (expected : files location content) :
      Growth directories files before (after.store location content)

theorem ne_nil_of_node?_ne (tree : FileTree) {location : Location}
    (other : tree.node? location ≠ some .directory) : location ≠ [] := by
  rintro rfl
  exact other rfl

namespace Growth

variable {directories : Location → Prop} {files : Location → ByteArray → Prop}
  {before between after : FileTree}

theorem current (growth : Growth directories files before after) :
    after.current = before.current := by
  induction growth with
  | refl => rfl
  | directory _ _ _ ih => exact ih
  | file _ _ _ ih => exact ih

theorem mono {moreDirectories : Location → Prop} {moreFiles : Location → ByteArray → Prop}
    (growth : Growth directories files before after)
    (directoriesToo : ∀ location, directories location → moreDirectories location)
    (filesToo : ∀ location content, files location content → moreFiles location content) :
    Growth moreDirectories moreFiles before after := by
  induction growth with
  | refl => exact .refl
  | directory _ free expected ih => exact .directory ih free (directoriesToo _ expected)
  | file _ other expected ih => exact .file ih other (filesToo _ _ expected)

theorem trans (first : Growth directories files before between)
    (second : Growth directories files between after) : Growth directories files before after := by
  induction second with
  | refl => exact first
  | directory _ free expected ih => exact .directory ih free expected
  | file _ other expected ih => exact .file ih other expected

/-- A location is as it was, or free and made a directory, or written if it was no directory. -/
theorem node?_cases (growth : Growth directories files before after) (location : Location) :
    after.node? location = before.node? location ∨
    (before.node? location = none ∧ directories location ∧
      after.node? location = some .directory) ∨
    (before.node? location ≠ some .directory ∧ ∃ content, files location content ∧
      after.node? location = some (.file content)) := by
  induction growth with
  | refl => exact .inl rfl
  | @directory after target _ free expected ih =>
      have inside : target ≠ [] := after.ne_nil_of_node?_ne (by simp [free])
      rw [node?_put _ _ _ inside]
      by_cases here : location = target
      · subst here
        rw [free] at ih
        have wasFree : before.node? location = none := by simpa [eq_comm] using ih
        simp [wasFree, expected]
      · rwa [if_neg here]
  | @file after target text _ other expected ih =>
      rw [node?_store _ _ _ (after.ne_nil_of_node?_ne other)]
      by_cases here : location = target
      · subst here
        refine .inr (.inr ⟨?_, text, expected, if_pos rfl⟩)
        rcases ih with same | ⟨_, _, made⟩ | ⟨notDirectory, _⟩
        · rwa [← same]
        · exact absurd made other
        · exact notDirectory
      · rwa [if_neg here]

/-- The files written meanwhile are among those expected. -/
theorem exists_written (growth : Growth directories files before after) :
    ∃ written, after.written = before.written ++ written ∧
      ∀ location ∈ written, ∃ content, files location content := by
  induction growth with
  | refl => exact ⟨[], (List.append_nil _).symm, by simp⟩
  | directory _ _ _ ih => exact ih
  | @file after target content _ _ expected ih =>
      obtain ⟨written, log, among⟩ := ih
      refine ⟨written ++ [target], ?_, fun location member => ?_⟩
      · rw [store, log, List.append_assoc]
      · rcases List.mem_append.mp member with earlier | last
        · exact among location earlier
        · obtain rfl := List.mem_singleton.mp last
          exact ⟨content, expected⟩

theorem node?_of_directory (growth : Growth directories files before after) {location : Location}
    (known : before.node? location = some .directory) :
    after.node? location = some .directory := by
  rcases growth.node?_cases location with same | ⟨free, _⟩ | ⟨other, _⟩
  · rw [same, known]
  · simp [known] at free
  · exact absurd known other

/-- What was a file is a file still, though it may have been written. -/
theorem exists_node?_of_file (growth : Growth directories files before after)
    {location : Location} {content : ByteArray}
    (known : before.node? location = some (.file content)) :
    ∃ written, after.node? location = some (.file written) := by
  rcases growth.node?_cases location with same | ⟨free, _⟩ | ⟨_, written, _, found⟩
  · exact ⟨content, by rw [same, known]⟩
  · simp [known] at free
  · exact ⟨written, found⟩

theorem designates (growth : Growth directories files before after) {path : String}
    {location : Location} (known : before.Designates path location) :
    after.Designates path location :=
  known.mono (fun _ => growth.node?_of_directory) growth.current

theorem locate_eq (growth : Growth directories files before after) (path : String) :
    after.locate path = before.locate path :=
  locate_congr growth.current

/-- A readable file stays as it is if nothing is written where its path leads. -/
theorem read {path : String} {content : ByteArray} (growth : Growth directories files before after)
    (readable : before.read path = .ok content)
    (untouched : ∀ location text, files location text → ¬after.Designates path location) :
    after.read path = .ok content := by
  obtain ⟨location, designates, found⟩ := read_eq_ok_iff.mp readable
  have designatesStill := growth.designates designates
  refine read_eq_ok_iff.mpr ⟨location, designatesStill, ?_⟩
  rcases growth.node?_cases location with same | ⟨free, _⟩ | ⟨_, text, written, _⟩
  · rw [same, found]
  · simp [free] at found
  · exact absurd designatesStill (untouched location text written)

theorem destination_of_directory (growth : Growth directories files before after) {path : String}
    {location : Location} (reached : before.destination path = .ok (.present location .directory)) :
    after.destination path = .ok (.present location .directory) := by
  obtain ⟨usable, follows⟩ := destination_eq_ok_iff.mp reached
  have started : after.start path = before.start path := by rw [start, start, growth.current]
  cases follows with
  | directory leads =>
      have leadsNow := leads.mono fun _ => growth.node?_of_directory
      exact destination_eq_ok_iff.mpr ⟨usable, .directory (started ▸ leadsNow)⟩

theorem exists_destination_of_file (growth : Growth directories files before after) {path : String}
    {location : Location} {content : ByteArray}
    (reached : before.destination path = .ok (.present location (.file content))) :
    ∃ written, after.destination path = .ok (.present location (.file written)) := by
  obtain ⟨designates, found⟩ := destination_eq_file_iff.mp reached
  obtain ⟨written, foundNow⟩ := growth.exists_node?_of_file found
  exact ⟨written, destination_eq_file_iff.mpr ⟨growth.designates designates, foundNow⟩⟩

/-- What a path leads to is not lost. -/
theorem hasPath (growth : Growth directories files before after) {path : String}
    (present : before.hasPath path = true) : after.hasPath path = true := by
  obtain ⟨location, node, reached⟩ := hasPath_iff.mp present
  cases node with
  | directory => exact hasPath_iff.mpr ⟨_, _, growth.destination_of_directory reached⟩
  | file content =>
      obtain ⟨_, reachedNow⟩ := growth.exists_destination_of_file reached
      exact hasPath_iff.mpr ⟨_, _, reachedNow⟩

end Growth

/-! ### Documents in a growing tree -/

/-- Every entry of the tree lies in a directory of the tree. -/
def IsGrounded (tree : FileTree) : Prop :=
  ∀ entry ∈ tree.entries, tree.node? entry.1.dropLast = some .directory

theorem mem_entries_of_node? {tree : FileTree} {location : Location} {node : Node}
    (inside : location ≠ []) (found : tree.node? location = some node) :
    (location, node) ∈ tree.entries := by
  rw [node?, if_neg inside] at found
  obtain ⟨front, back, shape, _⟩ := List.lookup_eq_some_iff.mp found
  simp [shape]

theorem IsGrounded.node?_of_above {tree : FileTree} (grounded : tree.IsGrounded)
    {location further : Location} (within : location <+: further)
    (known : tree.node? further = some .directory) : tree.node? location = some .directory := by
  induction further using List.reverseRecOn with
  | nil => rwa [List.prefix_nil.mp within]
  | append_singleton front name ih =>
      rcases List.prefix_concat_iff.mp within with rfl | earlier
      · exact known
      · have entry := grounded _ (mem_entries_of_node? (by simp) known)
        rw [List.dropLast_concat] at entry
        exact ih earlier entry

/-- Without a step upward, names lead to a directory of a grounded tree if they lead to it in some
other tree. -/
theorem Leads.of_grounded {tree other : FileTree} {place target : Location} {names : List String}
    (leads : other.Leads place names target) (straight : ".." ∉ names)
    (grounded : tree.IsGrounded) (known : tree.node? target = some .directory) :
    tree.Leads place names target := by
  induction leads with
  | here place => exact .here place
  | stay void _ ih =>
      exact .stay void (ih (fun later => straight (List.mem_cons_of_mem _ later)) known)
  | up _ _ => exact absurd List.mem_cons_self straight
  | @down place target name rest proper _ onward ih =>
      have straightOn : ".." ∉ rest := fun later => straight (List.mem_cons_of_mem _ later)
      have within : place ++ [name] <+: target := by
        rw [onward.location_eq straightOn]
        exact List.prefix_append ..
      exact .down proper (grounded.node?_of_above within known) (ih straightOn known)

theorem Designates.of_grounded {tree other : FileTree} {path : String} {location : Location}
    {node : Node} (designates : other.Designates path location) (straight : ".." ∉ Path.names path)
    (grounded : tree.IsGrounded) (current : other.current = tree.current)
    (found : tree.node? location = some node) : tree.Designates path location := by
  obtain ⟨usable, front, name, target, shape, leads, proper, rfl⟩ := designates
  have entry := grounded _ (mem_entries_of_node? (by simp) found)
  rw [List.dropLast_concat] at entry
  have within := not_mem_pieces straight
  rw [shape, List.mem_append, not_or] at within
  have started : tree.start path = other.start path := by rw [start, start, current]
  exact ⟨usable, front, name, target, shape, started ▸ leads.of_grounded within.1 grounded entry,
    proper, rfl⟩

/-- What is read from a file that was not written could be read before. -/
theorem Growth.read_before {directories : Location → Prop} {files : Location → ByteArray → Prop}
    {before after : FileTree} {path : String} {content : ByteArray}
    (growth : Growth directories files before after) (grounded : before.IsGrounded)
    (straight : ".." ∉ Path.names path) (readable : after.read path = .ok content)
    (untouched : ∀ location text, files location text → ¬after.Designates path location) :
    before.read path = .ok content := by
  obtain ⟨location, designates, found⟩ := read_eq_ok_iff.mp readable
  rcases growth.node?_cases location with same | ⟨_, _, made⟩ | ⟨_, text, written, _⟩
  · rw [same] at found
    have designatesBefore := designates.of_grounded straight grounded growth.current found
    exact read_eq_ok_iff.mpr ⟨location, designatesBefore, found⟩
  · simp [made] at found
  · exact absurd designates (untouched location text written)

end FileTree

namespace Discovery

open FileTree

/-- The names of an entry from the location of a root on, if it is a document below the root. -/
def documentBelow? (root : String) (location : Location) (entry : Location × Node) :
    Option Location :=
  if location.isPrefixOf entry.1 && location.length < entry.1.length then
    match entry.2 with
    | .file _ =>
        let names := entry.1.drop location.length
        if isDocument names && isReached root names then some names else none
    | .directory => none
  else
    none

theorem documentsBelow_eq (tree : FileTree) (root : String) (location : Location) :
    documentsBelow tree root location =
      (tree.entries.filterMap (documentBelow? root location)).mergeSort atMost := by
  rw [documentsBelow, FileTree.below, List.filterMap_filterMap]
  congr 2
  funext entry
  rw [documentBelow?]
  split <;> rfl

/-- An entry that is no document can be put or replaced without a change to the documents. -/
theorem filterMap_putEntry {found : Location × Node → Option Location} {location : Location}
    {node : Node} {entries : List (Location × Node)} (fresh : found (location, node) = none)
    (replaced : ∀ old, (location, old) ∈ entries → found (location, old) = none) :
    (putEntry location node entries).filterMap found = entries.filterMap found := by
  induction entries with
  | nil => simp [putEntry, fresh]
  | cons entry rest ih =>
      rw [putEntry]
      split
      · next here =>
          subst here
          have gone := replaced entry.2 List.mem_cons_self
          rw [List.filterMap_cons_none fresh, List.filterMap_cons_none gone]
      · have later := ih fun old member => replaced old (List.mem_cons_of_mem _ member)
        simp only [List.filterMap_cons, later]

variable {directories : Location → Prop} {files : Location → ByteArray → Prop}
  {before after : FileTree}

/-- The documents below a place stay the same as long as no document is written. -/
theorem documentsBelow_growth (growth : Growth directories files before after)
    (others : ∀ location content, files location content →
      ∀ count, isDocument (location.drop count) = false) (root : String) (location : Location) :
    documentsBelow after root location = documentsBelow before root location := by
  induction growth with
  | refl => rfl
  | @directory after target _ free _ ih =>
      have inside : target ≠ [] := after.ne_nil_of_node?_ne (by simp [free])
      rw [node?, if_neg inside, List.lookup_eq_none_iff] at free
      rw [← ih, documentsBelow_eq, documentsBelow_eq, FileTree.put, filterMap_putEntry]
      · simp [documentBelow?]
      · intro old member
        exact absurd (free _ member) (by simp)
  | @file after target content _ _ expected ih =>
      have noDocument (node : Node) : documentBelow? root location (target, node) = none := by
        have plain := others target content expected location.length
        cases node <;> simp [documentBelow?, plain]
      rw [← ih, documentsBelow_eq, documentsBelow_eq, FileTree.store, FileTree.put,
        filterMap_putEntry (noDocument _) fun old _ => noDocument old]

/-- Nothing is below a place that is no directory. -/
theorem documentsBelow_eq_nil {tree : FileTree} (grounded : tree.IsGrounded) (root : String)
    {location : Location} (other : tree.node? location ≠ some .directory) :
    documentsBelow tree root location = [] := by
  have nothing : tree.entries.filterMap (documentBelow? root location) = [] := by
    rw [List.filterMap_eq_nil_iff]
    intro entry member
    rw [documentBelow?, if_neg]
    intro below
    obtain ⟨within, longer⟩ := Bool.and_eq_true_iff.mp below
    have start := List.isPrefixOf_iff_prefix.mp within
    have front : location <+: entry.1.dropLast := by
      rw [List.prefix_iff_eq_take.mp start, List.dropLast_eq_take]
      have shorter := of_decide_eq_true longer
      exact List.take_prefix_take_left (by omega)
    exact other (grounded.node?_of_above front (grounded entry member))
  rw [documentsBelow_eq, nothing, List.mergeSort_nil]

end Discovery
end ValueMethods
