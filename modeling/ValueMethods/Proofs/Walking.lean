import Mathlib.Data.List.Dedup
import Mathlib.Data.List.Lex
import Mathlib.Data.String.Basic
import ValueMethods.Proofs.WellFormedTrees

/-!
# Walking a tree

A walk lists what is in a directory, in any order, takes the files, and walks the directories where
they stand in the list, as far as their paths are short enough to be opened.  Whatever the order is,
a walk comes to the same files, each once: those with no such directory on the way that cannot be
opened.  What is selected from them and sorted are the documents, so these are the same for every
walk.
-/

namespace ValueMethods
namespace FileTree

/-! ### Walks -/

/-- The names are those of everything in the directory at a place, in some order. -/
structure Lists (tree : FileTree) (place : Location) (names : List String) : Prop where
  distinct : names.Nodup
  complete : ∀ name, name ∈ names ↔ tree.node? (place ++ [name]) ≠ none

/-- A walk over listed names in the directory with a path and a place: the paths of the files that
it comes to, in order. -/
inductive Walk (tree : FileTree) : String → Location → List String → List String → Prop
  | done (path : String) (place : Location) : Walk tree path place [] []
  | file {path name : String} {place : Location} {rest visited : List String} {content : ByteArray}
      (found : tree.node? (place ++ [name]) = some (.file content))
      (onward : Walk tree path place rest visited) :
      Walk tree path place (name :: rest) (Path.join path name :: visited)
  | unopened {path name : String} {place : Location} {rest visited : List String}
      (found : tree.node? (place ++ [name]) = some .directory)
      (long : pathLimit ≤ (Path.join path name).utf8ByteSize)
      (onward : Walk tree path place rest visited) :
      Walk tree path place (name :: rest) visited
  | entered {path name : String} {place : Location} {listed rest inner visited : List String}
      (found : tree.node? (place ++ [name]) = some .directory)
      (short : (Path.join path name).utf8ByteSize < pathLimit)
      (lists : tree.Lists (place ++ [name]) listed)
      (inside : Walk tree (Path.join path name) (place ++ [name]) listed inner)
      (onward : Walk tree path place rest visited) :
      Walk tree path place (name :: rest) (inner ++ visited)

/-- A walk over everything below a directory. -/
def WalksBelow (tree : FileTree) (path : String) (place : Location) (visited : List String) :
    Prop :=
  ∃ listed, tree.Lists place listed ∧ tree.Walk path place listed visited

/-- The names lead from a directory to a file through directories that can be opened. -/
structure IsFileBelow (tree : FileTree) (path : String) (place : Location) (names : Location) :
    Prop where
  file : ∃ content, tree.node? (place ++ names) = some (.file content)
  reached : Discovery.isReached path names = true

/-- The locations found are those with the property that begin with a listed name, each once. -/
structure Collects (property : Location → Prop) (listed : List String) (found : List Location) :
    Prop where
  once : found.Nodup
  complete : ∀ names, names ∈ found ↔
    ∃ name ∈ listed, ∃ more, names = name :: more ∧ property (name :: more)

theorem Collects.nil (property : Location → Prop) : Collects property [] [] :=
  ⟨List.nodup_nil, by simp⟩

/-- What begins with a new name is found in front of what begins with the other names. -/
theorem Collects.cons {property : Location → Prop} {name : String} {rest : List String}
    {front found : List Location} (fresh : name ∉ rest) (once : front.Nodup)
    (first : ∀ names, names ∈ front ↔ ∃ more, names = name :: more ∧ property (name :: more))
    (later : Collects property rest found) : Collects property (name :: rest) (front ++ found) where
  once := by
    refine List.nodup_append.mpr ⟨once, later.once, fun names inFront other inFound same => ?_⟩
    obtain ⟨more, rfl, -⟩ := (first names).mp inFront
    obtain ⟨next, member, _, shape, -⟩ := (later.complete other).mp inFound
    obtain ⟨rfl, -⟩ := List.cons_eq_cons.mp (same.trans shape)
    exact fresh member
  complete names := by
    rw [List.mem_append, first, later.complete]
    simp [or_and_right, exists_or]

section Visited

variable {tree : FileTree} (wellFormed : tree.IsWellFormed) {path name : String}
  {place more : Location}
include wellFormed

theorem IsFileBelow.named {names : Location} (file : tree.IsFileBelow path place names) :
    ∀ name ∈ names, Path.IsName name := by
  obtain ⟨content, found⟩ := file.file
  exact wellFormed.named_of_below found

theorem IsFileBelow.downward {names : Location} (file : tree.IsFileBelow path place names) :
    ".." ∉ names := by
  obtain ⟨content, found⟩ := file.file
  exact wellFormed.downward_of_below found

/-- Below a file there is nothing. -/
theorem isFileBelow_cons_of_file {content : ByteArray}
    (found : tree.node? (place ++ [name]) = some (.file content))
    (short : path.utf8ByteSize < pathLimit) :
    tree.IsFileBelow path place (name :: more) ↔ more = [] := by
  constructor
  · rintro ⟨⟨content, below⟩, -⟩
    by_contra further
    have within : place ++ [name] <+: place ++ name :: more := by simp
    have directory := wellFormed.grounded.node?_above within (by simpa using Ne.symm further) below
    simp [found] at directory
  · rintro rfl
    exact ⟨⟨content, found⟩, by simpa [Discovery.isReached, Path.joinAll] using short⟩

/-- No file below a directory with too long a path is reached. -/
theorem not_isFileBelow_cons_of_long (found : tree.node? (place ++ [name]) = some .directory)
    (long : pathLimit ≤ (Path.join path name).utf8ByteSize) :
    ¬tree.IsFileBelow path place (name :: more) := by
  rintro ⟨⟨content, below⟩, reached⟩
  by_cases last : more = []
  · simp [last, found] at below
  · have single : ∀ part ∈ more.dropLast, Path.IsName part := fun part member =>
      wellFormed.named_of_node? below part (by simp [List.mem_of_mem_dropLast member])
    have size := Path.le_utf8ByteSize_joinAll (Path.join path name) single
    rw [Discovery.isReached, List.dropLast_cons_of_ne_nil last] at reached
    exact Nat.not_lt.mpr (long.trans size) (of_decide_eq_true reached)

/-- Below a directory are the files below what it lists. -/
theorem isFileBelow_cons_of_listed {listed : List String}
    (found : tree.node? (place ++ [name]) = some .directory)
    (lists : tree.Lists (place ++ [name]) listed) :
    tree.IsFileBelow path place (name :: more) ↔
      ∃ next ∈ listed, ∃ rest, more = next :: rest ∧
        tree.IsFileBelow (Path.join path name) (place ++ [name]) (next :: rest) := by
  have step (next : String) (rest : Location) :
      tree.IsFileBelow path place (name :: next :: rest) ↔
        tree.IsFileBelow (Path.join path name) (place ++ [name]) (next :: rest) := by
    constructor <;> rintro ⟨⟨content, below⟩, reached⟩ <;>
      exact ⟨⟨content, by simpa using below⟩, reached⟩
  constructor
  · intro file
    cases more with
    | nil =>
        obtain ⟨content, below⟩ := file.file
        simp [found] at below
    | cons next rest =>
        obtain ⟨content, below⟩ := file.file
        have within : place ++ [name] ++ [next] <+: place ++ name :: next :: rest := by simp
        have listedToo := (lists.complete next).mpr (wellFormed.grounded.node?_ne_none within below)
        exact ⟨next, listedToo, rest, rfl, (step next rest).mp file⟩
  · rintro ⟨next, -, rest, rfl, file⟩
    exact (step next rest).mpr file

/-- A walk comes to each file below what is listed once, and to no other file. -/
theorem Walk.visited_eq {listed visited : List String} (walk : tree.Walk path place listed visited)
    (distinct : listed.Nodup) (short : path.utf8ByteSize < pathLimit) :
    ∃ found : List Location, visited = found.map (Path.joinAll path) ∧
      Collects (tree.IsFileBelow path place) listed found := by
  induction walk with
  | done path place => exact ⟨[], rfl, .nil _⟩
  | @file path name place rest visited content here onward ih =>
      obtain ⟨fresh, distinct⟩ := List.nodup_cons.mp distinct
      obtain ⟨found, rfl, collects⟩ := ih distinct short
      refine ⟨[[name]] ++ found, rfl, collects.cons fresh (by simp) fun names => ?_⟩
      simp [isFileBelow_cons_of_file wellFormed here short]
  | @unopened path name place rest visited here long onward ih =>
      obtain ⟨fresh, distinct⟩ := List.nodup_cons.mp distinct
      obtain ⟨found, rfl, collects⟩ := ih distinct short
      refine ⟨[] ++ found, rfl, collects.cons fresh List.nodup_nil fun names => ?_⟩
      simp [not_isFileBelow_cons_of_long wellFormed here long]
  | @entered path name place listed rest inner visited here opened lists inside onward within ih =>
      obtain ⟨fresh, distinct⟩ := List.nodup_cons.mp distinct
      obtain ⟨found, rfl, collects⟩ := ih distinct short
      obtain ⟨below, rfl, collectsBelow⟩ := within lists.distinct opened
      refine ⟨below.map (List.cons name) ++ found, by simp [Path.joinAll, Function.comp_def],
        collects.cons fresh (collectsBelow.once.map List.cons_injective) fun names => ?_⟩
      simp only [List.mem_map, collectsBelow.complete,
        isFileBelow_cons_of_listed wellFormed here lists]
      constructor
      · rintro ⟨_, ⟨next, member, rest, rfl, file⟩, rfl⟩
        exact ⟨_, rfl, next, member, rest, rfl, file⟩
      · rintro ⟨_, rfl, next, member, rest, rfl, file⟩
        exact ⟨_, ⟨next, member, rest, rfl, file⟩, rfl⟩

end Visited

/-! ### Every directory can be walked -/

theorem Walk.exists_of_listed {tree : FileTree} (path : String) {place : Location}
    (below : ∀ name, tree.node? (place ++ [name]) = some .directory →
      ∃ inner, tree.WalksBelow (Path.join path name) (place ++ [name]) inner) {listed : List String}
    (present : ∀ name ∈ listed, tree.node? (place ++ [name]) ≠ none) :
    ∃ visited, tree.Walk path place listed visited := by
  induction listed with
  | nil => exact ⟨[], .done path place⟩
  | cons name rest ih =>
      obtain ⟨visited, onward⟩ := ih fun next member => present next (List.mem_cons_of_mem _ member)
      cases found : tree.node? (place ++ [name]) with
      | none => exact absurd found (present name List.mem_cons_self)
      | some node => cases node with
        | file content => exact ⟨_, .file found onward⟩
        | directory =>
            by_cases short : (Path.join path name).utf8ByteSize < pathLimit
            · obtain ⟨inner, listed, lists, inside⟩ := below name found
              exact ⟨_, .entered found short lists inside onward⟩
            · exact ⟨_, .unopened found (Nat.le_of_not_lt short) onward⟩

/-- The names of the entries in a directory. -/
def namesIn (tree : FileTree) (place : Location) : List String :=
  tree.entries.filterMap fun entry =>
    if entry.1.dropLast = place then entry.1.getLast? else none

theorem mem_namesIn {tree : FileTree} {place : Location} {name : String} :
    name ∈ tree.namesIn place ↔ ∃ entry ∈ tree.entries, entry.1 = place ++ [name] := by
  simp only [namesIn, List.mem_filterMap]
  refine exists_congr fun entry => and_congr_right fun _ => ?_
  constructor
  · intro named
    split at named
    · next front =>
        obtain ⟨above, shape⟩ := List.getLast?_eq_some_iff.mp named
        rw [shape, List.dropLast_concat] at front
        rw [shape, front]
    · simp at named
  · intro shape
    rw [shape, if_pos List.dropLast_concat, List.getLast?_concat]

theorem lists_dedup_namesIn (tree : FileTree) (place : Location) :
    tree.Lists place (tree.namesIn place).dedup where
  distinct := List.nodup_dedup _
  complete name := by
    have inside : place ++ [name] ≠ [] := by simp
    rw [List.mem_dedup, mem_namesIn, node?, if_neg inside, Ne, List.lookup_eq_none_iff]
    push Not
    refine exists_congr fun entry => and_congr_right fun _ => ?_
    rw [Ne, bne_iff_ne, not_not, eq_comm]

theorem WalksBelow.exists_of_below {tree : FileTree} (path : String) {place : Location}
    (below : ∀ name, tree.node? (place ++ [name]) = some .directory →
      ∃ inner, tree.WalksBelow (Path.join path name) (place ++ [name]) inner) :
    ∃ visited, tree.WalksBelow path place visited := by
  have lists := tree.lists_dedup_namesIn place
  obtain ⟨visited, walk⟩ := Walk.exists_of_listed path below fun name member =>
    (lists.complete name).mp member
  exact ⟨visited, _, lists, walk⟩

theorem exists_depth (entries : List (Location × Node)) :
    ∃ depth, ∀ entry ∈ entries, entry.1.length ≤ depth := by
  induction entries with
  | nil => exact ⟨0, by simp⟩
  | cons entry rest ih =>
      obtain ⟨depth, bound⟩ := ih
      refine ⟨max entry.1.length depth, fun other member => ?_⟩
      rcases List.mem_cons.mp member with rfl | later
      · exact Nat.le_max_left _ _
      · exact (bound other later).trans (Nat.le_max_right _ _)

/-- There is a walk below every directory. -/
theorem exists_walksBelow (tree : FileTree) (path : String) (place : Location) :
    ∃ visited, tree.WalksBelow path place visited := by
  -- The induction is on how much deeper than the place an entry can be.
  obtain ⟨limit, bound⟩ : ∃ limit, ∀ entry ∈ tree.entries,
      entry.1.length ≤ place.length + limit := by
    obtain ⟨depth, bound⟩ := exists_depth tree.entries
    exact ⟨depth, fun entry member => (bound entry member).trans (Nat.le_add_left _ _)⟩
  induction limit generalizing path place with
  | zero =>
      refine WalksBelow.exists_of_below path fun name found => ?_
      have shorter := bound _ (mem_entries_of_node? (by simp) found)
      simp at shorter
  | succ limit ih =>
      refine WalksBelow.exists_of_below path fun name _ => ih _ _ fun entry member => ?_
      have within := bound entry member
      rw [List.length_append, List.length_singleton]
      omega

/-- A walk below a directory that can be opened comes to the files below it, each once. -/
theorem WalksBelow.visited_eq {tree : FileTree} (wellFormed : tree.IsWellFormed) {path : String}
    {place : Location} {visited : List String} (walk : tree.WalksBelow path place visited)
    (short : path.utf8ByteSize < pathLimit) :
    ∃ found : List Location, visited = found.map (Path.joinAll path) ∧ found.Nodup ∧
      ∀ names, names ∈ found ↔ names ≠ [] ∧ tree.IsFileBelow path place names := by
  obtain ⟨listed, lists, walk⟩ := walk
  obtain ⟨found, shape, collects⟩ := walk.visited_eq wellFormed lists.distinct short
  refine ⟨found, shape, collects.once, fun names => (collects.complete names).trans ?_⟩
  constructor
  · rintro ⟨name, -, more, rfl, file⟩
    exact ⟨List.cons_ne_nil name more, file⟩
  · rintro ⟨further, file⟩
    obtain ⟨name, more, rfl⟩ := List.exists_cons_of_ne_nil further
    obtain ⟨content, below⟩ := file.file
    have within : place ++ [name] <+: place ++ name :: more := by simp
    have listedToo := (lists.complete name).mpr (wellFormed.grounded.node?_ne_none within below)
    exact ⟨name, listedToo, more, rfl, file⟩

end FileTree

namespace Discovery

open FileTree

/-! ### Selecting documents -/

/-- Whether a path below a root is that of a document, judged by the extension of the path and by
what of it comes after the root. -/
def isSelected (root path : String) : Bool :=
  ((Path.extension? path).any fun extension => documentExtensions.contains extension) &&
    !(Path.components ((Path.relativeTo? root path).getD path)).any isHidden

/-- The documents among the paths that a walk below a root comes to, in order. -/
def select (root : String) (visited : List String) : List String :=
  (visited.filter (isSelected root)).mergeSort fun first second =>
    !decide (Path.components second < Path.components first)

/-- The extension of a path below a root is that of its last name. -/
theorem extension?_joinAll (root : String) {front : Location} {name : String}
    (named : ∀ part ∈ front ++ [name], Path.IsName part) (downward : ".." ∉ front ++ [name]) :
    Path.extension? (Path.joinAll root (front ++ [name])) = Path.extensionOf name.toList := by
  have listed : Path.names (Path.joinAll root (front ++ [name])) =
      Path.names root ++ front ++ [name] := by
    rw [Path.names_joinAll named, List.append_assoc]
  have other : name ≠ ".." := fun same => downward (by simp [same])
  rw [Path.extension?, Path.fileName?_of_names listed other, Option.bind_some]

theorem isSelected_joinAll {root : String} {names : Location} (further : names ≠ [])
    (named : ∀ name ∈ names, Path.IsName name) (downward : ".." ∉ names) :
    isSelected root (Path.joinAll root names) = isDocument names := by
  obtain ⟨rest, cut, parts⟩ := Path.components_relativeTo?_joinAll root named
  obtain ⟨front, name, rfl⟩ := (List.eq_nil_or_concat' names).resolve_left further
  rw [isSelected, cut, Option.getD_some, parts, isDocument, extension?_joinAll root named downward,
    List.getLast?_concat]

theorem components_joinAll_lt_iff (root : String) {first second : Location}
    (named : ∀ name ∈ first, Path.IsName name) (namedToo : ∀ name ∈ second, Path.IsName name) :
    Path.components (Path.joinAll root first) < Path.components (Path.joinAll root second) ↔
      first < second := by
  rw [Path.components_joinAll named, Path.components_joinAll namedToo]
  induction Path.components root with
  | nil => exact Iff.rfl
  | cons name rest ih => simpa [List.cons_lt_cons_iff] using ih

/-! ### The documents below a root -/

theorem documentBelow?_eq_some_iff {root : String} {location names : Location}
    {entry : Location × Node} :
    documentBelow? root location entry = some names ↔
      names ≠ [] ∧ (∃ content, entry = (location ++ names, .file content)) ∧
        isDocument names = true ∧ isReached root names = true := by
  obtain ⟨place, node⟩ := entry
  rw [documentBelow?]
  by_cases within : location <+: place
  · obtain ⟨rest, rfl⟩ := within
    have length : location.length < (location ++ rest).length ↔ rest ≠ [] := by
      simp [List.length_pos_iff]
    cases node with
    | directory => simp
    | file content =>
        simp only [List.isPrefixOf_iff_prefix.mpr (List.prefix_append location rest), length,
          Bool.true_and, List.drop_left, Prod.mk.injEq, List.append_cancel_left_eq]
        grind
  · have apart : ¬(location.isPrefixOf place && location.length < place.length) = true := by
      simp [List.isPrefixOf_iff_prefix, within]
    rw [if_neg apart]
    refine iff_of_false (by simp) ?_
    rintro ⟨-, ⟨content, same⟩, -⟩
    obtain ⟨rfl, -⟩ := Prod.mk.inj same
    exact within (List.prefix_append location names)

section Below

variable {tree : FileTree} (wellFormed : tree.IsWellFormed) {root : String} {location : Location}
include wellFormed

theorem mem_documentsBelow {names : Location} :
    names ∈ documentsBelow tree root location ↔
      names ≠ [] ∧ tree.IsFileBelow root location names ∧ isDocument names = true := by
  rw [documentsBelow_eq, List.mem_mergeSort, List.mem_filterMap]
  simp only [documentBelow?_eq_some_iff]
  constructor
  · rintro ⟨_, member, further, ⟨content, rfl⟩, document, reached⟩
    have found := wellFormed.node?_of_mem (by simp [further]) member
    exact ⟨further, ⟨⟨content, found⟩, reached⟩, document⟩
  · rintro ⟨further, ⟨⟨content, found⟩, reached⟩, document⟩
    have member := mem_entries_of_node? (by simp [further]) found
    exact ⟨_, member, further, ⟨content, rfl⟩, document, reached⟩

theorem nodup_documentsBelow : (documentsBelow tree root location).Nodup := by
  rw [documentsBelow_eq, (List.mergeSort_perm _ _).nodup_iff, List.Nodup, List.pairwise_filterMap]
  refine (List.pairwise_map.mp wellFormed.distinct).imp ?_
  intro entry later apart names found other foundToo same
  obtain ⟨-, ⟨_, rfl⟩, -⟩ := documentBelow?_eq_some_iff.mp found
  obtain ⟨-, ⟨_, rfl⟩, -⟩ := documentBelow?_eq_some_iff.mp foundToo
  exact apart (by rw [same])

end Below

theorem atMost_iff (first second : Location) : atMost first second = true ↔ first ≤ second := by
  simp [atMost]

theorem pairwise_mergeSort_atMost (names : List Location) :
    (names.mergeSort atMost).Pairwise (· ≤ ·) := by
  have transitive (first second third : Location) : atMost first second = true →
      atMost second third = true → atMost first third = true := by
    simpa only [atMost_iff] using le_trans
  have total (first second : Location) : (atMost first second || atMost second first) = true := by
    simpa only [Bool.or_eq_true, atMost_iff] using le_total first second
  have sorted := List.pairwise_mergeSort transitive total names
  simpa only [atMost_iff] using sorted

theorem mergeSort_atMost_congr {first second : List Location} (same : first.Perm second) :
    first.mergeSort atMost = second.mergeSort atMost := by
  have sorted := pairwise_mergeSort_atMost first
  have sortedToo := pairwise_mergeSort_atMost second
  refine List.Perm.eq_of_pairwise (fun _ _ _ _ => le_antisymm) sorted sortedToo ?_
  exact (List.mergeSort_perm _ _).trans (same.trans (List.mergeSort_perm _ _).symm)

theorem documents_of_directory {tree : FileTree} {root : String} {location : Location}
    (reached : tree.destination root = .ok (.present location .directory)) :
    documents tree root = (documentsBelow tree root location).map (Path.joinAll root) := by
  rw [documents, reached]

/-- The path is that of a document file at a root in the directory at a location: the names lead to
the file, none of them hides it, and each directory on the way can be opened. -/
structure IsDocumentPath (tree : FileTree) (root : String) (location : Location) (path : String)
    (names : Location) : Prop where
  below : names ≠ []
  joined : path = Path.joinAll root names
  relative : Path.components path = Path.components root ++ names
  file : ∃ content, tree.node? (location ++ names) = some (.file content)
  format : Path.extension? path = some "toml" ∨ Path.extension? path = some "json"
  visible : ∀ name ∈ names, name.toList.head? ≠ some '.' ∧ name ≠ "target"
  reached : ∀ above, above <+: names → above ≠ names →
    (Path.joinAll root above).utf8ByteSize < pathLimit

theorem isDocument_iff (root : String) {names : Location} (further : names ≠ [])
    (named : ∀ name ∈ names, Path.IsName name) (downward : ".." ∉ names) :
    isDocument names = true ↔
      (Path.extension? (Path.joinAll root names) = some "toml" ∨
        Path.extension? (Path.joinAll root names) = some "json") ∧
      ∀ name ∈ names, name.toList.head? ≠ some '.' ∧ name ≠ "target" := by
  obtain ⟨front, name, rfl⟩ := (List.eq_nil_or_concat' names).resolve_left further
  rw [isDocument, List.getLast?_concat, extension?_joinAll root named downward, Bool.and_eq_true]
  refine and_congr ?_ ?_
  · cases Path.extensionOf name.toList <;> simp [documentExtensions]
  · simp only [Bool.not_eq_true', List.any_eq_false, isHidden]
    simp

theorem isReached_iff (root : String) {names : Location} (further : names ≠ [])
    (named : ∀ name ∈ names, Path.IsName name) :
    isReached root names = true ↔ ∀ above, above <+: names → above ≠ names →
      (Path.joinAll root above).utf8ByteSize < pathLimit := by
  constructor
  · intro reached above within other
    obtain ⟨rest, rfl⟩ := within
    have longer : rest ≠ [] := fun none => other (by rw [none, List.append_nil])
    have single : ∀ part ∈ rest.dropLast, Path.IsName part := fun part member =>
      named part (List.mem_append_right above (List.mem_of_mem_dropLast member))
    have size := Path.le_utf8ByteSize_joinAll (Path.joinAll root above) single
    rw [isReached, List.dropLast_append_of_ne_nil longer, Path.joinAll,
      List.foldl_append] at reached
    exact Nat.lt_of_le_of_lt size (of_decide_eq_true reached)
  · intro reached
    refine decide_eq_true (reached names.dropLast (List.dropLast_prefix names) fun same => ?_)
    have shorter := congrArg List.length same
    rw [List.length_dropLast] at shorter
    have := List.length_pos_iff.mpr further
    omega

section Selected

variable {tree : FileTree} (wellFormed : tree.IsWellFormed) {root : String} {location : Location}
  (reached : tree.destination root = .ok (.present location .directory))
include wellFormed

theorem named_of_mem_documentsBelow {names : Location}
    (member : names ∈ documentsBelow tree root location) :
    ∀ name ∈ names, Path.IsName name := by
  obtain ⟨-, file, -⟩ := (mem_documentsBelow wellFormed).mp member
  exact file.named wellFormed

include reached

/-- What is selected from any walk are the documents. -/
theorem select_eq_documents {visited : List String} (walk : tree.WalksBelow root location visited) :
    select root visited = documents tree root := by
  have short := (destination_eq_ok_iff.mp reached).1.short
  obtain ⟨found, rfl, once, complete⟩ := walk.visited_eq wellFormed short
  have named {names : Location} (member : names ∈ found) : ∀ name ∈ names, Path.IsName name :=
    ((complete names).mp member).2.named wellFormed
  have selected : (found.map (Path.joinAll root)).filter (isSelected root) =
      (found.filter isDocument).map (Path.joinAll root) := by
    rw [List.filter_map]
    congr 1
    refine List.filter_congr fun names member => ?_
    obtain ⟨further, file⟩ := (complete names).mp member
    exact isSelected_joinAll further (named member) (file.downward wellFormed)
  have same : (found.filter isDocument).Perm (documentsBelow tree root location) := by
    refine (List.perm_ext_iff_of_nodup (once.filter _) (nodup_documentsBelow wellFormed)).mpr ?_
    intro names
    rw [List.mem_filter, complete, mem_documentsBelow wellFormed, and_assoc]
  rw [documents_of_directory reached, select, selected, ← List.map_mergeSort (r := atMost)]
  · congr 1
    rw [documentsBelow_eq] at same ⊢
    exact mergeSort_atMost_congr (same.trans (List.mergeSort_perm _ _))
  · intro first member second memberToo
    have ordered := components_joinAll_lt_iff root (named (List.mem_of_mem_filter memberToo))
      (named (List.mem_of_mem_filter member))
    simp only [atMost, ordered]

theorem pairwise_documents :
    (documents tree root).Pairwise
      fun first second => Path.components first < Path.components second := by
  rw [documents_of_directory reached, List.pairwise_map]
  have sorted : (documentsBelow tree root location).Pairwise (· ≤ ·) := by
    rw [documentsBelow_eq]
    exact pairwise_mergeSort_atMost _
  refine (sorted.and (nodup_documentsBelow wellFormed)).imp_of_mem ?_
  intro first second member memberToo before
  exact (components_joinAll_lt_iff root (named_of_mem_documentsBelow wellFormed member)
    (named_of_mem_documentsBelow wellFormed memberToo)).mpr (lt_of_le_of_ne before.1 before.2)

theorem mem_documents_iff {path : String} :
    path ∈ documents tree root ↔ ∃ names, IsDocumentPath tree root location path names := by
  rw [documents_of_directory reached, List.mem_map]
  constructor
  · rintro ⟨names, member, rfl⟩
    obtain ⟨further, file, document⟩ := (mem_documentsBelow wellFormed).mp member
    have named := file.named wellFormed
    have downward := file.downward wellFormed
    obtain ⟨format, visible⟩ := (isDocument_iff root further named downward).mp document
    exact ⟨names, further, rfl, Path.components_joinAll named, file.file, format, visible,
      (isReached_iff root further named).mp file.reached⟩
  · rintro ⟨names, further, rfl, -, ⟨content, found⟩, format, visible, entered⟩
    have named := wellFormed.named_of_below found
    have downward := wellFormed.downward_of_below found
    have opened := (isReached_iff root further named).mpr entered
    have document := (isDocument_iff root further named downward).mpr ⟨format, visible⟩
    exact ⟨names, (mem_documentsBelow wellFormed).mpr
      ⟨further, ⟨⟨content, found⟩, opened⟩, document⟩, rfl⟩

end Selected

/-- The documents at a root are, in the order of their components and each once, the files below it
that have the extension of a document and are neither hidden nor build output, as far as the
directories on the way can be opened.  Every walk gives these, in whatever order it lists the
directories.  A root that is a file is its only document, and at a missing root there is none. -/
theorem documents_exact {tree : FileTree} (wellFormed : tree.IsWellFormed) (root : String) :
    (∀ location content, tree.destination root = .ok (.present location (.file content)) →
      documents tree root = [root]) ∧
    (tree.hasPath root = false → documents tree root = []) ∧
    ∀ location, tree.destination root = .ok (.present location .directory) →
      (documents tree root).Pairwise
        (fun first second => Path.components first < Path.components second) ∧
      (∀ path, path ∈ documents tree root ↔
        ∃ names, IsDocumentPath tree root location path names) ∧
      (∃ visited, tree.WalksBelow root location visited) ∧
      ∀ visited, tree.WalksBelow root location visited →
        select root visited = documents tree root := by
  refine ⟨fun location content reached => ?_, fun missing => ?_, fun location reached => ?_⟩
  · rw [documents, reached]
  · unfold documents
    split
    · next reached => simp [hasPath, reached] at missing
    · next reached => simp [hasPath, reached] at missing
    · rfl
  · exact ⟨pairwise_documents wellFormed reached, fun path => mem_documents_iff wellFormed reached,
      tree.exists_walksBelow root location, fun visited walk =>
        select_eq_documents wellFormed reached walk⟩

/-- A project below a directory that is named like build output. -/
def projectTree : FileTree :=
  ⟨[(["target"], .directory), (["target", "b.toml"], .file "".toUTF8),
    (["target", "b"], .directory), (["target", "b", "a.json"], .file "\x7b\x7d".toUTF8),
    (["target", "b", "notes.md"], .file "".toUTF8), (["target", "b", "target"], .directory),
    (["target", "b", "target", "c.toml"], .file "".toUTF8), (["target", ".cache"], .directory),
    (["target", ".cache", "d.toml"], .file "".toUTF8)], [], []⟩

theorem documents_exact_on_projectTree :
    projectTree.IsWellFormed ∧
      projectTree.destination "target/b/notes.md" =
        .ok (.present ["target", "b", "notes.md"] (.file "".toUTF8)) ∧
      documents projectTree "target/b/notes.md" = ["target/b/notes.md"] ∧
      projectTree.hasPath "missing" = false ∧ documents projectTree "missing" = [] ∧
      projectTree.destination "target" = .ok (.present ["target"] .directory) ∧
      ∃ visited, projectTree.WalksBelow "target" ["target"] visited ∧
        select "target" visited = ["target/b/a.json", "target/b.toml"] := by
  have wellFormed : projectTree.IsWellFormed := by decide +kernel
  have file : projectTree.destination "target/b/notes.md" =
      .ok (.present ["target", "b", "notes.md"] (.file "".toUTF8)) := by decide +kernel
  have missing : projectTree.hasPath "missing" = false := by decide +kernel
  have directory : projectTree.destination "target" = .ok (.present ["target"] .directory) := by
    decide +kernel
  have found : documents projectTree "target" = ["target/b/a.json", "target/b.toml"] := by
    have files : projectTree.entries.filterMap (documentBelow? "target" ["target"]) =
        [["b.toml"], ["b", "a.json"]] := by decide +kernel
    have swapped : atMost ["b.toml"] ["b", "a.json"] = false := by decide
    have sorted : [["b.toml"], ["b", "a.json"]].mergeSort atMost =
        [["b", "a.json"], ["b.toml"]] := by simp [List.mergeSort, swapped]
    rw [documents_of_directory directory, documentsBelow_eq, files, sorted]
    decide
  obtain ⟨-, -, ⟨visited, walk⟩, every⟩ :=
    (documents_exact wellFormed "target").2.2 ["target"] directory
  exact ⟨wellFormed, file, (documents_exact wellFormed _).1 _ _ file, missing,
    (documents_exact wellFormed _).2.1 missing, directory, visited, walk,
    (every visited walk).trans found⟩

/-! ### A directory that cannot be opened -/

/-- The directory `x`, with slashes after it. -/
def slashedPath (count : Nat) : String :=
  "x" ++ Text.repeated count "/"

theorem toList_slashedPath (count : Nat) :
    (slashedPath count).toList = 'x' :: List.replicate count '/' := by
  have flat : (List.replicate count ['/']).flatten = List.replicate count '/' := by
    simp [List.flatten_replicate_singleton]
  rw [slashedPath, String.toList_append, Text.toList_repeated]
  exact congrArg (List.cons 'x') flat

theorem utf8ByteSize_slashedPath (count : Nat) : (slashedPath count).utf8ByteSize = count + 1 := by
  have slashes : (Text.repeated count "/").utf8ByteSize = count := by
    induction count with
    | zero => rfl
    | succ count ih =>
        rw [Text.repeated, List.replicate_succ, Text.concat_cons, String.utf8ByteSize_append,
          ← Text.repeated, ih]
        exact Nat.add_comm 1 count
  rw [slashedPath, String.utf8ByteSize_append, slashes]
  exact Nat.add_comm 1 count

theorem pieces_slashedPath (count : Nat) :
    Text.pieces '/' (slashedPath count) = "x" :: List.replicate count "" := by
  have slashes (piece : List Char) (clean : '/' ∉ piece) :
      Text.splitOn '/' (piece ++ List.replicate count '/') = piece :: List.replicate count [] := by
    induction count generalizing piece with
    | zero => simpa using Text.splitOn_of_not_mem clean
    | succ count ih =>
        rw [List.replicate_succ, Text.splitOn_append, Text.splitOn_of_not_mem clean]
        exact congrArg (List.cons piece) (ih [] List.not_mem_nil)
  rw [Text.pieces, toList_slashedPath]
  rw [show 'x' :: List.replicate count '/' = ['x'] ++ List.replicate count '/' from rfl,
    slashes ['x'] (by decide)]
  simp

theorem join_slashedPath {count : Nat} (ends : 0 < count) {part : String}
    (relative : ¬Path.IsRooted part) :
    Path.join (slashedPath count) part = slashedPath count ++ part := by
  have last : (slashedPath count).toList.getLast? = some '/' := by
    obtain ⟨fewer, rfl⟩ := Nat.exists_eq_add_one_of_ne_zero ends.ne'
    rw [toList_slashedPath, List.replicate_succ', ← List.cons_append, List.getLast?_concat]
  rw [Path.join_of_relative _ relative, if_pos]
  simp [last]

/-- A tree with a document two directories down. -/
def deepTree : FileTree :=
  ⟨[(["x"], .directory), (["x", "nested"], .directory),
    (["x", "nested", "a.toml"], .file "".toUTF8)], [], []⟩

theorem destination_slashedPath {count : Nat} (short : count + 1 < pathLimit) :
    deepTree.destination (slashedPath count) = .ok (.present ["x"] .directory) := by
  refine destination_eq_ok_iff.mpr ⟨⟨?_, ?_, ?_⟩, .directory ?_⟩
  · simp [toList_slashedPath]
  · intro empty
    have text := toList_slashedPath count
    simp [empty] at text
  · rwa [utf8ByteSize_slashedPath]
  · have stays : deepTree.Leads ["x"] (List.replicate count "") ["x"] := by
      induction count with
      | zero => exact .here _
      | succ count ih => exact .stay (by decide) (ih (by omega))
    have place : deepTree.start (slashedPath count) = [] := by
      simp [start, deepTree]
    rw [pieces_slashedPath, place]
    exact .down ⟨by decide, by decide, by decide⟩ (by decide) stays

/-- A document is passed over if the path of its directory is too long, though its own location is
not deep. -/
theorem deep_document_passed_over :
    deepTree.IsWellFormed ∧
      deepTree.destination (slashedPath 4090) = .ok (.present ["x"] .directory) ∧
      deepTree.node? (["x"] ++ ["nested", "a.toml"]) = some (.file "".toUTF8) ∧
      Path.extension? (Path.joinAll (slashedPath 4090) ["nested", "a.toml"]) = some "toml" ∧
      (∀ name ∈ ["nested", "a.toml"], name.toList.head? ≠ some '.' ∧ name ≠ "target") ∧
      Path.joinAll (slashedPath 4090) ["nested", "a.toml"] ∉
        documents deepTree (slashedPath 4090) := by
  have wellFormed : deepTree.IsWellFormed := by decide +kernel
  have named : ∀ name ∈ ["nested", "a.toml"], Path.IsName name := by decide
  have directory : deepTree.destination (slashedPath 4090) = .ok (.present ["x"] .directory) :=
    destination_slashedPath (by decide)
  refine ⟨wellFormed, directory, by decide +kernel, ?_, by decide, fun found => ?_⟩
  · exact (@extension?_joinAll (slashedPath 4090) ["nested"] "a.toml" named (by decide)).trans
      (by decide)
  · obtain ⟨names, document⟩ := (mem_documents_iff wellFormed directory).mp found
    have same := document.relative
    rw [Path.components_joinAll named] at same
    obtain rfl := List.append_cancel_left same
    have opened := document.reached ["nested"] (by simp) (by simp)
    rw [Path.joinAll, List.foldl_cons, List.foldl_nil, join_slashedPath (by decide) (by decide),
      String.utf8ByteSize_append, utf8ByteSize_slashedPath] at opened
    exact absurd opened (by decide)

end Discovery
end ValueMethods
