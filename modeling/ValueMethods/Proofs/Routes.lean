import ValueMethods.Proofs.PathNames

/-!
# Where paths lead

The names of a path lead from one directory to the next, and a path comes to a directory, to a file
in one, or to a free name in one.  Following is the same as this reading, so what a path leads to
can be carried from one tree to another.  A path without two dots comes to the place that its names
spell out.
-/

namespace ValueMethods
namespace Path

/-- The name is that of an entry of a directory, and it is short enough. -/
structure IsProper (name : String) : Prop where
  visible : isVoid name.toList = false
  downward : name ≠ ".."
  short : name.utf8ByteSize ≤ FileTree.nameLimit

/-- The system takes the text for a path. -/
structure IsUsable (path : String) : Prop where
  noNul : '\x00' ∉ path.toList
  nonempty : path ≠ ""
  short : path.utf8ByteSize < FileTree.pathLimit

theorem filter_blanks {blanks : List String} (blank : ∀ other ∈ blanks, other = "") :
    (blanks.filter fun name => !isVoid name.toList) = [] := by
  refine List.filter_eq_nil_iff.mpr fun other member => ?_
  rw [blank other member]
  decide

end Path

/-- The location at the end of a path. -/
def Destination.location : Destination → Location
  | .present location _ => location
  | .absent location => location

namespace FileTree

/-- The names lead from one directory to another. -/
inductive Leads (tree : FileTree) : Location → List String → Location → Prop
  | here (place : Location) : Leads tree place [] place
  | stay {place target : Location} {name : String} {rest : List String}
      (void : Path.isVoid name.toList = true) (onward : Leads tree place rest target) :
      Leads tree place (name :: rest) target
  | up {place target : Location} {rest : List String}
      (onward : Leads tree place.dropLast rest target) : Leads tree place (".." :: rest) target
  | down {place target : Location} {name : String} {rest : List String}
      (proper : Path.IsProper name) (inside : tree.node? (place ++ [name]) = some .directory)
      (onward : Leads tree (place ++ [name]) rest target) :
      Leads tree place (name :: rest) target

section Follow
variable {tree : FileTree} {place : Location} {name : String} {rest : List String}

theorem follow_void (void : Path.isVoid name.toList = true) :
    tree.follow place (name :: rest) = tree.follow place rest := by
  have skipped := (Path.isVoid_iff name).mp void
  rw [follow, if_pos (by simpa using skipped)]

theorem follow_up : tree.follow place (".." :: rest) = tree.follow place.dropLast rest := by
  rw [follow, if_neg (by decide), if_pos rfl]

section Proper

variable (proper : Path.IsProper name)
include proper

theorem not_skipped : ¬(decide (name = "") || decide (name = ".")) = true := by
  have visible := mt (Path.isVoid_iff name).mpr (by simp [proper.visible])
  simpa using visible

theorem follow_directory (found : tree.node? (place ++ [name]) = some .directory) :
    tree.follow place (name :: rest) = tree.follow (place ++ [name]) rest := by
  rw [follow, if_neg (not_skipped proper), if_neg proper.downward,
    if_neg (Nat.not_lt.mpr proper.short), found]

theorem follow_file {content : ByteArray}
    (found : tree.node? (place ++ [name]) = some (.file content)) :
    tree.follow place (name :: rest) =
      if rest = [] then .ok (.present (place ++ [name]) (.file content))
      else .error .notDirectory := by
  rw [follow, if_neg (not_skipped proper), if_neg proper.downward,
    if_neg (Nat.not_lt.mpr proper.short), found]

theorem follow_free (missing : tree.node? (place ++ [name]) = none) :
    tree.follow place (name :: rest) =
      if rest.all String.isEmpty then .ok (.absent (place ++ [name])) else .error .notFound := by
  rw [follow, if_neg (not_skipped proper), if_neg proper.downward,
    if_neg (Nat.not_lt.mpr proper.short), missing]

end Proper

/-- A name is void, leads up, is proper, or is too long. -/
theorem follow_long (visible : Path.isVoid name.toList = false) (downward : name ≠ "..")
    (long : ¬Path.IsProper name) : tree.follow place (name :: rest) = .error .nameTooLong := by
  have tooLong : nameLimit < name.utf8ByteSize :=
    Nat.lt_of_not_le fun short => long ⟨visible, downward, short⟩
  have skipped := mt (Path.isVoid_iff name).mpr (by simp [visible])
  rw [follow, if_neg (by simpa using skipped), if_neg downward, if_pos tooLong]
end Follow

theorem Leads.follow_append {tree : FileTree} {place target : Location} {names : List String}
    (leads : tree.Leads place names target) (rest : List String) :
    tree.follow place (names ++ rest) = tree.follow target rest := by
  induction leads with
  | here place => rfl
  | stay void _ ih => rw [List.cons_append, follow_void void, ih]
  | up _ ih => rw [List.cons_append, follow_up, ih]
  | down proper inside _ ih => rw [List.cons_append, follow_directory proper inside, ih]

/-- What following names comes to, if nothing is in the way. -/
inductive Follows (tree : FileTree) (place : Location) (names : List String) : Destination → Prop
  | directory {target : Location} (leads : tree.Leads place names target) :
      Follows tree place names (.present target .directory)
  | file {front : List String} {name : String} {target : Location} {content : ByteArray}
      (shape : names = front ++ [name]) (leads : tree.Leads place front target)
      (proper : Path.IsProper name) (found : tree.node? (target ++ [name]) = some (.file content)) :
      Follows tree place names (.present (target ++ [name]) (.file content))
  | free {front blanks : List String} {name : String} {target : Location}
      (shape : names = front ++ name :: blanks) (blank : ∀ other ∈ blanks, other = "")
      (leads : tree.Leads place front target) (proper : Path.IsProper name)
      (missing : tree.node? (target ++ [name]) = none) :
      Follows tree place names (.absent (target ++ [name]))

theorem follows_of_follow {tree : FileTree} {place : Location} {names : List String}
    {destination : Destination} (reached : tree.follow place names = .ok destination) :
    tree.Follows place names destination := by
  induction names generalizing place with
  | nil =>
      obtain rfl := Except.ok.inj reached
      exact .directory (.here place)
  | cons name rest ih =>
      -- A step into a directory is put in front of what the rest comes to.
      have further {next : Location}
          (step : ∀ {names target}, tree.Leads next names target →
            tree.Leads place (name :: names) target)
          (reached : tree.follow next rest = .ok destination) :
          tree.Follows place (name :: rest) destination := by
        cases ih reached with
        | directory leads => exact .directory (step leads)
        | file shape leads proper found =>
            exact .file (congrArg (List.cons name) shape) (step leads) proper found
        | free shape blank leads proper missing =>
            exact .free (congrArg (List.cons name) shape) blank (step leads) proper missing
      by_cases void : Path.isVoid name.toList = true
      · rw [follow_void void] at reached
        exact further (.stay void) reached
      by_cases upward : name = ".."
      · subst upward
        rw [follow_up] at reached
        exact further .up reached
      by_cases proper : Path.IsProper name
      · cases found : tree.node? (place ++ [name]) with
        | none =>
            rw [follow_free proper found] at reached
            split at reached
            · next blank =>
                obtain rfl := Except.ok.inj reached
                have empty : ∀ other ∈ rest, other = "" := by
                  simpa [String.isEmpty_iff] using blank
                exact .free (List.nil_append _).symm empty (.here place) proper found
            · simp at reached
        | some node => cases node with
          | directory =>
              rw [follow_directory proper found] at reached
              exact further (.down proper found) reached
          | file content =>
              rw [follow_file proper found] at reached
              split at reached
              · next last =>
                  subst last
                  obtain rfl := Except.ok.inj reached
                  exact .file (List.nil_append _).symm (.here place) proper found
              · simp at reached
      · rw [follow_long (by simpa using void) upward proper] at reached
        simp at reached

theorem Follows.follow_eq {tree : FileTree} {place : Location} {names : List String}
    {destination : Destination} (follows : tree.Follows place names destination) :
    tree.follow place names = .ok destination := by
  cases follows with
  | directory leads => simpa [follow] using leads.follow_append []
  | file shape leads proper found =>
      rw [shape, leads.follow_append, follow_file proper found, if_pos rfl]
  | free shape blank leads proper missing =>
      rw [shape, leads.follow_append, follow_free proper missing]
      exact if_pos (by simpa [String.isEmpty_iff] using blank)

theorem follow_eq_ok_iff {tree : FileTree} {place : Location} {names : List String}
    {destination : Destination} :
    tree.follow place names = .ok destination ↔ tree.Follows place names destination :=
  ⟨follows_of_follow, Follows.follow_eq⟩

/-! ### Where names lead -/

section Leads

variable {tree : FileTree} {place target : Location} {names : List String}

theorem Leads.append {back : List String} {final : Location} (leads : tree.Leads place names target)
    (onward : tree.Leads target back final) : tree.Leads place (names ++ back) final := by
  induction leads with
  | here place => exact onward
  | stay void _ ih => exact .stay void (ih onward)
  | up _ ih => exact .up (ih onward)
  | down proper inside _ ih => exact .down proper inside (ih onward)

theorem Leads.of_append {front back : List String}
    (leads : tree.Leads place (front ++ back) target) :
    ∃ between, tree.Leads place front between ∧ tree.Leads between back target := by
  induction front generalizing place with
  | nil => exact ⟨place, .here place, leads⟩
  | cons name rest ih => cases leads with
    | stay void onward =>
        obtain ⟨between, first, second⟩ := ih onward
        exact ⟨between, .stay void first, second⟩
    | up onward =>
        obtain ⟨between, first, second⟩ := ih onward
        exact ⟨between, .up first, second⟩
    | down proper inside onward =>
        obtain ⟨between, first, second⟩ := ih onward
        exact ⟨between, .down proper inside first, second⟩

/-- Names lead the same way as long as directories stay directories. -/
theorem Leads.mono {after : FileTree}
    (kept : ∀ location, tree.node? location = some .directory →
      after.node? location = some .directory)
    (leads : tree.Leads place names target) : after.Leads place names target := by
  induction leads with
  | here place => exact .here place
  | stay void _ ih => exact .stay void ih
  | up _ ih => exact .up ih
  | down proper inside _ ih => exact .down proper (kept _ inside) ih

/-- The names lead to one directory only. -/
theorem Leads.unique {other : Location} (leads : tree.Leads place names target)
    (leadsToo : tree.Leads place names other) : target = other := by
  have reached := (Follows.directory leads).follow_eq
  rw [(Follows.directory leadsToo).follow_eq] at reached
  simpa using reached.symm

/-- Without a step upward, the names that are not void lead further down. -/
theorem Leads.location_eq (leads : tree.Leads place names target) (straight : ".." ∉ names) :
    target = place ++ names.filter fun name => !Path.isVoid name.toList := by
  induction leads with
  | here place => simp
  | stay void _ ih =>
      rw [ih (fun later => straight (List.mem_cons_of_mem _ later))]
      simp [void]
  | up _ _ => exact absurd List.mem_cons_self straight
  | down proper _ _ ih =>
      rw [ih (fun later => straight (List.mem_cons_of_mem _ later))]
      simp [proper.visible]

theorem Follows.location_eq {destination : Destination}
    (follows : tree.Follows place names destination) (straight : ".." ∉ names) :
    destination.location = place ++ names.filter fun name => !Path.isVoid name.toList := by
  cases follows with
  | directory leads => exact leads.location_eq straight
  | file shape leads proper _ =>
      subst shape
      rw [List.mem_append, not_or] at straight
      simp [Destination.location, leads.location_eq straight.1, proper.visible]
  | @free front blanks name target shape blank leads proper _ =>
      subst shape
      rw [List.mem_append, not_or] at straight
      simp [Destination.location, leads.location_eq straight.1, proper.visible,
        Path.filter_blanks blank]

end Leads

/-! ### Following a path -/

/-- Where a path starts. -/
def start (tree : FileTree) (path : String) : Location :=
  if Path.IsRooted path then [] else tree.current

theorem destination_eq_ok_iff {tree : FileTree} {path : String} {destination : Destination} :
    tree.destination path = .ok destination ↔
      Path.IsUsable path ∧
        tree.Follows (tree.start path) (Text.pieces '/' path) destination := by
  rw [← follow_eq_ok_iff, FileTree.destination, start]
  by_cases nul : '\x00' ∈ path.toList
  · exact iff_of_false (by simp [nul]) fun usable => usable.1.noNul nul
  by_cases empty : path = ""
  · exact iff_of_false (by simp [empty]) fun usable => usable.1.nonempty empty
  by_cases long : pathLimit ≤ path.utf8ByteSize
  · exact iff_of_false (by simp [nul, empty, long]) fun usable =>
      Nat.not_lt.mpr long usable.1.short
  have usable : Path.IsUsable path := ⟨nul, empty, Nat.lt_of_not_le long⟩
  rw [if_neg nul, if_neg (by simpa using empty), if_neg long]
  by_cases rooted : path.toList.head? = some '/' <;> simp [Path.IsRooted, rooted, usable]

/-! ### Entries of directories -/

/-- The path ends with a proper name, and what is in front of it leads to a directory; together they
make up the location. -/
structure Designates (tree : FileTree) (path : String) (location : Location) : Prop where
  usable : Path.IsUsable path
  entry : ∃ front name target, Text.pieces '/' path = front ++ [name] ∧
    tree.Leads (tree.start path) front target ∧ Path.IsProper name ∧ location = target ++ [name]

theorem Designates.mono {tree after : FileTree} {path : String} {location : Location}
    (kept : ∀ location, tree.node? location = some .directory →
      after.node? location = some .directory)
    (current : after.current = tree.current) (designates : tree.Designates path location) :
    after.Designates path location := by
  obtain ⟨usable, front, name, target, shape, leads, proper, same⟩ := designates
  have started : after.start path = tree.start path := by rw [start, start, current]
  exact ⟨usable, front, name, target, shape, started ▸ leads.mono kept, proper, same⟩

theorem Designates.exists_destination {tree : FileTree} {path : String} {location : Location}
    (designates : tree.Designates path location) :
    ∃ destination, tree.destination path = .ok destination ∧ destination.location = location := by
  obtain ⟨usable, front, name, target, shape, leads, proper, rfl⟩ := designates
  simp only [destination_eq_ok_iff]
  cases found : tree.node? (target ++ [name]) with
  | none =>
      have noBlanks : ∀ other ∈ ([] : List String), other = "" := by simp
      exact ⟨.absent _, ⟨usable, .free shape noBlanks leads proper found⟩, rfl⟩
  | some node => cases node with
    | file content => exact ⟨.present _ _, ⟨usable, .file shape leads proper found⟩, rfl⟩
    | directory =>
        have inside := leads.append (.down proper found (.here _))
        exact ⟨.present _ _, ⟨usable, .directory (shape ▸ inside)⟩, rfl⟩

theorem destination_eq_file_iff {tree : FileTree} {path : String} {location : Location}
    {content : ByteArray} :
    tree.destination path = .ok (.present location (.file content)) ↔
      tree.Designates path location ∧ tree.node? location = some (.file content) := by
  rw [destination_eq_ok_iff]
  constructor
  · rintro ⟨usable, follows⟩
    cases follows with
    | file shape leads proper found => exact ⟨⟨usable, _, _, _, shape, leads, proper, rfl⟩, found⟩
  · rintro ⟨⟨usable, front, name, target, shape, leads, proper, rfl⟩, found⟩
    exact ⟨usable, .file shape leads proper found⟩

theorem getLast?_splitOn_ne {separator : Char} {text : List Char} (nonempty : text ≠ [])
    (last : text.getLast? ≠ some separator) :
    (Text.splitOn separator text).getLast? ≠ some [] := by
  induction text with
  | nil => exact absurd rfl nonempty
  | cons c rest ih =>
      by_cases single : rest = []
      · subst single
        have other : c ≠ separator := by simpa using last
        simp [Text.splitOn, other]
      · have further := ih single (by rwa [List.getLast?_cons_of_ne_nil single] at last)
        have pieces := Text.splitOn_ne_nil separator rest
        rw [Text.splitOn]
        split
        · rwa [List.getLast?_cons_of_ne_nil pieces]
        · split
          · next nothing => exact absurd nothing pieces
          · next piece others split =>
              cases others with
              | nil => simp
              | cons next others => simpa [split] using further

theorem designates_of_absent {tree : FileTree} {path : String} {location : Location}
    (free : tree.destination path = .ok (.absent location))
    (last : path.toList.getLast? ≠ some '/') :
    tree.Designates path location ∧ tree.node? location = none := by
  obtain ⟨usable, follows⟩ := destination_eq_ok_iff.mp free
  cases follows with
  | @free front blanks name target shape blank leads proper missing =>
      have nonempty : path.toList ≠ [] := mt String.toList_eq_nil_iff.mp usable.nonempty
      have ends := getLast?_splitOn_ne nonempty last
      have noBlanks : blanks = [] := by
        by_contra trailing
        obtain ⟨more, other, rfl⟩ := (List.eq_nil_or_concat' blanks).resolve_left trailing
        obtain rfl := blank other (by simp)
        have lastPiece : (Text.pieces '/' path).getLast? = some "" := by
          rw [shape, ← List.cons_append, ← List.append_assoc, List.getLast?_concat]
        rw [Text.pieces, List.getLast?_map, Option.map_eq_some_iff] at lastPiece
        obtain ⟨piece, isLast, same⟩ := lastPiece
        obtain rfl : piece = [] := String.ofList_inj.mp same
        exact ends isLast
      subst noBlanks
      exact ⟨⟨usable, front, name, target, shape, leads, proper, rfl⟩, missing⟩

/-- The last name of the path is that of the entry. -/
theorem Designates.fileName?_eq {tree : FileTree} {path : String} {location : Location}
    (designates : tree.Designates path location) :
    Path.fileName? path = location.getLast?.map String.toList := by
  obtain ⟨_, front, name, target, shape, _, proper, rfl⟩ := designates
  have listed : Path.names path =
      (front.filter fun name => !Path.isVoid name.toList) ++ [name] := by
    simp [Path.names, shape, proper.visible]
  rw [Path.fileName?_of_names listed proper.downward, List.getLast?_concat, Option.map_some]

/-- A file is written where its path leads to, unless that is a directory. -/
theorem write_eq_ok {tree after : FileTree} {path : String} {content : ByteArray}
    (written : tree.write path content = .ok after) :
    ∃ location, tree.Designates path location ∧ tree.node? location ≠ some .directory ∧
      after = tree.store location content := by
  unfold write at written
  split at written
  · next location _ reached =>
      obtain ⟨designates, found⟩ := destination_eq_file_iff.mp reached
      exact ⟨location, designates, by simp [found], (Except.ok.inj written).symm⟩
  · simp at written
  · next location reached =>
      split at written
      · simp at written
      · next last =>
          obtain ⟨designates, missing⟩ := designates_of_absent reached last
          exact ⟨location, designates, by simp [missing], (Except.ok.inj written).symm⟩
  · simp at written

theorem read_eq_ok_iff {tree : FileTree} {path : String} {content : ByteArray} :
    tree.read path = .ok content ↔
      ∃ location, tree.Designates path location ∧
        tree.node? location = some (.file content) := by
  simp only [← destination_eq_file_iff]
  unfold read
  constructor
  · intro readable
    split at readable
    · next location _ reached => exact ⟨location, by rw [reached, Except.ok.inj readable]⟩
    · simp at readable
    · simp at readable
    · simp at readable
  · rintro ⟨location, reached⟩
    rw [reached]

theorem hasPath_iff {tree : FileTree} {path : String} :
    tree.hasPath path = true ↔
      ∃ location node, tree.destination path = .ok (.present location node) := by
  unfold hasPath
  split
  · next location node reached => exact iff_of_true rfl ⟨location, node, reached⟩
  · next other =>
      exact iff_of_false (by simp) fun ⟨location, node, reached⟩ => other location node reached

theorem hasPath_of_read {tree : FileTree} {path : String} {content : ByteArray}
    (readable : tree.read path = .ok content) : tree.hasPath path = true := by
  obtain ⟨location, designates, found⟩ := read_eq_ok_iff.mp readable
  exact hasPath_iff.mpr ⟨location, _, destination_eq_file_iff.mpr ⟨designates, found⟩⟩

theorem not_hasPath_of_read {tree : FileTree} {path : String}
    (missing : tree.read path = .error .notFound) : ¬tree.hasPath path = true := by
  intro present
  obtain ⟨location, node, reached⟩ := hasPath_iff.mp present
  rw [read, reached] at missing
  cases node <;> simp at missing

/-! ### Places spelled out -/

/-- The place that the names of a path spell out, without regard to what is there. -/
def locate (tree : FileTree) (path : String) : Location :=
  tree.start path ++ Path.names path

theorem locate_congr {tree other : FileTree} {path : String}
    (current : other.current = tree.current) : other.locate path = tree.locate path := by
  rw [locate, locate, start, start, current]

theorem start_join (tree : FileTree) (base : String) {part : String}
    (relative : ¬Path.IsRooted part) : tree.start (Path.join base part) = tree.start base := by
  simp only [start, Path.isRooted_join relative]

theorem locate_join (tree : FileTree) (base : String) {part : String}
    (relative : ¬Path.IsRooted part) :
    tree.locate (Path.join base part) = tree.locate base ++ Path.names part := by
  rw [locate, locate, tree.start_join base relative, Path.names_join relative, List.append_assoc]

theorem locate_ancestor (tree : FileTree) {path above : String}
    (member : above ∈ Path.ancestors path) : tree.locate above <+: tree.locate path := by
  obtain ⟨within, rooted⟩ := Path.ancestor member
  simp only [locate, start, rooted]
  exact (List.prefix_append_right_inj _).mpr within

theorem not_mem_pieces {path : String} (straight : ".." ∉ Path.names path) :
    ".." ∉ Text.pieces '/' path := fun member =>
  straight (List.mem_filter.mpr ⟨member, by decide⟩)

theorem location_eq_locate {tree : FileTree} {path : String} {destination : Destination}
    (reached : tree.destination path = .ok destination) (straight : ".." ∉ Path.names path) :
    destination.location = tree.locate path :=
  (destination_eq_ok_iff.mp reached).2.location_eq (not_mem_pieces straight)

theorem Designates.location_eq {tree : FileTree} {path : String} {location : Location}
    (designates : tree.Designates path location) (straight : ".." ∉ Path.names path) :
    location = tree.locate path := by
  obtain ⟨_, front, name, target, shape, leads, proper, rfl⟩ := designates
  have within := not_mem_pieces straight
  rw [shape, List.mem_append, not_or] at within
  simp [locate, Path.names, shape, leads.location_eq within.1, proper.visible]

end FileTree
end ValueMethods
