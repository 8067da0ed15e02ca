import ValueMethods.Proofs.Growth

/-!
# Where paths break off

A path leads nowhere if it goes on behind a file or behind a missing name, or if a name is too long
for the directory that it is looked up in.  What is in the way of reading stays in the way as a tree
grows.  Where nothing was to be found, only a name that is too long can come into the way, unless
something is made or written on the path itself.
-/

namespace ValueMethods
namespace FileTree

/-! ### Where paths break off -/

/-- Why nothing is found by following names: they go on behind a file, a name in a directory that is
there is too long, or they go on behind a name that is missing. -/
inductive BreaksOff (tree : FileTree) (place : Location) (names : List String) : FileError → Prop
  | file {front rest : List String} {name : String} {target : Location} {content : ByteArray}
      (shape : names = front ++ name :: rest) (further : rest ≠ [])
      (leads : tree.Leads place front target) (proper : Path.IsProper name)
      (found : tree.node? (target ++ [name]) = some (.file content)) :
      BreaksOff tree place names .notDirectory
  | long {front rest : List String} {name : String} {target : Location}
      (shape : names = front ++ name :: rest) (leads : tree.Leads place front target)
      (visible : Path.isVoid name.toList = false) (downward : name ≠ "..")
      (long : ¬Path.IsProper name) : BreaksOff tree place names .nameTooLong
  | missing {front rest : List String} {name : String} {target : Location}
      (shape : names = front ++ name :: rest) (further : ¬rest.all String.isEmpty = true)
      (leads : tree.Leads place front target) (proper : Path.IsProper name)
      (free : tree.node? (target ++ [name]) = none) : BreaksOff tree place names .notFound

section BreaksOff

variable {tree : FileTree} {place : Location} {names : List String} {path : String}
  {error : FileError}

theorem BreaksOff.cons {next : Location} {name : String}
    (step : ∀ {names target}, tree.Leads next names target →
      tree.Leads place (name :: names) target)
    (breaks : tree.BreaksOff next names error) : tree.BreaksOff place (name :: names) error := by
  cases breaks with
  | file shape further leads proper found =>
      exact .file (congrArg (List.cons name) shape) further (step leads) proper found
  | long shape leads visible downward long =>
      exact .long (congrArg (List.cons name) shape) (step leads) visible downward long
  | missing shape further leads proper free =>
      exact .missing (congrArg (List.cons name) shape) further (step leads) proper free

theorem breaksOff_of_follow (failed : tree.follow place names = .error error) :
    tree.BreaksOff place names error := by
  induction names generalizing place with
  | nil => simp [follow] at failed
  | cons name rest ih =>
      by_cases void : Path.isVoid name.toList = true
      · rw [follow_void void] at failed
        exact (ih failed).cons (.stay void)
      by_cases upward : name = ".."
      · subst upward
        rw [follow_up] at failed
        exact (ih failed).cons .up
      by_cases proper : Path.IsProper name
      · cases found : tree.node? (place ++ [name]) with
        | none =>
            rw [follow_free proper found] at failed
            split at failed
            · simp at failed
            · next further =>
                obtain rfl := Except.error.inj failed
                exact .missing (List.nil_append _).symm further (.here place) proper found
        | some node => cases node with
          | directory =>
              rw [follow_directory proper found] at failed
              exact (ih failed).cons (.down proper found)
          | file content =>
              rw [follow_file proper found] at failed
              split at failed
              · simp at failed
              · next further =>
                  obtain rfl := Except.error.inj failed
                  exact .file (List.nil_append _).symm further (.here place) proper found
      · have visible : Path.isVoid name.toList = false := by simpa using void
        rw [follow_long visible upward proper] at failed
        obtain rfl := Except.error.inj failed
        exact .long (List.nil_append _).symm (.here place) visible upward proper

theorem BreaksOff.follow_eq (breaks : tree.BreaksOff place names error) :
    tree.follow place names = .error error := by
  cases breaks with
  | file shape further leads proper found =>
      rw [shape, leads.follow_append, follow_file proper found, if_neg further]
  | long shape leads visible downward long =>
      rw [shape, leads.follow_append, follow_long visible downward long]
  | missing shape further leads proper free =>
      rw [shape, leads.follow_append, follow_free proper free, if_neg further]

theorem destination_of_isUsable (usable : Path.IsUsable path) :
    tree.destination path = tree.follow (tree.start path) (Text.pieces '/' path) := by
  rw [destination, if_neg usable.noNul, if_neg (by simpa using usable.nonempty),
    if_neg (Nat.not_le.mpr usable.short), start]
  by_cases rooted : path.toList.head? = some '/' <;> simp [Path.IsRooted, rooted]

theorem destination_ofList (tree : FileTree) (text : List Char) :
    tree.destination (String.ofList text) =
      if '\x00' ∈ text then .error .nulInPath
      else if text = [] then .error .notFound
      else if pathLimit ≤ (String.ofList text).utf8ByteSize then .error .nameTooLong
      else tree.follow (if text.head? = some '/' then [] else tree.current)
        ((Text.splitOn '/' text).map String.ofList) := by
  simp only [destination, String.toList_ofList, Text.pieces]
  by_cases rooted : text.head? = some '/' <;> simp [rooted]

/-- A path that is no usable text leads nowhere, for the same reason in every tree. -/
theorem destination_of_not_isUsable (unusable : ¬Path.IsUsable path) (other : FileTree) :
    ∃ error, tree.destination path = .error error ∧ other.destination path = .error error := by
  rw [destination, destination]
  by_cases nul : '\x00' ∈ path.toList
  · exact ⟨.nulInPath, if_pos nul, if_pos nul⟩
  by_cases empty : path.isEmpty = true
  · exact ⟨.notFound, by rw [if_neg nul, if_pos empty], by rw [if_neg nul, if_pos empty]⟩
  by_cases long : pathLimit ≤ path.utf8ByteSize
  · exact ⟨.nameTooLong, by rw [if_neg nul, if_neg empty, if_pos long],
      by rw [if_neg nul, if_neg empty, if_pos long]⟩
  · exact absurd ⟨nul, by simpa using empty, Nat.lt_of_not_le long⟩ unusable

theorem Leads.node?_target {target : Location} (leads : tree.Leads place names target)
    (straight : ".." ∉ names) : target = place ∨ tree.node? target = some .directory := by
  induction leads with
  | here place => exact .inl rfl
  | stay _ _ ih => exact ih fun later => straight (List.mem_cons_of_mem _ later)
  | up _ _ => exact absurd List.mem_cons_self straight
  | down _ inside _ ih =>
      rcases ih fun later => straight (List.mem_cons_of_mem _ later) with rfl | known
      · exact .inr inside
      · exact .inr known

end BreaksOff

/-! ### Obstacles in a growing tree -/

namespace Growth

variable {directories : Location → Prop} {files : Location → ByteArray → Prop}
  {before after : FileTree} {path : String}

theorem start_eq (growth : Growth directories files before after) (path : String) :
    after.start path = before.start path := by
  rw [start, start, growth.current]

theorem breaksOff {place : Location} {names : List String} {error : FileError}
    (growth : Growth directories files before after) (breaks : before.BreaksOff place names error)
    (obstacle : error ≠ .notFound) : after.BreaksOff place names error := by
  have kept : ∀ location, before.node? location = some .directory →
      after.node? location = some .directory := fun _ => growth.node?_of_directory
  cases breaks with
  | file shape further leads proper found =>
      obtain ⟨_, foundNow⟩ := growth.exists_node?_of_file found
      exact .file shape further (leads.mono kept) proper foundNow
  | long shape leads visible downward long =>
      exact .long shape (leads.mono kept) visible downward long
  | missing => exact absurd rfl obstacle

/-- What was in the way of reading stays in the way. -/
theorem read_of_error {cause : FileError} (growth : Growth directories files before after)
    (unreadable : before.read path = .error cause) (obstacle : cause ≠ .notFound) :
    after.read path = .error cause := by
  by_cases usable : Path.IsUsable path
  · cases reached : before.destination path with
    | error error =>
        obtain rfl : error = cause := by simpa [FileTree.read, reached] using unreadable
        rw [destination_of_isUsable usable] at reached
        have breaks := growth.breaksOff (breaksOff_of_follow reached) obstacle
        rw [← growth.start_eq] at breaks
        rw [FileTree.read, destination_of_isUsable usable, breaks.follow_eq]
    | ok destination => cases destination with
      | absent location =>
          obtain rfl : .notFound = cause := by simpa [FileTree.read, reached] using unreadable
          exact absurd rfl obstacle
      | present location node => cases node with
        | file content => simp [FileTree.read, reached] at unreadable
        | directory =>
            rw [FileTree.read, reached] at unreadable
            rw [FileTree.read, growth.destination_of_directory reached]
            exact unreadable
  · obtain ⟨error, failed, failedNow⟩ := destination_of_not_isUsable usable after
    rw [FileTree.read, failed] at unreadable
    rw [FileTree.read, failedNow]
    exact unreadable

/-- A file on the way was on the way before, or has been written. -/
theorem breaksOff_before {place : Location} {names : List String}
    (growth : Growth directories files before after) (grounded : before.IsGrounded)
    (straight : ".." ∉ names) (breaks : after.BreaksOff place names .notDirectory) :
    before.BreaksOff place names .notDirectory ∨ ∃ location content, files location content ∧
      location <+: place ++ names.filter fun name => !Path.isVoid name.toList := by
  cases breaks with
  | @file front rest name target content shape further leads proper found =>
      subst shape
      rw [List.mem_append, not_or] at straight
      rcases growth.node?_cases (target ++ [name]) with same | ⟨_, _, made⟩ | ⟨_, text, new, _⟩
      · rw [same] at found
        have above := grounded _ (mem_entries_of_node? (by simp) found)
        rw [List.dropLast_concat] at above
        exact .inl (.file rfl further (leads.of_grounded straight.1 grounded above) proper found)
      · simp [made] at found
      · refine .inr ⟨_, text, new, ?_⟩
        rw [leads.location_eq straight.1, List.filter_append,
          List.filter_cons_of_pos (by simp [proper.visible])]
        simp

/-- A directory at the end was there before, or has been made. -/
theorem leads_before {place target : Location} {names : List String}
    (growth : Growth directories files before after) (grounded : before.IsGrounded)
    (straight : ".." ∉ names) (leads : after.Leads place names target) (onward : target ≠ place) :
    before.Leads place names target ∨ directories target := by
  have known := (leads.node?_target straight).resolve_left onward
  rcases growth.node?_cases target with same | ⟨_, new, _⟩ | ⟨_, _, _, file⟩
  · exact .inl (leads.of_grounded straight grounded (same ▸ known))
  · exact .inr new
  · simp [file] at known

/-- Where nothing was before, all that can have come into the way of reading is a name that is too
long, unless something was made or written on the way. -/
theorem read_of_notFound {cause : FileError} (growth : Growth directories files before after)
    (grounded : before.IsGrounded) (straight : ".." ∉ Path.names path)
    (listed : Path.names path ≠ []) (missing : before.read path = .error .notFound)
    (noDirectory : ¬directories (before.locate path))
    (noFile : ∀ location content, files location content → ¬location <+: before.locate path)
    (unreadable : after.read path = .error cause) : cause = .notFound ∨ cause = .nameTooLong := by
  have straightPieces := not_mem_pieces straight
  by_cases usable : Path.IsUsable path
  · rw [FileTree.read, destination_of_isUsable usable] at unreadable missing
    rw [growth.start_eq] at unreadable
    cases reached : after.follow (before.start path) (Text.pieces '/' path) with
    | error error =>
        obtain rfl : error = cause := by simpa [reached] using unreadable
        cases breaksOff_of_follow reached with
        | missing => exact .inl rfl
        | long => exact .inr rfl
        | file =>
            have breaks := breaksOff_of_follow reached
            rcases growth.breaksOff_before grounded straightPieces breaks with was | ⟨_, _, new, on⟩
            · rw [was.follow_eq] at missing
              simp at missing
            · exact absurd on (noFile _ _ new)
    | ok destination => cases destination with
      | absent location =>
          obtain rfl : .notFound = cause := by simpa [reached] using unreadable
          exact .inl rfl
      | present location node => cases node with
        | file content => simp [reached] at unreadable
        | directory => cases follows_of_follow reached with
          | directory leads =>
              have place : location = before.locate path := leads.location_eq straightPieces
              have onward : location ≠ before.start path := by
                rw [place, locate]
                simpa using listed
              rcases growth.leads_before grounded straightPieces leads onward with was | new
              · rw [(Follows.directory was).follow_eq] at missing
                simp at missing
              · exact absurd (place ▸ new) noDirectory
  · obtain ⟨error, failed, failedNow⟩ := destination_of_not_isUsable usable after
    rw [FileTree.read, failed] at missing
    rw [FileTree.read, failedNow, missing] at unreadable
    exact .inl (Except.error.inj unreadable).symm

end Growth
end FileTree
end ValueMethods
