import ValueMethods.CommandLine.Run
import ValueMethods.Proofs.Growth

/-!
# Setting up again

Setting up a project where a settings file is already.  The project is opened before it is looked at
whether the file is to be replaced, so the run gets that far only if the old file can be read as
settings.  If it can, the new settings are written on demand, whatever the old ones were, and the
directory for model documents is there or can be made next to the settings file.
-/

namespace ValueMethods

/-! ### Names in one directory -/

namespace Path

/-- The text is one name of a directory, and its characters can be in a path. -/
structure IsEntryName (name : String) : Prop extends IsProper name where
  clean : '/' ∉ name.toList
  noNul : '\x00' ∉ name.toList

theorem IsEntryName.relative {name : String} (entry : IsEntryName name) : ¬IsRooted name :=
  fun rooted => entry.clean (List.mem_of_head? rooted)

theorem IsEntryName.nonempty {name : String} (entry : IsEntryName name) : name ≠ "" := by
  rintro rfl
  exact absurd entry.visible (by decide)

/-- In front of a name that is joined to a path there is nothing, or a text that ends in a slash. -/
theorem exists_join_eq (base : String) :
    ∃ stem, (stem = "" ∨ ∃ front, stem = front ++ "/") ∧
      ∀ part, ¬IsRooted part → join base part = stem ++ part := by
  by_cases ends : base.isEmpty || base.toList.getLast? = some '/'
  · refine ⟨base, ?_, fun part relative => by rw [join_of_relative base relative, if_pos ends]⟩
    rcases Bool.or_eq_true_iff.mp ends with empty | slash
    · exact .inl (String.isEmpty_iff.mp empty)
    · obtain ⟨front, shape⟩ := List.getLast?_eq_some_iff.mp (of_decide_eq_true slash)
      refine .inr ⟨String.ofList front, String.toList_inj.mp ?_⟩
      rw [shape, String.toList_append, String.toList_ofList]
      rfl
  · exact ⟨base ++ "/", .inr ⟨base, rfl⟩,
      fun part relative => by rw [join_of_relative base relative, if_neg ends]⟩

theorem exists_pieces_join (base : String) :
    ∃ front, ∀ name, IsEntryName name → Text.pieces '/' (join base name) = front ++ [name] := by
  obtain ⟨stem, ends, joined⟩ := exists_join_eq base
  have single {name : String} (entry : IsEntryName name) :
      Text.splitOn '/' name.toList = [name.toList] := Text.splitOn_of_not_mem entry.clean
  rcases ends with rfl | ⟨front, rfl⟩
  · refine ⟨[], fun name entry => ?_⟩
    rw [joined name entry.relative, String.empty_append, Text.pieces, single entry]
    simp
  · refine ⟨Text.pieces '/' front, fun name entry => ?_⟩
    have text : (front ++ "/" ++ name).toList = front.toList ++ '/' :: name.toList := by simp
    rw [joined name entry.relative, Text.pieces, text, Text.splitOn_append, single entry]
    simp [Text.pieces]

/-- In place of a name, one that is no longer makes a usable path as well. -/
theorem IsUsable.beside {base name other : String} (usable : IsUsable (join base name))
    (relative : ¬IsRooted name) (entry : IsEntryName other)
    (short : other.utf8ByteSize ≤ name.utf8ByteSize) : IsUsable (join base other) := by
  obtain ⟨stem, -, joined⟩ := exists_join_eq base
  obtain ⟨noNul, -, within⟩ := usable
  rw [joined name relative] at noNul within
  rw [String.toList_append, List.mem_append, not_or] at noNul
  rw [String.utf8ByteSize_append] at within
  rw [joined other entry.relative]
  refine ⟨?_, ?_, ?_⟩
  · rw [String.toList_append, List.mem_append, not_or]
    exact ⟨noNul.1, entry.noNul⟩
  · simp [entry.nonempty]
  · rw [String.utf8ByteSize_append]
    omega

end Path

namespace FileTree

variable {tree : FileTree} {path : String} {location : Location} {content : ByteArray}

/-- Next to an entry of a directory, a name that is no longer leads into the same directory. -/
theorem Designates.beside {base name other : String}
    (designates : tree.Designates (Path.join base name) location) (entry : Path.IsEntryName name)
    (entryToo : Path.IsEntryName other) (short : other.utf8ByteSize ≤ name.utf8ByteSize) :
    tree.Designates (Path.join base other) (location.dropLast ++ [other]) := by
  obtain ⟨front, pieces⟩ := Path.exists_pieces_join base
  obtain ⟨usable, known, last, target, shape, leads, -, rfl⟩ := designates
  rw [pieces name entry] at shape
  obtain ⟨rfl, -⟩ := List.append_inj' shape rfl
  have started : tree.start (Path.join base other) = tree.start (Path.join base name) := by
    rw [tree.start_join base entryToo.relative, tree.start_join base entry.relative]
  rw [List.dropLast_concat]
  exact ⟨usable.beside entry.relative entryToo short, front, other, target, pieces other entryToo,
    started ▸ leads, entryToo.toIsProper, rfl⟩

/-- A file that can be read can be written. -/
theorem write_of_read {old : ByteArray} (readable : tree.read path = .ok old)
    (content : ByteArray) :
    ∃ location, tree.Designates path location ∧ tree.node? location ≠ some .directory ∧
      tree.write path content = .ok (tree.store location content) := by
  obtain ⟨location, designates, found⟩ := read_eq_ok_iff.mp readable
  refine ⟨location, designates, by simp [found], ?_⟩
  rw [write, destination_eq_file_iff.mpr ⟨designates, found⟩]

/-- The growth of a tree by one file. -/
theorem growth_file (tree : FileTree) (content : ByteArray)
    (other : tree.node? location ≠ some .directory) :
    Growth (fun _ => False) (fun place text => place = location ∧ text = content) tree
      (tree.store location content) :=
  .file .refl other ⟨rfl, rfl⟩

theorem read_store (designates : tree.Designates path location)
    (other : tree.node? location ≠ some .directory) :
    (tree.store location content).read path = .ok content := by
  refine read_eq_ok_iff.mpr ⟨location, (tree.growth_file content other).designates designates, ?_⟩
  rw [node?_store _ _ _ (tree.ne_nil_of_node?_ne other), if_pos rfl]

theorem Designates.free_of_not_hasPath (designates : tree.Designates path location)
    (missing : ¬tree.hasPath path = true) : tree.node? location = none := by
  obtain ⟨destination, reached, same⟩ := designates.exists_destination
  cases destination with
  | present place node => exact absurd (hasPath_iff.mpr ⟨place, node, reached⟩) missing
  | absent place =>
      obtain rfl : place = location := same
      cases (destination_eq_ok_iff.mp reached).2 with
      | free _ _ _ _ free => exact free

theorem hasPath_of_isDirectory (directory : tree.isDirectory path = true) :
    tree.hasPath path = true := by
  unfold isDirectory at directory
  split at directory
  · next place reached => exact hasPath_iff.mpr ⟨place, .directory, reached⟩
  · simp at directory

/-- A directory can be made where a path leads to a free name. -/
theorem makeDirectories_of_designates (designates : tree.Designates path location)
    (free : tree.node? location = none) :
    tree.makeDirectories path = (tree.put location .directory, .ok ()) := by
  have reached : tree.destination path = .ok (.absent location) := by
    obtain ⟨usable, front, name, target, shape, leads, proper, rfl⟩ := designates
    have noBlanks : ∀ other ∈ ([] : List String), other = "" := by simp
    exact destination_eq_ok_iff.mpr ⟨usable, .free shape noBlanks leads proper free⟩
  have made : tree.makeDirectory path = .ok (tree.put location .directory) := by
    rw [makeDirectory, reached]
  rw [makeDirectories, Path.ancestors, Path.ancestorsUpTo, makeChain,
    if_neg designates.usable.nonempty, made]

end FileTree

/-! ### The old settings -/

/-- The bytes are a text that can be read as settings. -/
def Settings.IsHeldBy (content : ByteArray) : Prop :=
  ∃ text settings, String.fromUTF8? content = some text ∧ Settings.read text = .ok settings

namespace Project

variable {tree : FileTree} {root : String} {content : ByteArray}

/-- A project whose settings file can be read is opened if there are settings in the file. -/
theorem openAt_cases (readable : tree.read (settingsPathIn root) = .ok content) :
    (Settings.IsHeldBy content ∧ ∃ settings, openAt tree root = .ok ⟨root, some settings⟩) ∨
      (¬Settings.IsHeldBy content ∧ ∃ error, openAt tree root = .error error) := by
  have present := FileTree.hasPath_of_read readable
  cases decoded : String.fromUTF8? content with
  | none =>
      refine .inr ⟨fun ⟨_, _, known, _⟩ => by simp [decoded] at known,
        .unreadable (settingsPathIn root) .notText, ?_⟩
      simp only [openAt, present, FileTree.readText, readable, decoded, if_true]
  | some text => cases result : Settings.read text with
    | error fault =>
        refine .inr ⟨fun ⟨_, _, known, held⟩ => ?_, .invalid (settingsPathIn root) fault, ?_⟩
        · obtain rfl := Option.some.inj (decoded.symm.trans known)
          simp [result] at held
        · simp only [openAt, present, FileTree.readText, readable, decoded, result, if_true]
    | ok settings =>
        refine .inl ⟨⟨text, settings, decoded, result⟩, settings, ?_⟩
        simp only [openAt, present, FileTree.readText, readable, decoded, result, if_true]

end Project

/-! ### Setting up -/

namespace Setup

open FileTree

variable {tree : FileTree} {root : String}

theorem isEntryName_settingsName : Path.IsEntryName Project.settingsName :=
  ⟨⟨by decide, by decide, by decide⟩, by decide, by decide⟩

theorem isEntryName_schema : Path.IsEntryName "schema" :=
  ⟨⟨by decide, by decide, by decide⟩, by decide, by decide⟩

/-- Where the settings file can be written, the directory for model documents is there or can be
made, and the settings file stays as it is. -/
theorem makeModelDirectories_ok {request : InitRequest} {content : ByteArray} (screen : Screen)
    (readable : tree.read (Project.settingsPathIn root) = .ok content)
    (places : ∀ place ∈ request.models, tree.hasPath (Path.join root place) = true) :
    ∃ final printed,
      makeModelDirectories root tree screen request.settings.models = (final, printed, none) ∧
        final.read (Project.settingsPathIn root) = .ok content := by
  cases given : request.models with
  | some place =>
      have models : request.settings.models = [place] := by simp [InitRequest.settings, given]
      refine ⟨tree, screen, ?_, readable⟩
      rw [models, makeModelDirectories, if_pos (places place given), makeModelDirectories]
  | none =>
      have models : request.settings.models = ["schema"] := by
        simp [InitRequest.settings, given, Settings.default]
      rw [models, makeModelDirectories]
      split
      · exact ⟨tree, screen, rfl, readable⟩
      · next missing =>
          obtain ⟨location, designates, -⟩ := read_eq_ok_iff.mp readable
          have designatesToo :=
            designates.beside isEntryName_settingsName isEntryName_schema (by decide)
          have free := designatesToo.free_of_not_hasPath missing
          have growth : Growth (fun _ => True) (fun _ _ => False) tree
              (tree.put (location.dropLast ++ ["schema"]) .directory) :=
            .directory .refl free trivial
          rw [makeDirectories_of_designates designatesToo free]
          exact ⟨_, _, rfl, growth.read readable fun _ _ written => written.elim⟩

/-- Where the settings file can be read, a project is set up with new settings in its place. -/
theorem create_ok {request : InitRequest} {old : ByteArray} (stated : Option Settings)
    (moment : Moment) (screen : Screen)
    (readable : tree.read (Project.settingsPathIn root) = .ok old)
    (places : ∀ place ∈ request.models, tree.hasPath (Path.join root place) = true) :
    let result := create ⟨root, stated⟩ request.settings moment tree screen
    result.error = none ∧ result.files.read (Project.settingsPathIn root) =
      .ok (request.settings.fileText moment.dayText).toUTF8 := by
  intro result
  obtain ⟨location, designates, other, wrote⟩ :=
    write_of_read readable (request.settings.fileText moment.dayText).toUTF8
  have growth := tree.growth_file (request.settings.fileText moment.dayText).toUTF8 other
  obtain ⟨final, printed, made, kept⟩ :=
    makeModelDirectories_ok (screen.success ("Created " ++ Project.settingsPathIn root))
      (read_store designates other) fun place member => growth.hasPath (places place member)
  simp only [result, create, Project.settingsPath, wrote, made]
  exact ⟨rfl, kept⟩

/-- What is printed when a settings file is kept. -/
def keptScreen (root : String) (screen : Screen) : Screen :=
  ((screen.heading "Initialize valuegen").warning
    (Project.settingsName ++ " already exists in " ++ root)).info "Use --force to overwrite it."

theorem errors_print (screen : Screen) (text : String) :
    (screen.print text).errors = screen.errors := by
  rw [Screen.print]
  split <;> rfl

theorem errors_keptScreen (root : String) (screen : Screen) :
    (keptScreen root screen).errors = screen.errors := by
  simp only [keptScreen, Screen.info, Screen.warning, Screen.heading, errors_print]

section Run

variable {request : InitRequest} {old : ByteArray} (moment : Moment) (screen : Screen)
  (readable : tree.read (Project.settingsPathIn tree.currentPath) = .ok old)
include readable

/-- If the old settings cannot be read, setting up fails before anything is printed or written. -/
theorem run_of_not_held (unheld : ¬Settings.IsHeldBy old) :
    ∃ error, run request moment tree screen = .failed tree screen (.project error) := by
  rcases Project.openAt_cases readable with ⟨held, -⟩ | ⟨-, error, failed⟩
  · exact absurd held unheld
  · refine ⟨error, ?_⟩
    unfold run
    rw [failed]

theorem run_of_held (held : Settings.IsHeldBy old) (keeps : request.force = false) :
    run request moment tree screen = .done tree (keptScreen tree.currentPath screen) := by
  rcases Project.openAt_cases readable with ⟨-, settings, opened⟩ | ⟨unheld, -⟩
  · have present := hasPath_of_read readable
    unfold run
    simp only [opened, Project.settingsPath, present, keeps, Bool.not_false, Bool.and_self,
      if_true, keptScreen]
  · exact absurd held unheld

theorem run_of_held_force (held : Settings.IsHeldBy old) (forced : request.force = true)
    (places : ∀ place ∈ request.models, tree.hasPath (Path.join tree.currentPath place) = true) :
    let result := run request moment tree screen
    result.error = none ∧ result.files.read (Project.settingsPathIn tree.currentPath) =
      .ok (request.settings.fileText moment.dayText).toUTF8 := by
  rcases Project.openAt_cases readable with ⟨-, settings, opened⟩ | ⟨unheld, -⟩
  · unfold run
    simp only [opened, forced, Bool.not_true, Bool.and_false, Bool.false_eq_true, if_false]
    exact create_ok (some settings) moment (screen.heading "Initialize valuegen") readable places
  · exact absurd held unheld

end Run

/-- Where a settings file can be read, setting up succeeds exactly if there are settings in it, be
it asked to replace the file or not.  Then it leaves the new settings in the file on demand, and
otherwise it changes nothing and says that the file exists.  Where the file holds anything else,
setting up fails and leaves it as it is, even if it is asked to replace it. -/
theorem succeeds_iff_old_settings {arguments : List String} {printing : PrintRequest}
    {request : InitRequest} {surroundings : Surroundings} {old : ByteArray}
    (asked : Request.read arguments = .run printing (.init request))
    (readable : surroundings.files.read
      (Project.settingsPathIn surroundings.files.currentPath) = .ok old)
    (places : ∀ place ∈ request.models,
      surroundings.files.isDirectory (Path.join surroundings.files.currentPath place) = true) :
    let result := Program.run arguments surroundings
    let screen := Screen.blank (Program.manner printing surroundings)
    (result.code = 0 ↔ Settings.IsHeldBy old) ∧
      (Settings.IsHeldBy old → request.force = true →
        result.files.read (Project.settingsPathIn surroundings.files.currentPath) =
          .ok (request.settings.fileText surroundings.moment.dayText).toUTF8) ∧
      (Settings.IsHeldBy old → request.force = false →
        result = ⟨surroundings.files, 0,
          (keptScreen surroundings.files.currentPath screen).output, ""⟩) ∧
      (¬Settings.IsHeldBy old → ∃ error : ProjectError,
        result = ⟨surroundings.files, 1, "", (screen.failure error.message).errors⟩) := by
  intro result screen
  have ran : result = (run request surroundings.moment surroundings.files screen).program := by
    simp only [result, Program.run, asked, Program.answer, Command.run, screen]
  have there : ∀ place ∈ request.models,
      surroundings.files.hasPath (Path.join surroundings.files.currentPath place) = true :=
    fun place member => hasPath_of_isDirectory (places place member)
  by_cases held : Settings.IsHeldBy old
  · cases keeps : request.force with
    | false =>
        have kept : result = ⟨surroundings.files, 0,
            (keptScreen surroundings.files.currentPath screen).output, ""⟩ := by
          rw [ran, run_of_held _ _ readable held keeps, CommandResult.program]
          exact congrArg (ProgramResult.mk _ _ _) (errors_keptScreen _ screen)
        simp [kept, held]
    | true =>
        obtain ⟨succeeds, written⟩ :=
          run_of_held_force surroundings.moment screen readable held keeps there
        have done : result = _ := ran.trans (by rw [CommandResult.program, succeeds])
        simp [done, held, written]
  · obtain ⟨error, failed⟩ := run_of_not_held surroundings.moment screen readable held
    have stopped : result = ⟨surroundings.files, 1, "",
        (screen.failure (CommandError.project error).message).errors⟩ := by
      rw [ran, failed]
      rfl
    exact ⟨by simp [stopped, held], fun now => absurd now held, fun now => absurd now held,
      fun _ => ⟨error, stopped⟩⟩

/-- A directory with a settings file and a directory for model documents. -/
def settledPlace (content : String) : Surroundings :=
  ⟨⟨[(["work"], .directory), (["work", "valuegen.toml"], .file content.toUTF8),
    (["work", "docs"], .directory)], ["work"], []⟩, ⟨0, 0⟩, false⟩

/-- Settings as they may have been written by hand. -/
def oldSettings : String :=
  "[generator]\noutput_dir = 'gen'\n"

/-- The arguments that ask for new settings with another place for the model documents. -/
def renewalArguments : List String :=
  ["init", "--force", "--models", "docs", "--skip-to-string"]

/-- What these arguments ask for. -/
def renewal : InitRequest :=
  ⟨true, true, some "docs", none⟩

theorem succeeds_on_old_settings :
    let surroundings := settledPlace oldSettings
    let path := Project.settingsPathIn surroundings.files.currentPath
    let result := Program.run renewalArguments surroundings
    Request.read renewalArguments = .run ⟨.table, false, false, false⟩ (.init renewal) ∧
      surroundings.files.read path = .ok oldSettings.toUTF8 ∧
      (∀ place ∈ renewal.models, surroundings.files.isDirectory
        (Path.join surroundings.files.currentPath place) = true) ∧
      Settings.IsHeldBy oldSettings.toUTF8 ∧ result.code = 0 ∧
      result.files.read path = .ok (renewal.settings.fileText "1970-01-01").toUTF8 := by
  intro surroundings path result
  have asked : Request.read renewalArguments =
      .run ⟨.table, false, false, false⟩ (.init renewal) := by decide +kernel
  have readable : surroundings.files.read path = .ok oldSettings.toUTF8 := by decide +kernel
  have places : ∀ place ∈ renewal.models, surroundings.files.isDirectory
      (Path.join surroundings.files.currentPath place) = true := by decide +kernel
  have held : Settings.IsHeldBy oldSettings.toUTF8 :=
    ⟨oldSettings, { Settings.default with output := "gen" }, by decide +kernel, by decide +kernel⟩
  have day : surroundings.moment.dayText = "1970-01-01" := by decide +kernel
  obtain ⟨succeeds, written, -, -⟩ := succeeds_iff_old_settings asked readable places
  have replaced := written held rfl
  rw [day] at replaced
  exact ⟨asked, readable, places, held, succeeds.mpr held, replaced⟩

/-- A settings file that is not well formed is not replaced, although that is asked for. -/
theorem malformed_settings_stay :
    (settledPlace "generator").files.read
        (Project.settingsPathIn (settledPlace "generator").files.currentPath) =
          .ok "generator".toUTF8 ∧
      (Program.run ["init", "--force"] (settledPlace "generator")).code = 1 ∧
      (Program.run ["init", "--force"] (settledPlace "generator")).files =
        (settledPlace "generator").files ∧
      (Program.run ["init"] (settledPlace "generator")).code = 1 := by
  decide +kernel

end Setup
end ValueMethods
