import ValueMethods.Build
import ValueMethods.Proofs.Growth

/-!
# What emitting does to a tree

Emitting refuses a model with a declared method whose source is not known, and then writes nothing.
Otherwise it goes through the classes in order: directories are made on the way to the path of a
unit, and the file there is written.  An obstacle stops it, so the files of the classes behind the
obstacle are as they were.  Nothing else in the tree is touched.
-/

namespace ValueMethods

/-! ### The path of a unit -/

namespace ClassDecl

/-- Neither the name of the class nor its package has a slash. -/
structure IsPlain (decl : ClassDecl) : Prop where
  name : '/' ∉ decl.name.toList
  package : ∀ package, decl.package = some package → '/' ∉ package.toList

instance (decl : ClassDecl) : Decidable decl.IsPlain :=
  decidable_of_iff
    ('/' ∉ decl.name.toList ∧ ∀ package ∈ decl.package, '/' ∉ package.toList)
    ⟨fun ⟨name, package⟩ => ⟨name, package⟩, fun ⟨name, package⟩ => ⟨name, package⟩⟩

/-- The directories that the package of the class stands for. -/
def packageParts (decl : ClassDecl) : List String :=
  match decl.package with
  | some package => (Text.pieces '.' package).filter fun part => !part.isEmpty
  | none => []

/-- The path of the unit of the class below a directory. -/
def pathBelow (decl : ClassDecl) (output : String) : String :=
  Path.join output decl.unitPath

/-- The names on the way to the unit of the class. -/
def unitNames (decl : ClassDecl) : List String :=
  decl.packageParts ++ [decl.name ++ ".java"]

theorem unitPath_eq (decl : ClassDecl) :
    decl.unitPath = Path.join (Path.joinAll "" decl.packageParts) (decl.name ++ ".java") := rfl

variable {decl : ClassDecl}

theorem mem_packageParts {part : String} (member : part ∈ decl.packageParts) :
    ∃ package, decl.package = some package ∧ part ∈ Text.pieces '.' package ∧ part ≠ "" := by
  rw [packageParts] at member
  split at member
  · next package known =>
      obtain ⟨piece, nonempty⟩ := List.mem_filter.mp member
      exact ⟨package, known, piece, by simpa using nonempty⟩
  · exact absurd member List.not_mem_nil

theorem not_mem_of_mem_packageParts {part : String} (member : part ∈ decl.packageParts) :
    '.' ∉ part.toList := by
  obtain ⟨package, _, piece, _⟩ := mem_packageParts member
  obtain ⟨text, among, rfl⟩ := List.mem_map.mp piece
  simpa using Text.not_mem_of_mem_splitOn among

theorem IsPlain.packagePart (plain : decl.IsPlain) {part : String}
    (member : part ∈ decl.packageParts) : Path.IsName part := by
  obtain ⟨package, known, piece, nonempty⟩ := mem_packageParts member
  obtain ⟨text, among, rfl⟩ := List.mem_map.mp piece
  refine ⟨fun slash => plain.package package known ?_, ?_⟩
  · exact (Text.mem_of_mem_splitOn among (by simpa using slash)).1
  · have noDot := not_mem_of_mem_packageParts member
    have visible : ¬(String.ofList text = "" ∨ String.ofList text = ".") := by
      rintro (empty | dot)
      · exact nonempty empty
      · exact noDot (by simp [dot])
    simpa using mt (Path.isVoid_iff _).mp visible

theorem fileName_ne (decl : ClassDecl) {text : String} (other : 'j' ∉ text.toList) :
    decl.name ++ ".java" ≠ text := by
  rintro rfl
  exact other (by simp)

theorem IsPlain.fileName (plain : decl.IsPlain) : Path.IsName (decl.name ++ ".java") := by
  refine ⟨by simpa using plain.name, ?_⟩
  have visible : ¬(decl.name ++ ".java" = "" ∨ decl.name ++ ".java" = ".") :=
    not_or.mpr ⟨decl.fileName_ne (by decide), decl.fileName_ne (by decide)⟩
  simpa using mt (Path.isVoid_iff _).mp visible

theorem IsPlain.relative (plain : decl.IsPlain) : ¬Path.IsRooted decl.unitPath := by
  rw [unitPath_eq, Path.isRooted_join plain.fileName.relative,
    Path.isRooted_joinAll fun part => plain.packagePart]
  decide

/-- The path of a unit lists the parts of the package and the name of the file. -/
theorem IsPlain.names_unitPath (plain : decl.IsPlain) :
    Path.names decl.unitPath = decl.unitNames := by
  rw [unitPath_eq, Path.names_join plain.fileName.relative,
    Path.names_joinAll fun part => plain.packagePart, plain.fileName.names, Path.names_empty,
    List.nil_append, unitNames]

theorem straight_unitNames (decl : ClassDecl) : ".." ∉ decl.unitNames := by
  rw [unitNames, List.mem_append, List.mem_singleton, not_or]
  exact ⟨fun member => not_mem_of_mem_packageParts member (by decide),
    (decl.fileName_ne (by decide)).symm⟩

theorem IsPlain.names_pathBelow (plain : decl.IsPlain) (output : String) :
    Path.names (decl.pathBelow output) = Path.names output ++ decl.unitNames := by
  rw [pathBelow, Path.names_join plain.relative, plain.names_unitPath]

theorem IsPlain.listed (plain : decl.IsPlain) (output : String) :
    Path.names (decl.pathBelow output) ≠ [] := by
  simp [plain.names_pathBelow output, unitNames]

theorem IsPlain.straight (plain : decl.IsPlain) {output : String}
    (straight : ".." ∉ Path.names output) : ".." ∉ Path.names (decl.pathBelow output) := by
  rw [plain.names_pathBelow output, List.mem_append, not_or]
  exact ⟨straight, decl.straight_unitNames⟩

end ClassDecl

/-! ### Making directories and writing a file -/

namespace FileTree

theorem makeDirectory_eq_ok {tree after : FileTree} {path : String}
    (made : tree.makeDirectory path = .ok after) :
    ∃ location, tree.destination path = .ok (.absent location) ∧ tree.node? location = none ∧
      after = tree.put location .directory := by
  unfold makeDirectory at made
  split at made
  · simp at made
  · next location reached =>
      refine ⟨location, reached, ?_, (Except.ok.inj made).symm⟩
      cases (destination_eq_ok_iff.mp reached).2 with
      | free _ _ _ _ missing => exact missing
  · simp at made

/-- The location is what one of the paths spells out, if that path has no step upward. -/
def IsPlaceOf (tree : FileTree) (paths : List String) (location : Location) : Prop :=
  ∃ path ∈ paths, ".." ∉ Path.names path → location = tree.locate path

/-- No file is written. -/
def noFile (_ : Location) (_ : ByteArray) : Prop := False

/-- No directory is made. -/
def noPlace (_ : Location) : Prop := False

/-- Making the directories of a chain makes no others and writes nothing, even if it fails. -/
theorem makeChain_growth (tree : FileTree) (paths : List String) :
    Growth (tree.IsPlaceOf paths) noFile tree (tree.makeChain paths).1 := by
  induction paths with
  | nil => exact .refl
  | cons path above ih =>
      have further : Growth (tree.IsPlaceOf (path :: above)) noFile tree
          (tree.makeChain above).1 := by
        refine ih.mono ?_ fun _ _ written => written
        rintro location ⟨other, member, same⟩
        exact ⟨other, List.mem_cons_of_mem path member, same⟩
      -- The directory itself can be made first or after those above it.
      have oneMore {between after : FileTree}
          (grown : Growth (tree.IsPlaceOf (path :: above)) noFile tree between)
          (made : between.makeDirectory path = .ok after) :
          Growth (tree.IsPlaceOf (path :: above)) noFile tree after := by
        obtain ⟨location, reached, free, rfl⟩ := makeDirectory_eq_ok made
        refine .directory grown free ⟨path, List.mem_cons_self, fun straight => ?_⟩
        rw [← grown.locate_eq]
        exact location_eq_locate reached straight
      rw [makeChain]
      split
      · exact .refl
      · split
        · next changed made => exact oneMore .refl made
        · split
          · next changed _ chain => rw [chain] at further; exact further
          · next changed chain =>
              rw [chain] at further
              split
              · next final made => exact oneMore further made
              · exact further
        · exact .refl

/-- The place of a parent is that of the path without its last name. -/
theorem locate_parent (tree : FileTree) {path above : String}
    (found : Path.parent? path = some above) (listed : Path.names path ≠ []) :
    tree.locate above = (tree.locate path).dropLast := by
  simp only [locate, start, Path.isRooted_parent found, Path.names_parent found]
  exact (List.dropLast_append_of_ne_nil listed).symm

/-- The location is on the way to the place that the path spells out, if it lists a name and has no
step upward. -/
def IsAbove (tree : FileTree) (path : String) (location : Location) : Prop :=
  Path.names path ≠ [] → ".." ∉ Path.names path → location <+: (tree.locate path).dropLast

theorem makeDirectories_growth {tree : FileTree} {path above : String}
    (found : Path.parent? path = some above) :
    Growth (tree.IsAbove path) noFile tree (tree.makeDirectories above).1 := by
  refine (tree.makeChain_growth (Path.ancestors above)).mono ?_ fun _ _ written => written
  rintro location ⟨other, member, place⟩ listed straight
  have straightAbove : ".." ∉ Path.names above := by
    rw [Path.names_parent found]
    exact fun upward => straight (List.dropLast_subset _ upward)
  have within := (Path.ancestor member).1
  rw [place fun upward => straightAbove (within.subset upward), ← tree.locate_parent found listed]
  exact tree.locate_ancestor member

theorem write_growth {tree after : FileTree} {path : String} {content : ByteArray}
    (done : tree.write path content = .ok after) :
    Growth noPlace (fun location text => after.Designates path location ∧ text = content) tree
        after ∧
      after.read path = .ok content ∧
      ∃ location, after.Designates path location ∧ after.written = tree.written ++ [location] := by
  obtain ⟨location, designates, other, rfl⟩ := write_eq_ok done
  have inside := tree.ne_nil_of_node?_ne other
  have grown : Growth noPlace (fun _ _ => True) tree (tree.store location content) :=
    .file .refl other trivial
  have designatesStill := grown.designates designates
  have found : (tree.store location content).node? location = some (.file content) := by
    rw [node?_store _ _ _ inside, if_pos rfl]
  exact ⟨.file .refl other ⟨designatesStill, rfl⟩,
    read_eq_ok_iff.mpr ⟨location, designatesStill, found⟩, location, designatesStill, rfl⟩

/-- Where no file is expected, none has been written. -/
theorem Growth.written_eq {directories : Location → Prop} {before after : FileTree}
    (growth : Growth directories noFile before after) : after.written = before.written := by
  obtain ⟨written, log, among⟩ := growth.exists_written
  have nothing : written = [] := List.eq_nil_iff_forall_not_mem.mpr fun location member =>
    (among location member).elim fun _ never => never
  rw [log, nothing, List.append_nil]

end FileTree

/-! ### Emitting one unit -/

/-- The error is about what is at the path or about the directory that the path lies in. -/
def EmissionError.Concerns (path : String) : EmissionError → Prop
  | .missingSource _ _ => False
  | .read place _ => place = path
  | .makeDirectory place _ => Path.parent? path = some place
  | .write place _ => place = path

namespace Emission

open FileTree

/-- The path leads to the location, and the content is the text. -/
def IsUnitAt (tree : FileTree) (path text : String) (location : Location) (content : ByteArray) :
    Prop :=
  tree.Designates path location ∧ content = text.toUTF8

section OneUnit

variable {tree changed : FileTree} {path text : String}

theorem place_cases (tree : FileTree) (path text : String) :
    ∃ between, Growth (tree.IsAbove path) noFile tree between ∧
      ((∃ error : EmissionError, error.Concerns path ∧
          place tree path text = (between, .error error)) ∨
        place tree path text = place.write between path text) := by
  cases found : Path.parent? path with
  | none => exact ⟨tree, .refl, .inr (by rw [place, found])⟩
  | some above =>
      have grown : Growth (tree.IsAbove path) noFile tree (tree.makeDirectories above).1 :=
        makeDirectories_growth found
      cases made : tree.makeDirectories above with
      | mk between result =>
          rw [made] at grown
          refine ⟨between, grown, ?_⟩
          cases result with
          | ok => exact .inr (by simp only [place, found, made])
          | error cause =>
              refine .inl ⟨.makeDirectory above cause, found, ?_⟩
              simp only [place, found, made]

/-- Placing a unit writes its file once and no other. -/
theorem place_ok (placed : place tree path text = (changed, .ok ())) :
    Growth (tree.IsAbove path) (IsUnitAt changed path text) tree changed ∧
      changed.read path = .ok text.toUTF8 ∧
      ∃ location, changed.Designates path location ∧
        changed.written = tree.written ++ [location] := by
  obtain ⟨between, grown, ⟨error, _, failed⟩ | written⟩ := place_cases tree path text
  · rw [failed] at placed
    simp at placed
  · rw [written, place.write] at placed
    cases result : between.write path text.toUTF8 with
    | error cause =>
        rw [result] at placed
        simp at placed
    | ok final =>
        rw [result] at placed
        obtain rfl : final = changed := by simpa using placed
        obtain ⟨last, readable, location, designates, log⟩ := write_growth result
        refine ⟨?_, readable, location, designates, by rw [log, grown.written_eq]⟩
        exact (grown.mono (fun _ above => above) fun _ _ never => absurd never id).trans
          (last.mono (fun _ never => absurd never id) fun _ _ unit => unit)

theorem place_error {error : EmissionError}
    (failed : place tree path text = (changed, .error error)) :
    Growth (tree.IsAbove path) noFile tree changed ∧ error.Concerns path := by
  obtain ⟨between, grown, ⟨other, concerns, refused⟩ | written⟩ := place_cases tree path text
  · rw [refused] at failed
    obtain ⟨rfl, rfl⟩ : between = changed ∧ other = error := by simpa using failed
    exact ⟨grown, concerns⟩
  · rw [written, place.write] at failed
    cases result : between.write path text.toUTF8 with
    | ok final =>
        rw [result] at failed
        simp at failed
    | error cause =>
        rw [result] at failed
        obtain ⟨rfl, rfl⟩ : between = changed ∧ EmissionError.write path cause = error := by
          simpa using failed
        exact ⟨grown, rfl⟩

theorem read_of_status (unchanged : Emission.status tree path text = .ok .unchanged) :
    tree.read path = .ok text.toUTF8 := by
  unfold Emission.status at unchanged
  split at unchanged
  · next content readable =>
      have same : content = text.toUTF8 := by
        rw [← isTextOf_iff]
        by_contra differs
        simp [differs] at unchanged
      rw [readable, same]
  · simp at unchanged
  · simp at unchanged

theorem status_concerns {error : EmissionError}
    (unreadable : Emission.status tree path text = .error error) : error.Concerns path := by
  unfold Emission.status at unreadable
  split at unreadable
  · simp at unreadable
  · simp at unreadable
  · obtain rfl := Except.error.inj unreadable
    rfl

/-- Afterwards the file is there with the text, unless nothing was to be done. -/
theorem emitText_ok {dryRun : Bool} {status : EmissionStatus}
    (emitted : emitText dryRun tree path text = (changed, .ok status)) :
    Growth (tree.IsAbove path) (IsUnitAt changed path text) tree changed ∧
      (dryRun = false → changed.read path = .ok text.toUTF8) := by
  unfold emitText at emitted
  split at emitted
  · simp at emitted
  · next unchanged =>
      obtain ⟨rfl, _⟩ : tree = changed ∧ _ := by simpa using emitted
      exact ⟨.refl, fun _ => read_of_status unchanged⟩
  · split at emitted
    · next dry =>
        obtain ⟨rfl, _⟩ : tree = changed ∧ _ := by simpa using emitted
        exact ⟨.refl, fun wet => by simp [dry] at wet⟩
    · split at emitted
      · simp at emitted
      · next final placed =>
          obtain ⟨rfl, _⟩ : final = changed ∧ _ := by simpa using emitted
          obtain ⟨grown, readable, _⟩ := place_ok placed
          exact ⟨grown, fun _ => readable⟩

theorem emitText_error {dryRun : Bool} {error : EmissionError}
    (failed : emitText dryRun tree path text = (changed, .error error)) :
    Growth (tree.IsAbove path) noFile tree changed ∧ error.Concerns path := by
  unfold emitText at failed
  split at failed
  · next cause unreadable =>
      obtain ⟨rfl, rfl⟩ : tree = changed ∧ cause = error := by simpa using failed
      exact ⟨.refl, status_concerns unreadable⟩
  · simp at failed
  · split at failed
    · simp at failed
    · split at failed
      · next final cause refused =>
          obtain ⟨rfl, rfl⟩ : final = changed ∧ cause = error := by simpa using failed
          exact place_error refused
      · simp at failed

end OneUnit

/-! ### Emitting the units of all classes -/

section Unfolding

-- Otherwise unfolding the recursion would start to run the first emission.
attribute [local irreducible] emitText

theorem emitAll_cons (model : ClassModel) (output : String) (dryRun : Bool) (tree : FileTree)
    (decl : ClassDecl) (rest : List ClassDecl) :
    emitAll model output dryRun tree (decl :: rest) =
      match emitText dryRun tree (decl.pathBelow output) (model.unitOf decl) with
      | (changed, .error error) => (changed, .error error)
      | (changed, .ok status) =>
          match emitAll model output dryRun changed rest with
          | (final, .error error) => (final, .error error)
          | (final, .ok files) =>
              (final, .ok (⟨decl.qualifiedName, decl.pathBelow output, status⟩ :: files)) := rfl

theorem emitAll_nil (model : ClassModel) (output : String) (dryRun : Bool) (tree : FileTree) :
    emitAll model output dryRun tree [] = (tree, .ok []) := rfl

end Unfolding

section AllUnits

variable {model : ClassModel} {output : String} {dryRun : Bool} {tree changed : FileTree}
  {classes : List ClassDecl}

/-- The location is on the way to the unit of one of the classes. -/
def IsAboveOne (tree : FileTree) (output : String) (classes : List ClassDecl)
    (location : Location) : Prop :=
  ∃ decl ∈ classes, tree.IsAbove (decl.pathBelow output) location

/-- The path of the unit of one of the classes leads to the location, and the content is that
unit. -/
def IsUnitOfOne (model : ClassModel) (output : String) (classes : List ClassDecl) (tree : FileTree)
    (location : Location) (content : ByteArray) : Prop :=
  ∃ decl ∈ classes, IsUnitAt tree (decl.pathBelow output) (model.unitOf decl) location content

theorem emitAll_cons_ok {decl : ClassDecl} {rest : List ClassDecl} {files : List EmittedFile}
    (emitted : emitAll model output dryRun tree (decl :: rest) = (changed, .ok files)) :
    ∃ between status others,
      emitText dryRun tree (decl.pathBelow output) (model.unitOf decl) = (between, .ok status) ∧
      emitAll model output dryRun between rest = (changed, .ok others) ∧
      files = ⟨decl.qualifiedName, decl.pathBelow output, status⟩ :: others := by
  rw [emitAll_cons] at emitted
  split at emitted
  · simp at emitted
  · next between status one =>
      split at emitted
      · simp at emitted
      · next final others more =>
          obtain ⟨rfl, rfl⟩ : final = changed ∧ _ = files := by simpa using emitted
          exact ⟨between, status, others, one, more, rfl⟩

/-- Growth by a first unit and growth by the units of other classes add up. -/
theorem growth_cons {decl : ClassDecl} {reached written : List ClassDecl} {final : FileTree}
    (first : Growth (tree.IsAbove (decl.pathBelow output))
      (IsUnitAt changed (decl.pathBelow output) (model.unitOf decl)) tree changed)
    (later : Growth (IsAboveOne changed output reached) (IsUnitOfOne model output written final)
      changed final) :
    Growth (IsAboveOne tree output (decl :: reached))
      (IsUnitOfOne model output (decl :: written) final) tree final := by
  have one : Growth (IsAboveOne tree output (decl :: reached))
      (IsUnitOfOne model output (decl :: written) final) tree changed := by
    refine first.mono (fun _ above => ⟨decl, List.mem_cons_self, above⟩) ?_
    exact fun _ _ ⟨designates, text⟩ =>
      ⟨decl, List.mem_cons_self, later.designates designates, text⟩
  refine one.trans (later.mono ?_ ?_)
  · rintro location ⟨other, member, above⟩
    refine ⟨other, List.mem_cons_of_mem decl member, ?_⟩
    rwa [FileTree.IsAbove, ← first.locate_eq]
  · rintro location content ⟨other, member, unit⟩
    exact ⟨other, List.mem_cons_of_mem decl member, unit⟩

theorem emitAll_ok {files : List EmittedFile}
    (emitted : emitAll model output dryRun tree classes = (changed, .ok files)) :
    Growth (IsAboveOne tree output classes) (IsUnitOfOne model output classes changed)
      tree changed := by
  induction classes generalizing tree files with
  | nil =>
      obtain ⟨rfl, _⟩ : tree = changed ∧ _ := by simpa [emitAll_nil] using emitted
      exact .refl
  | cons decl rest ih =>
      obtain ⟨between, status, others, one, more, rfl⟩ := emitAll_cons_ok emitted
      exact growth_cons (emitText_ok one).1 (ih more)

/-- Up to the class that fails, all units have been written; behind it, none. -/
theorem emitAll_error {error : EmissionError}
    (failed : emitAll model output dryRun tree classes = (changed, .error error)) :
    ∃ front decl back, classes = front ++ decl :: back ∧ error.Concerns (decl.pathBelow output) ∧
      Growth (IsAboveOne tree output (front ++ [decl])) (IsUnitOfOne model output front changed)
        tree changed := by
  induction classes generalizing tree with
  | nil => simp [emitAll_nil] at failed
  | cons decl rest ih =>
      rw [emitAll_cons] at failed
      split at failed
      · next between cause one =>
          obtain ⟨rfl, rfl⟩ : between = changed ∧ cause = error := by simpa using failed
          obtain ⟨grown, concerns⟩ := emitText_error one
          refine ⟨[], decl, rest, rfl, concerns, ?_⟩
          exact grown.mono
            (fun _ above => ⟨decl, List.mem_singleton_self decl, above⟩)
            fun _ _ never => absurd never id
      · next between status one =>
          split at failed
          · next final cause more =>
              obtain ⟨rfl, rfl⟩ : final = changed ∧ cause = error := by simpa using failed
              obtain ⟨front, blocked, back, rfl, concerns, later⟩ := ih more
              exact ⟨decl :: front, blocked, back, rfl, concerns,
                growth_cons (emitText_ok one).1 later⟩
          · simp at failed

end AllUnits

/-! ### The outcome of emitting -/

theorem missingSource?_eq_none_iff {classes : List ClassDecl} :
    missingSource? classes = none ↔ ∀ decl ∈ classes, decl.methodsWithoutSource = [] := by
  induction classes with
  | nil => simp [missingSource?]
  | cons decl rest ih =>
      rw [missingSource?, List.forall_mem_cons, ← ih]
      split
      · next sourced => simp [sourced]
      · next missing => exact iff_of_false (by simp) fun sourced => missing sourced.1

theorem missingSource?_eq_some {classes : List ClassDecl} {error : EmissionError}
    (found : missingSource? classes = some error) :
    ∃ front decl back, classes = front ++ decl :: back ∧
      (∀ earlier ∈ front, earlier.methodsWithoutSource = []) ∧ decl.methodsWithoutSource ≠ [] ∧
      error = .missingSource decl.qualifiedName decl.methodsWithoutSource := by
  induction classes with
  | nil => simp [missingSource?] at found
  | cons decl rest ih =>
      rw [missingSource?] at found
      split at found
      · next sourced =>
          obtain ⟨front, later, back, rfl, sourcedFront, missing, same⟩ := ih found
          exact ⟨decl :: front, later, back, rfl, List.forall_mem_cons.mpr ⟨sourced, sourcedFront⟩,
            missing, same⟩
      · next missing =>
          exact ⟨[], decl, rest, rfl, fun _ member => absurd member List.not_mem_nil, missing,
            (Option.some.inj found).symm⟩

/-- Nothing is removed, the directories made are on the way to the units of the classes reached, and
the files written, whatever they held before, are units of the classes written. -/
structure Frame (model : ClassModel) (output : String) (reached written : List ClassDecl)
    (before after : FileTree) : Prop where
  current : after.current = before.current
  directoriesStay : ∀ location, before.node? location = some .directory →
    after.node? location = some .directory
  filesStay : ∀ location content, before.node? location = some (.file content) →
    ∃ now, after.node? location = some (.file now)
  directories : ∀ location, after.node? location = some .directory →
    before.node? location = some .directory ∨ before.node? location = none ∧
      ∃ decl ∈ reached, location <+: (before.locate (decl.pathBelow output)).dropLast
  files : ∀ location content, after.node? location = some (.file content) →
    before.node? location = some (.file content) ∨
      ∃ decl ∈ written, content = (model.unitOf decl).toUTF8 ∧
        after.destination (decl.pathBelow output) = .ok (.present location (.file content))
  writes : ∃ locations, after.written = before.written ++ locations ∧
    ∀ location ∈ locations, ∃ decl ∈ written, after.Designates (decl.pathBelow output) location

theorem Frame.of_growth {model : ClassModel} {output : String} {reached written : List ClassDecl}
    {before after : FileTree} (straight : ".." ∉ Path.names output)
    (plain : ∀ decl ∈ reached, decl.IsPlain)
    (growth : Growth (IsAboveOne before output reached) (IsUnitOfOne model output written after)
      before after) :
    Frame model output reached written before after where
  current := growth.current
  directoriesStay := fun _ => growth.node?_of_directory
  filesStay := fun _ _ => growth.exists_node?_of_file
  directories := by
    intro location found
    rcases growth.node?_cases location with
      same | ⟨free, ⟨decl, member, above⟩, _⟩ | ⟨_, _, _, file⟩
    · exact .inl (same ▸ found)
    · have plainHere := plain decl member
      exact .inr ⟨free, decl, member, above (plainHere.listed output) (plainHere.straight straight)⟩
    · simp [file] at found
  files := by
    intro location content found
    rcases growth.node?_cases location with same | ⟨_, _, made⟩ | ⟨_, text, unit, file⟩
    · exact .inl (same ▸ found)
    · simp [made] at found
    · obtain rfl : text = content := by simpa [file] using found
      obtain ⟨decl, member, designates, bytes⟩ := unit
      exact .inr ⟨decl, member, bytes, destination_eq_file_iff.mpr ⟨designates, file⟩⟩
  writes := by
    obtain ⟨locations, log, among⟩ := growth.exists_written
    refine ⟨locations, log, fun location member => ?_⟩
    obtain ⟨_, decl, listed, designates, _⟩ := among location member
    exact ⟨decl, listed, designates⟩

/-- What emitting the units of a model comes to, from the tree that it starts with. -/
inductive Outcome (model : ClassModel) (output : String) (before : FileTree) :
    FileTree → Except EmissionError (List EmittedFile) → Prop
  | refused {front back : List ClassDecl} {decl : ClassDecl}
      (shape : model.classes = front ++ decl :: back)
      (sourced : ∀ earlier ∈ front, earlier.methodsWithoutSource = [])
      (missing : decl.methodsWithoutSource ≠ []) :
      Outcome model output before before
        (.error (.missingSource decl.qualifiedName decl.methodsWithoutSource))
  | stopped {front back : List ClassDecl} {decl : ClassDecl} {after : FileTree}
      {error : EmissionError}
      (sourced : ∀ decl ∈ model.classes, decl.methodsWithoutSource = [])
      (shape : model.classes = front ++ decl :: back)
      (concerns : error.Concerns (decl.pathBelow output))
      (frame : Frame model output (front ++ [decl]) front before after) :
      Outcome model output before after (.error error)
  | emitted {after : FileTree} {files : List EmittedFile}
      (sourced : ∀ decl ∈ model.classes, decl.methodsWithoutSource = [])
      (frame : Frame model output model.classes model.classes before after) :
      Outcome model output before after (.ok files)

theorem outcome_emit {model : ClassModel} {output : String} (dryRun : Bool) (before : FileTree)
    (straight : ".." ∉ Path.names output) (plain : ∀ decl ∈ model.classes, decl.IsPlain) :
    Outcome model output before (model.emit output dryRun before).1
      (model.emit output dryRun before).2 := by
  rw [ClassModel.emit]
  split
  · next error found =>
      obtain ⟨front, decl, back, shape, sourced, missing, rfl⟩ := missingSource?_eq_some found
      exact .refused shape sourced missing
  · next nothing =>
      have sourced := missingSource?_eq_none_iff.mp nothing
      cases run : emitAll model output dryRun before model.classes with
      | mk after result => cases result with
        | ok files => exact .emitted sourced (.of_growth straight plain (emitAll_ok run))
        | error error =>
            obtain ⟨front, decl, back, shape, concerns, growth⟩ := emitAll_error run
            refine .stopped sourced shape concerns
              (.of_growth straight (fun other member => ?_) growth)
            have wholeShape : model.classes = (front ++ [decl]) ++ back := by simp [shape]
            exact plain other (wholeShape ▸ List.mem_append_left back member)

theorem Outcome.refused_iff {model : ClassModel} {output : String} {before after : FileTree}
    {result : Except EmissionError (List EmittedFile)}
    (outcome : Outcome model output before after result) :
    (∃ owner methods, result = .error (.missingSource owner methods)) ↔
      ∃ decl ∈ model.classes, ∃ signature ∈ decl.declaredMethods,
        decl.methodSource? signature = none := by
  have lacks (decl : ClassDecl) : decl.methodsWithoutSource = [] ↔
      ¬∃ signature ∈ decl.declaredMethods, decl.methodSource? signature = none := by
    simp [ClassDecl.methodsWithoutSource]
  cases outcome with
  | @refused front back decl shape sourced missing =>
      refine iff_of_true ⟨_, _, rfl⟩ ⟨decl, by simp [shape], ?_⟩
      by_contra none
      exact missing ((lacks decl).mpr none)
  | @stopped front back decl after error sourced shape concerns frame =>
      refine iff_of_false ?_ ?_
      · rintro ⟨owner, methods, same⟩
        obtain rfl := Except.error.inj same
        exact concerns
      · rintro ⟨other, member, missing⟩
        exact (lacks other).mp (sourced other member) missing
  | emitted sourced frame =>
      refine iff_of_false (by simp) ?_
      rintro ⟨other, member, missing⟩
      exact (lacks other).mp (sourced other member) missing

end Emission

/-- The build fails before it emits anything. -/
def BuildError.IsEarly : BuildError → Prop
  | .switches _ => True
  | .load _ => True
  | .emission _ (.missingSource _ _) => True
  | .emission _ _ => False

namespace Build

/-- The documents at the roots of the build. -/
def documents (build : Build) (tree : FileTree) : List String :=
  build.roots.flatMap (Discovery.documents tree)

/-- The build gets as far as emitting the model that it has loaded. -/
structure Loads (build : Build) (tree : FileTree) (options : Options) (loaded : ClassModel) :
    Prop where
  applied : Switches.apply build.options build.arguments = .ok options
  found : build.documents tree ≠ []
  loaded : ClassModel.loadFiles tree (build.documents tree) = .ok loaded

variable {build : Build} {tree : FileTree}

/-- What a build makes of the result of emitting its units. -/
def conclude (build : Build) (documents : List String) (report : Report) :
    FileTree × Except EmissionError (List EmittedFile) → FileTree × Except BuildError BuildSummary
  | (changed, .error error) => (changed, .error (.emission build.output error))
  | (changed, .ok files) => (changed, .ok ⟨documents, report, files⟩)

theorem Loads.run_eq {options : Options} {loaded : ClassModel}
    (loads : build.Loads tree options loaded) :
    build.run tree = build.conclude (build.documents tree) (loaded.generate options).2
      ((loaded.generate options).1.emit build.output false tree) := by
  have found : ¬(build.documents tree).isEmpty = true := by simpa using loads.found
  have known := loads.loaded
  rw [documents] at found known
  simp only [run, loads.applied, if_neg found, known, documents]
  cases emitted : (loaded.generate options).1.emit build.output false tree with
  | mk changed result => cases result <;> rfl

theorem run_cases (build : Build) (tree : FileTree) :
    (∃ error : BuildError, error.IsEarly ∧ build.run tree = (tree, .error error)) ∨
      (build.documents tree = [] ∧ build.run tree = (tree, .ok .empty)) ∨
      ∃ options loaded, build.Loads tree options loaded := by
  cases applied : Switches.apply build.options build.arguments with
  | error error => exact .inl ⟨.switches error, trivial, by simp only [run, applied]⟩
  | ok options =>
      by_cases nothing : build.documents tree = []
      · refine .inr (.inl ⟨nothing, ?_⟩)
        rw [documents] at nothing
        simp only [run, applied, nothing, List.isEmpty_nil, if_true]
      · cases known : ClassModel.loadFiles tree (build.documents tree) with
        | error error =>
            have found : ¬(build.documents tree).isEmpty = true := by simpa using nothing
            rw [documents] at found known
            exact .inl ⟨.load error, trivial, by simp only [run, applied, if_neg found, known]⟩
        | ok loaded => exact .inr (.inr ⟨options, loaded, applied, nothing, known⟩)

/-- A build that fails before it emits anything leaves the tree as it is. -/
theorem run_unchanged {error : BuildError} (failed : (build.run tree).2 = .error error)
    (early : error.IsEarly) : (build.run tree).1 = tree := by
  rcases build.run_cases tree with ⟨_, _, run⟩ | ⟨_, run⟩ | ⟨options, loaded, loads⟩
  · rw [run]
  · rw [run]
  · rw [loads.run_eq] at failed ⊢
    cases emitted : (loaded.generate options).1.emit build.output false tree with
    | mk changed result => cases result with
      | ok files => simp [emitted, conclude] at failed
      | error cause =>
          obtain rfl : BuildError.emission build.output cause = error := by
            simpa [emitted, conclude] using failed
          change changed = tree
          rw [ClassModel.emit] at emitted
          split at emitted
          · obtain ⟨same, _⟩ : tree = changed ∧ _ := by simpa using emitted
            exact same.symm
          · -- Behind the check for sources, an error is about a path, so it is no early one.
            obtain ⟨_, decl, _, _, concerns, _⟩ := Emission.emitAll_error emitted
            cases cause <;> simp [BuildError.IsEarly, EmissionError.Concerns] at early concerns

end Build

namespace ClassModel

/-- A model with an unsourced method is refused without a trace.  Any other emission writes units of
the classes before an obstacle, or of all classes, and makes directories on the way to them; nothing
else changes.  So a build that fails before emission leaves the tree as it is. -/
theorem emit_frames_tree (model : ClassModel) (output : String) (dryRun : Bool) (tree : FileTree)
    (straight : ".." ∉ Path.components output) (plain : ∀ decl ∈ model.classes, decl.IsPlain) :
    Emission.Outcome model output tree (model.emit output dryRun tree).1
        (model.emit output dryRun tree).2 ∧
      ((∃ owner methods,
          (model.emit output dryRun tree).2 = .error (.missingSource owner methods)) ↔
        ∃ decl ∈ model.classes, ∃ signature ∈ decl.declaredMethods,
          decl.methodSource? signature = none) ∧
      ∀ (build : Build) (error : BuildError), (build.run tree).2 = .error error → error.IsEarly →
        (build.run tree).1 = tree := by
  rw [Path.components_eq, List.mem_append, not_or] at straight
  have outcome : Emission.Outcome model output tree _ _ :=
    Emission.outcome_emit dryRun tree straight.2 plain
  exact ⟨outcome, outcome.refused_iff, fun build error => Build.run_unchanged⟩

/-- A class with a package and nothing else. -/
def bareClass (package name : String) : ClassDecl :=
  ⟨name, some package, false, [], none, [], []⟩

/-- A tree with a directory where the unit of the second class would be. -/
def obstructedTree : FileTree :=
  ⟨[(["out"], .directory), (["out", "b"], .directory),
    (["out", "b", "Second.java"], .directory)], [], []⟩

/-- A model with three classes, each in its own package. -/
def threeClasses : ClassModel :=
  ⟨[bareClass "a" "First", bareClass "b" "Second", bareClass "c" "Third"], []⟩

theorem emit_frames_obstructed_tree :
    ".." ∉ Path.components "out" ∧ (∀ decl ∈ threeClasses.classes, decl.IsPlain) ∧
      Emission.Outcome threeClasses "out" obstructedTree
        (threeClasses.emit "out" false obstructedTree).1
        (threeClasses.emit "out" false obstructedTree).2 ∧
      (threeClasses.emit "out" false obstructedTree).2 =
        .error (.read "out/b/Second.java" .isDirectory) ∧
      (threeClasses.emit "out" false obstructedTree).1.isFile "out/a/First.java" ∧
      (threeClasses.emit "out" false obstructedTree).1.node? ["out", "c"] = none := by
  have straight : ".." ∉ Path.components "out" := by decide
  have plain : ∀ decl ∈ threeClasses.classes, decl.IsPlain := by decide
  exact ⟨straight, plain,
    (emit_frames_tree threeClasses "out" false obstructedTree straight plain).1,
    by decide +kernel, by decide +kernel, by decide +kernel⟩

end ClassModel
end ValueMethods
