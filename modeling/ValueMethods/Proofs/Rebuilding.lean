import ValueMethods.Proofs.UnitPlaces

/-!
# Building again

A build that has succeeded does nothing when it is run again.  The directories and units of the
first run are no documents and do not replace any, so the second run finds and loads the same
documents, generates the same methods, and finds each unit in its file.
-/

namespace ValueMethods

open FileTree

/-! ### Units are no documents -/

theorem extensionOf_unit (name : List Char) :
    Path.extensionOf (name ++ ".java".toList) = none ∨
      Path.extensionOf (name ++ ".java".toList) = some "java" := by
  have before : Text.beforeLast? '.' (name ++ ".java".toList) = some name := by
    simp [Text.beforeLast?]
  have behind : Text.afterLast '.' (name ++ ".java".toList) = "java".toList := by
    simp [Text.afterLast]
  rw [Path.extensionOf, before, behind]
  cases name with
  | nil => exact .inl rfl
  | cons first rest => exact .inr (by simp)

namespace ClassDecl

theorem extensionOf_fileName (decl : ClassDecl) :
    Path.extensionOf (decl.name ++ ".java").toList = none ∨
      Path.extensionOf (decl.name ++ ".java").toList = some "java" := by
  rw [String.toList_append]
  exact extensionOf_unit decl.name.toList

/-- However many names are dropped in front, those of a unit are not the names of a document. -/
theorem isDocument_drop (decl : ClassDecl) (place : Location) (count : Nat) :
    Discovery.isDocument ((place ++ decl.unitNames).drop count) = false := by
  rw [unitNames, ← List.append_assoc]
  unfold Discovery.isDocument
  by_cases all : (place ++ decl.packageParts ++ [decl.name ++ ".java"]).length ≤ count
  · rw [List.drop_eq_nil_of_le all]
    rfl
  · have last : ((place ++ decl.packageParts ++ [decl.name ++ ".java"]).drop count).getLast? =
        some (decl.name ++ ".java") := by
      rw [List.getLast?_drop, if_neg all, List.getLast?_concat]
    have extension := decl.extensionOf_fileName
    simp only [last]
    generalize decl.name ++ ".java" = name at extension
    rcases extension with none | java
    · simp [none]
    · simp [java, Discovery.documentExtensions]

end ClassDecl

/-- A path that leads to the place of a unit has not the extension of a document. -/
theorem FileTree.Designates.no_format {tree : FileTree} {path : String} {place : Location}
    {decl : ClassDecl} (designates : tree.Designates path (place ++ decl.unitNames)) :
    (Path.extension? path).bind DocumentFormat.ofExtension? = none := by
  have last : (place ++ decl.unitNames).getLast? = some (decl.name ++ ".java") := by
    rw [ClassDecl.unitNames, ← List.append_assoc, List.getLast?_concat]
  have extension := decl.extensionOf_fileName
  rw [Path.extension?, designates.fileName?_eq, last, Option.map_some, Option.bind_some]
  rcases extension with none | java
  · rw [none]
    rfl
  · rw [java]
    rfl

/-! ### Finding and loading the documents again -/

namespace Build

/-- No path of the build steps upward, and no root lies inside the output. -/
structure IsSeparate (build : Build) (tree : FileTree) : Prop where
  roots : ∀ root ∈ build.roots, ".." ∉ Path.components root
  output : ".." ∉ Path.components build.output
  outside : ∀ root ∈ build.roots, ∀ rest,
    tree.locate root = tree.locate build.output ++ rest → rest = []

end Build

/-- The location is the place of the unit of a class below the location of the output. -/
def IsUnitPlace (output : Location) (location : Location) (_ : ByteArray) : Prop :=
  ∃ decl : ClassDecl, location = output ++ decl.unitNames

section Growing

variable {directories : Location → Prop} {output : Location} {before after : FileTree}

theorem documents_growth {root : String}
    (growth : Growth directories (IsUnitPlace output) before after) (grounded : before.IsGrounded)
    (straight : ".." ∉ Path.names root)
    (outside : ∀ rest, before.locate root = output ++ rest → rest = []) :
    Discovery.documents after root = Discovery.documents before root := by
  have below (location : Location) : Discovery.documentsBelow after root location =
      Discovery.documentsBelow before root location := by
    refine Discovery.documentsBelow_growth growth ?_ root location
    rintro _ _ ⟨decl, rfl⟩ count
    exact decl.isDocument_drop output count
  have started : after.start root = before.start root := by rw [start, start, growth.current]
  -- At a root that led nowhere there is no file now, and nothing below a new directory.
  have nothing (missing : ∀ location node, before.destination root ≠ .ok (.present location node)) :
      Discovery.documents after root = [] := by
    unfold Discovery.documents
    split
    · next location content reached =>
        obtain ⟨designates, found⟩ := destination_eq_file_iff.mp reached
        rcases growth.node?_cases location with same | ⟨_, _, made⟩ | ⟨_, _, ⟨decl, unit⟩, _⟩
        · rw [same] at found
          have before := designates.of_grounded straight grounded growth.current found
          exact absurd (destination_eq_file_iff.mpr ⟨before, found⟩) (missing _ _)
        · simp [made] at found
        · have place := designates.location_eq straight
          rw [growth.locate_eq, unit] at place
          have impossible := outside _ place.symm
          simp [ClassDecl.unitNames] at impossible
    · next location reached =>
        obtain ⟨usable, follows⟩ := destination_eq_ok_iff.mp reached
        cases follows with
        | directory leads =>
            rw [below, Discovery.documentsBelow_eq_nil grounded root, List.map_nil]
            intro known
            have leadsBefore := leads.of_grounded (not_mem_pieces straight) grounded known
            rw [started] at leadsBefore
            exact missing _ _ (destination_eq_ok_iff.mpr ⟨usable, .directory leadsBefore⟩)
    · rfl
  cases reached : before.destination root with
  | error cause =>
      rw [nothing (by simp [reached]), Discovery.documents, reached]
  | ok destination => cases destination with
    | absent location => rw [nothing (by simp [reached]), Discovery.documents, reached]
    | present location node => cases node with
      | file content =>
          obtain ⟨_, still⟩ := growth.exists_destination_of_file reached
          rw [Discovery.documents, Discovery.documents, reached, still]
      | directory =>
          rw [Discovery.documents, Discovery.documents, reached,
            growth.destination_of_directory reached]
          simp only [below]

theorem read_growth {path : String} {content : ByteArray}
    (growth : Growth directories (IsUnitPlace output) before after)
    (format : (Path.extension? path).bind DocumentFormat.ofExtension? ≠ none)
    (readable : before.read path = .ok content) : after.read path = .ok content := by
  refine growth.read readable ?_
  rintro _ _ ⟨decl, rfl⟩ designates
  exact format designates.no_format

theorem ofFile_growth {path : String} {document : Document}
    (growth : Growth directories (IsUnitPlace output) before after)
    (known : Document.ofFile before path = .ok document) :
    Document.ofFile after path = .ok document := by
  have format : (Path.extension? path).bind DocumentFormat.ofExtension? ≠ none := by
    intro none
    unfold Document.ofFile at known
    split at known
    · simp at known
    · simp [none] at known
  have sameText : after.readText path = before.readText path := by
    cases result : before.read path with
    | error cause => simp [Document.ofFile, FileTree.readText, result] at known
    | ok content =>
        rw [FileTree.readText, FileTree.readText, result, read_growth growth format result]
  unfold Document.ofFile at known ⊢
  rw [sameText]
  exact known

theorem ofFiles_growth {paths : List String} {documents : List Document}
    (growth : Growth directories (IsUnitPlace output) before after)
    (known : Document.ofFiles before paths = .ok documents) :
    Document.ofFiles after paths = .ok documents := by
  induction paths generalizing documents with
  | nil => exact known
  | cons path rest ih =>
      rw [Document.ofFiles] at known ⊢
      cases first : Document.ofFile before path with
      | error error => simp [first] at known
      | ok document =>
          rw [ofFile_growth growth first]
          cases further : Document.ofFiles before rest with
          | error error => simp [first, further, Except.map] at known
          | ok others =>
              rw [first, further] at known
              rwa [ih further]

theorem loadFiles_growth {paths : List String} {loaded : ClassModel}
    (growth : Growth directories (IsUnitPlace output) before after)
    (known : ClassModel.loadFiles before paths = .ok loaded) :
    ClassModel.loadFiles after paths = .ok loaded := by
  unfold ClassModel.loadFiles at known ⊢
  split at known
  · simp at known
  · next documents read => rwa [ofFiles_growth growth read]

end Growing

/-! ### Emitting again -/

/-- What a build says of a file that it has left alone. -/
def EmittedFile.left (file : EmittedFile) : EmittedFile :=
  { file with status := .unchanged }

namespace Emission

variable {model : ClassModel} {output : String} {classes : List ClassDecl}

theorem map_left_of_emitAll {dryRun : Bool} {tree changed : FileTree} {files : List EmittedFile}
    (emitted : emitAll model output dryRun tree classes = (changed, .ok files)) :
    files.map EmittedFile.left =
      classes.map fun decl => ⟨decl.qualifiedName, decl.pathBelow output, .unchanged⟩ := by
  induction classes generalizing tree files with
  | nil =>
      obtain ⟨_, rfl⟩ : _ ∧ [] = files := by simpa [emitAll_nil] using emitted
      rfl
  | cons decl rest ih =>
      obtain ⟨between, status, others, one, more, rfl⟩ := emitAll_cons_ok emitted
      rw [List.map_cons, List.map_cons, ih more]
      rfl

/-- Where each file holds its unit already, emitting changes nothing. -/
theorem emitAll_of_read {dryRun : Bool} {tree : FileTree}
    (readable : ∀ decl ∈ classes,
      tree.read (decl.pathBelow output) = .ok (model.unitOf decl).toUTF8) :
    emitAll model output dryRun tree classes =
      (tree, .ok (classes.map fun decl =>
        ⟨decl.qualifiedName, decl.pathBelow output, .unchanged⟩)) := by
  induction classes with
  | nil => rfl
  | cons decl rest ih =>
      obtain ⟨here, later⟩ := List.forall_mem_cons.mp readable
      have settled : Emission.status tree (decl.pathBelow output) (model.unitOf decl) =
          .ok .unchanged := by
        have same := (isTextOf_iff (model.unitOf decl).toUTF8 (model.unitOf decl)).mpr rfl
        simp only [Emission.status, here, same, if_true]
      have one : emitText dryRun tree (decl.pathBelow output) (model.unitOf decl) =
          (tree, .ok .unchanged) := by
        rw [emitText, settled]
      rw [emitAll_cons, one]
      simp only [ih later, List.map_cons]

/-- The growth of an emission, as far as it concerns documents. -/
theorem emitAll_unitPlaces {tree changed : FileTree} {files : List EmittedFile} {dryRun : Bool}
    (straight : ".." ∉ Path.names output) (plain : ∀ decl ∈ classes, decl.IsPlain)
    (emitted : emitAll model output dryRun tree classes = (changed, .ok files)) :
    Growth (IsAboveOne tree output classes) (IsUnitPlace (tree.locate output)) tree changed := by
  have growth := emitAll_ok emitted
  refine growth.mono (fun _ above => above) ?_
  rintro location content ⟨decl, member, designates, _⟩
  have plainHere := plain decl member
  refine ⟨decl, ?_⟩
  rw [designates.location_eq (plainHere.straight straight), growth.locate_eq, ClassDecl.pathBelow,
    tree.locate_join output plainHere.relative, plainHere.names_unitPath]

end Emission

/-! ### The second run -/

namespace ClassModel

variable (loaded : ClassModel) (options : Options)

theorem unitPaths_generate :
    (loaded.generate options).1.classes.map ClassDecl.unitPath =
      loaded.classes.map ClassDecl.unitPath := by
  have same : (loaded.generate options).1.classes.map ClassDecl.outline =
      loaded.classes.map ClassDecl.outline := outlines_generate loaded options
  have through : ClassDecl.unitPath =
      (fun outline : Outline => (outline.decl []).unitPath) ∘ ClassDecl.outline := rfl
  rw [through, ← List.map_map, ← List.map_map, same]

theorem plain_generate {loaded : ClassModel} (plain : ∀ decl ∈ loaded.classes, decl.IsPlain) :
    ∀ decl ∈ (loaded.generate options).1.classes, decl.IsPlain := by
  intro decl member
  have listed : decl.outline ∈ (loaded.generate options).1.outlines := List.mem_map_of_mem member
  rw [outlines_generate] at listed
  obtain ⟨old, known, same⟩ := List.mem_map.mp listed
  have name : old.name = decl.name := congrArg Outline.name same
  have package : old.package = decl.package := congrArg Outline.package same
  have plainOld := plain old known
  exact ⟨name ▸ plainOld.name, package ▸ plainOld.package⟩

end ClassModel

namespace Build

/-- The second run of a build finds the same documents, gives the same report and leaves every file
alone; nothing is written, not even what is there already. -/
theorem second_run_unchanged {build : Build} {tree after : FileTree} {summary : BuildSummary}
    (grounded : tree.IsGrounded) (separate : build.IsSeparate tree)
    (proper : ∀ loaded, ClassModel.loadFiles tree (build.documents tree) = .ok loaded →
      (∀ decl ∈ loaded.classes, decl.IsPlain) ∧ (loaded.classes.map ClassDecl.unitPath).Nodup)
    (ran : build.run tree = (after, .ok summary)) :
    build.run after =
      (after, .ok { summary with files := summary.files.map EmittedFile.left }) := by
  have straight {path : String} (steps : ".." ∉ Path.components path) : ".." ∉ Path.names path := by
    rw [Path.components_eq, List.mem_append, not_or] at steps
    exact steps.2
  rcases build.run_cases tree with ⟨error, _, run⟩ | ⟨nothing, run⟩ | ⟨options, loaded, loads⟩
  · simp [run] at ran
  · obtain ⟨rfl, rfl⟩ : tree = after ∧ .empty = summary := by simpa [run] using ran
    exact run
  · obtain ⟨plain, apart⟩ := proper loaded loads.loaded
    have plainToo := ClassModel.plain_generate options plain
    rw [← ClassModel.unitPaths_generate loaded options] at apart
    rw [loads.run_eq, ClassModel.emit] at ran
    cases sourced : Emission.missingSource? (loaded.generate options).1.classes with
    | some error => simp [sourced, conclude] at ran
    | none =>
        cases emitted : Emission.emitAll (loaded.generate options).1 build.output false tree
            (loaded.generate options).1.classes with
        | mk changed result => cases result with
          | error error => simp [sourced, emitted, conclude] at ran
          | ok files =>
              obtain ⟨rfl, rfl⟩ : changed = after ∧ _ = summary := by
                simpa [sourced, emitted, conclude] using ran
              -- The second run gets as far as the first one, with the same model.
              have growth := Emission.emitAll_unitPlaces (straight separate.output) plainToo emitted
              have same : build.documents changed = build.documents tree := by
                refine List.flatMap_congr fun root member => ?_
                exact documents_growth growth grounded (straight (separate.roots root member))
                  (separate.outside root member)
              have loadsAgain : build.Loads changed options loaded := by
                refine ⟨loads.applied, same ▸ loads.found, ?_⟩
                rw [same]
                exact loadFiles_growth growth loads.loaded
              have readable := Emission.emitAll_read plainToo apart emitted
              rw [loadsAgain.run_eq, ClassModel.emit, sourced, same]
              simp only [Emission.emitAll_of_read readable, conclude,
                Emission.map_left_of_emitAll emitted]

/-- A tree with one document. -/
def documentTree : FileTree :=
  ⟨[(["schema"], .directory),
    (["schema", "m.json"],
      .file
        "\x7b\"classes\": [\x7b\"name\": \"Point\", \"package\": \"geo\"\x7d]\x7d".toUTF8)],
    [], []⟩

/-- A build whose output lies inside a root. -/
def nestedBuild : Build :=
  ⟨[], "schema/out", [], .default⟩

theorem second_run_unchanged_on_nestedBuild :
    documentTree.IsGrounded ∧ nestedBuild.IsSeparate documentTree ∧
      ∃ after summary, nestedBuild.run documentTree = (after, .ok summary) ∧
        summary.files = [⟨"geo.Point", "schema/out/geo/Point.java", .created⟩] ∧
        nestedBuild.run after = (after, .ok
          { summary with files := [⟨"geo.Point", "schema/out/geo/Point.java", .unchanged⟩] }) := by
  have grounded : documentTree.IsGrounded := by
    unfold FileTree.IsGrounded
    decide +kernel
  have separate : nestedBuild.IsSeparate documentTree := by
    refine ⟨by decide, by decide, fun root member rest same => ?_⟩
    obtain rfl : root = "schema/" := by simpa [nestedBuild, roots, usualModels] using member
    have places : documentTree.locate "schema/" = ["schema"] ∧
        documentTree.locate nestedBuild.output = ["schema", "out"] := by decide
    simp [places.1, places.2] at same
  have proper : ∀ loaded,
      ClassModel.loadFiles documentTree (nestedBuild.documents documentTree) = .ok loaded →
        (∀ decl ∈ loaded.classes, decl.IsPlain) ∧
          (loaded.classes.map ClassDecl.unitPath).Nodup := by
    have checked : ∀ loaded ∈ (ClassModel.loadFiles documentTree
        (nestedBuild.documents documentTree)).toOption,
          (∀ decl ∈ loaded.classes, decl.IsPlain) ∧
            (loaded.classes.map ClassDecl.unitPath).Nodup := by decide +kernel
    intro loaded known
    exact checked loaded (by rw [known]; rfl)
  have written : (nestedBuild.run documentTree).2.toOption.map BuildSummary.files =
      some [⟨"geo.Point", "schema/out/geo/Point.java", .created⟩] := by decide +kernel
  cases run : nestedBuild.run documentTree with
  | mk after result => cases result with
    | error error => simp [run, Except.toOption] at written
    | ok summary =>
        have files : summary.files = [⟨"geo.Point", "schema/out/geo/Point.java", .created⟩] := by
          simpa [run, Except.toOption] using written
        have again := second_run_unchanged grounded separate proper run
        rw [files] at again
        exact ⟨grounded, separate, after, summary, rfl, files, again⟩

end Build
end ValueMethods
