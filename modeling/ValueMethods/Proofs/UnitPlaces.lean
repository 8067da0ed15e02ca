import ValueMethods.Proofs.Emitting
import ValueMethods.Proofs.Hierarchy
import ValueMethods.Proofs.Processed

/-!
# Where units belong

The path of a unit drops empty parts of the package, so two classes share it exactly if they have
the same name and their packages the same parts that are not empty.  Classes with different paths
have their files at different places, each below the directory that the output leads to, and after
an emission each file holds the unit of its class.
-/

namespace ValueMethods

/-! ### The directory that a path starts in -/

namespace FileTree

variable {tree : FileTree}

/-- Void names make no difference. -/
theorem leads_filter_iff {place target : Location} {names : List String} :
    tree.Leads place (names.filter fun name => !Path.isVoid name.toList) target ↔
      tree.Leads place names target := by
  induction names generalizing place with
  | nil => exact Iff.rfl
  | cons name rest ih =>
      by_cases void : Path.isVoid name.toList = true
      · rw [List.filter_cons_of_neg (by simpa using void), ih]
        refine ⟨.stay void, fun leads => ?_⟩
        cases leads with
        | stay _ onward => exact onward
        | up _ => exact absurd void (by decide)
        | down proper _ _ => simp [proper.visible] at void
      · rw [List.filter_cons_of_pos (by simpa using void)]
        constructor
        · intro leads
          cases leads with
          | stay skipped _ => exact absurd skipped void
          | up onward => exact .up (ih.mp onward)
          | down proper inside onward => exact .down proper inside (ih.mp onward)
        · intro leads
          cases leads with
          | stay skipped _ => exact absurd skipped void
          | up onward => exact .up (ih.mpr onward)
          | down proper inside onward => exact .down proper inside (ih.mpr onward)

/-- What is followed ends below the place that the first part of the names leads to, if there is no
step upward in the rest. -/
theorem Follows.exists_base {place : Location} {names upper lower : List String}
    {destination : Destination} (follows : tree.Follows place names destination)
    (listed : (names.filter fun name => !Path.isVoid name.toList) = upper ++ lower)
    (nonempty : lower ≠ []) (straight : ".." ∉ lower) :
    ∃ base, tree.Leads place upper base ∧ destination.location = base ++ lower := by
  have visible {part : List String} (among : part ⊆ lower) :
      (part.filter fun name => !Path.isVoid name.toList) = part := by
    refine List.filter_eq_self.mpr fun name member => ?_
    have kept : name ∈ upper ++ lower := List.mem_append_right upper (among member)
    rw [← listed] at kept
    exact (List.mem_filter.mp kept).2
  -- A last name behind names that lead to a directory is the last one of the lower part.
  have ending {front : List String} {name : String} {target : Location}
      (shape : (front.filter fun name => !Path.isVoid name.toList) ++ [name] = upper ++ lower)
      (leads : tree.Leads place front target) :
      ∃ base, tree.Leads place upper base ∧ target ++ [name] = base ++ lower := by
    obtain ⟨inner, last, rfl⟩ := (List.eq_nil_or_concat' lower).resolve_left nonempty
    rw [← List.append_assoc] at shape
    obtain ⟨sameFront, sameLast⟩ := List.append_inj' shape rfl
    obtain rfl : name = last := by simpa using sameLast
    rw [← leads_filter_iff, sameFront] at leads
    obtain ⟨base, first, second⟩ := leads.of_append
    have straightInner : ".." ∉ inner := fun upward => straight (List.mem_append_left _ upward)
    refine ⟨base, first, ?_⟩
    rw [second.location_eq straightInner, visible (List.subset_append_left _ _), List.append_assoc]
  cases follows with
  | directory leads =>
      rw [← leads_filter_iff, listed] at leads
      obtain ⟨base, first, second⟩ := leads.of_append
      refine ⟨base, first, ?_⟩
      rw [Destination.location, second.location_eq straight, visible (List.Subset.refl lower)]
  | file shape leads proper _ =>
      refine ending ?_ leads
      rw [← listed, shape]
      simp [proper.visible]
  | @free front blanks name target shape blank leads proper _ =>
      refine ending ?_ leads
      rw [← listed, shape]
      simp [proper.visible, Path.filter_blanks blank]

/-- The directory that paths below an output start in. -/
def IsBase (tree : FileTree) (output : String) (base : Location) : Prop :=
  if output = "" then base = tree.current
  else tree.destination output = .ok (.present base .directory)

end FileTree

theorem Path.IsUsable.of_join {base part : String} (usable : IsUsable (join base part))
    (relative : ¬IsRooted part) (nonempty : base ≠ "") : IsUsable base := by
  rw [join_of_relative base relative] at usable
  have whole : ∃ rest, IsUsable (base ++ rest) := by
    split at usable
    · exact ⟨part, usable⟩
    · exact ⟨"/" ++ part, by rwa [← String.append_assoc]⟩
  obtain ⟨rest, noNul, _, short⟩ := whole
  refine ⟨fun nul => noNul (by simp [nul]), nonempty, ?_⟩
  rw [String.utf8ByteSize_append] at short
  omega

namespace FileTree

theorem isBase_of_leads {tree : FileTree} {output part : String} {base : Location}
    (leads : tree.Leads (tree.start output) (Path.names output) base)
    (usable : Path.IsUsable (Path.join output part)) (relative : ¬Path.IsRooted part) :
    tree.IsBase output base := by
  unfold IsBase
  split
  · next empty =>
      subst empty
      cases leads
      rfl
  · next nonempty =>
      refine destination_eq_ok_iff.mpr ⟨usable.of_join relative nonempty, .directory ?_⟩
      exact leads_filter_iff.mp leads

end FileTree

/-! ### The place of a unit -/

namespace ClassDecl

variable {decl other : ClassDecl} {tree : FileTree} {output : String}

/-- No part of the package is empty. -/
def IsWhole (decl : ClassDecl) : Prop :=
  ∀ package, decl.package = some package → package = "" ∨ "" ∉ Text.pieces '.' package

theorem IsPlain.exists_leads (plain : decl.IsPlain) {destination : Destination}
    (reached : tree.destination (decl.pathBelow output) = .ok destination) :
    ∃ base, tree.Leads (tree.start output) (Path.names output) base ∧
      destination.location = base ++ decl.unitNames := by
  obtain ⟨_, follows⟩ := FileTree.destination_eq_ok_iff.mp reached
  rw [pathBelow, tree.start_join output plain.relative] at follows
  exact follows.exists_base (plain.names_pathBelow output) (by simp [unitNames])
    decl.straight_unitNames

/-- The file of a class lies below the directory that the output leads to. -/
theorem IsPlain.exists_isBase (plain : decl.IsPlain) {destination : Destination}
    (reached : tree.destination (decl.pathBelow output) = .ok destination) :
    ∃ base, tree.IsBase output base ∧ destination.location = base ++ decl.unitNames := by
  obtain ⟨base, leads, place⟩ := plain.exists_leads reached
  have usable := (FileTree.destination_eq_ok_iff.mp reached).1
  exact ⟨base, FileTree.isBase_of_leads leads usable plain.relative, place⟩

theorem unitNames_eq_iff :
    decl.unitNames = other.unitNames ↔
      decl.name = other.name ∧ decl.packageParts = other.packageParts := by
  rw [unitNames, unitNames]
  constructor
  · intro same
    obtain ⟨parts, last⟩ := List.append_inj' same rfl
    have names : decl.name ++ ".java" = other.name ++ ".java" := by simpa using last
    exact ⟨(String.append_left_inj _).mp names, parts⟩
  · rintro ⟨name, parts⟩
    rw [name, parts]

/-- Plain classes share a path exactly if they share the name and the parts of the package. -/
theorem IsPlain.unitPath_eq_iff (plain : decl.IsPlain) (plainToo : other.IsPlain) :
    decl.unitPath = other.unitPath ↔
      decl.name = other.name ∧ decl.packageParts = other.packageParts := by
  constructor
  · intro same
    rw [← unitNames_eq_iff, ← plain.names_unitPath, ← plainToo.names_unitPath, same]
  · rintro ⟨name, parts⟩
    rw [unitPath_eq, unitPath_eq, name, parts]

theorem IsPlain.location_eq_iff (plain : decl.IsPlain) (plainToo : other.IsPlain)
    {first second : Destination}
    (reached : tree.destination (decl.pathBelow output) = .ok first)
    (reachedToo : tree.destination (other.pathBelow output) = .ok second) :
    first.location = second.location ↔ decl.unitPath = other.unitPath := by
  obtain ⟨base, leads, place⟩ := plain.exists_leads reached
  obtain ⟨baseToo, leadsToo, placeToo⟩ := plainToo.exists_leads reachedToo
  obtain rfl := leads.unique leadsToo
  rw [place, placeToo, List.append_cancel_left_eq, unitNames_eq_iff, plain.unitPath_eq_iff plainToo]

theorem IsPlain.unitPath_eq_of_designates (plain : decl.IsPlain) (plainToo : other.IsPlain)
    {location : Location} (designates : tree.Designates (decl.pathBelow output) location)
    (designatesToo : tree.Designates (other.pathBelow output) location) :
    decl.unitPath = other.unitPath := by
  obtain ⟨_, reached, place⟩ := designates.exists_destination
  obtain ⟨_, reachedToo, placeToo⟩ := designatesToo.exists_destination
  exact (plain.location_eq_iff plainToo reached reachedToo).mp (place.trans placeToo.symm)

theorem IsWhole.package_cases (whole : decl.IsWhole) :
    (decl.packageParts = [] ∧ decl.qualifiedName = decl.name) ∨
      ∃ package, decl.packageParts = Text.pieces '.' package ∧
        decl.qualifiedName = package ++ "." ++ decl.name := by
  unfold packageParts qualifiedName qualifyName
  cases known : decl.package with
  | none => exact .inl ⟨rfl, rfl⟩
  | some package =>
      by_cases empty : package = ""
      · subst empty
        exact .inl ⟨by decide, rfl⟩
      · have parts := (whole package known).resolve_left empty
        refine .inr ⟨package, ?_, if_neg (by simpa using empty)⟩
        refine List.filter_eq_self.mpr fun part member => ?_
        have nonempty : part ≠ "" := fun nothing => parts (nothing ▸ member)
        simpa using nonempty

/-- A whole package is known from its parts. -/
theorem IsWhole.qualifiedName_eq (whole : decl.IsWhole) (wholeToo : other.IsWhole)
    (name : decl.name = other.name) (parts : decl.packageParts = other.packageParts) :
    decl.qualifiedName = other.qualifiedName := by
  have someParts (package : String) : Text.pieces '.' package ≠ [] := by
    simp [Text.pieces, Text.splitOn_ne_nil]
  rcases whole.package_cases with ⟨nothing, known⟩ | ⟨package, pieces, known⟩ <;>
    rcases wholeToo.package_cases with ⟨nothingToo, knownToo⟩ | ⟨packageToo, piecesToo, knownToo⟩
  · rw [known, knownToo, name]
  · exact absurd (piecesToo.symm.trans (parts.symm.trans nothing)) (someParts packageToo)
  · exact absurd (pieces.symm.trans (parts.trans nothingToo)) (someParts package)
  · have same := Text.pieces_injective '.' (pieces.symm.trans (parts.trans piecesToo))
    rw [known, knownToo, name, same]

end ClassDecl

/-! ### Files after an emission -/

namespace Emission

open FileTree

/-- If no two classes share the path of their units, each file holds the unit of its class. -/
theorem emitAll_read {model : ClassModel} {output : String} {tree changed : FileTree}
    {classes : List ClassDecl} {files : List EmittedFile}
    (plain : ∀ decl ∈ classes, decl.IsPlain) (apart : (classes.map ClassDecl.unitPath).Nodup)
    (emitted : emitAll model output false tree classes = (changed, .ok files)) :
    ∀ decl ∈ classes, changed.read (decl.pathBelow output) = .ok (model.unitOf decl).toUTF8 := by
  induction classes generalizing tree files with
  | nil => exact fun decl member => absurd member List.not_mem_nil
  | cons decl rest ih =>
      have plainRest : ∀ other ∈ rest, other.IsPlain := fun other member =>
        plain other (List.mem_cons_of_mem decl member)
      obtain ⟨own, apartRest⟩ := List.nodup_cons.mp apart
      obtain ⟨between, status, others, one, more, _⟩ := emitAll_cons_ok emitted
      refine List.forall_mem_cons.mpr ⟨?_, ih plainRest apartRest more⟩
      refine (emitAll_ok more).read ((emitText_ok one).2 rfl) ?_
      rintro location text ⟨other, member, designatesToo, _⟩ designates
      have here := plain decl List.mem_cons_self
      have shared := here.unitPath_eq_of_designates (plainRest other member) designates
        designatesToo
      exact own (List.mem_map.mpr ⟨other, member, shared.symm⟩)

/-- Files that were not there before, or not with that content, are units below the output. -/
theorem emitAll_inside {model : ClassModel} {output : String} {dryRun : Bool} {tree : FileTree}
    {classes : List ClassDecl} (plain : ∀ decl ∈ classes, decl.IsPlain) {location : Location}
    {content : ByteArray}
    (found : (emitAll model output dryRun tree classes).1.node? location = some (.file content))
    (changed : tree.node? location ≠ some (.file content)) :
    ∃ decl ∈ classes, content = (model.unitOf decl).toUTF8 ∧
      ∃ base, (emitAll model output dryRun tree classes).1.IsBase output base ∧
        location = base ++ decl.unitNames := by
  obtain ⟨reached, written, among, growth⟩ : ∃ reached written, written ⊆ classes ∧
      Growth (IsAboveOne tree output reached)
        (IsUnitOfOne model output written (emitAll model output dryRun tree classes).1) tree
        (emitAll model output dryRun tree classes).1 := by
    cases run : emitAll model output dryRun tree classes with
    | mk after result => cases result with
      | ok files => exact ⟨classes, classes, List.Subset.refl classes, emitAll_ok run⟩
      | error error =>
          obtain ⟨front, decl, back, rfl, _, growth⟩ := emitAll_error run
          exact ⟨_, front, List.subset_append_left front _, growth⟩
  generalize (emitAll model output dryRun tree classes).1 = after at found growth ⊢
  rcases growth.node?_cases location with same | ⟨_, _, made⟩ | ⟨_, text, unit, file⟩
  · exact absurd (same ▸ found) changed
  · simp [made] at found
  · obtain rfl : text = content := by simpa [file] using found
    obtain ⟨decl, member, designates, bytes⟩ := unit
    obtain ⟨_, reached, place⟩ := designates.exists_destination
    obtain ⟨base, isBase, below⟩ := (plain decl (among member)).exists_isBase reached
    exact ⟨decl, among member, bytes, base, isBase, place.symm.trans below⟩

end Emission

/-! ### Models that have been built -/

namespace ClassModel

theorem Follows.qualifiedName_injective {built model : ClassModel} (follows : built.Follows model)
    (isBuilt : built.Built) {first second : ClassId} {decl other : ClassDecl}
    (found : model.class? first = some decl) (foundToo : model.class? second = some other)
    (same : decl.qualifiedName = other.qualifiedName) : first = second := by
  have before {id : ClassId} {decl : ClassDecl} (found : model.class? id = some decl) :
      ∃ old, built.class? id = some old ∧ old.qualifiedName = decl.qualifiedName := by
    have kept := class?_congr follows.outlines id
    rw [found] at kept
    obtain ⟨old, known, outline⟩ := Option.map_eq_some_iff.mp kept.symm
    refine ⟨old, known, ?_⟩
    have named := congrArg (fun outline => qualifyName outline.package outline.name) outline
    exact named
  have listed := (isBuilt.orderly.indexed _ first).mpr (before found)
  have listedToo := (isBuilt.orderly.indexed _ second).mpr (before foundToo)
  rw [same] at listed
  exact Option.some.inj (listed.symm.trans listedToo)

/-- On a model that has been built, two classes share the path of their units exactly if they have
the same name and their packages the same parts that are not empty; one of the packages has an empty
part then.  Otherwise their files are at different places.  All files lie below the output, an
emission writes no others, and if no path is shared, each file holds the unit of its class. -/
theorem units_apart_iff {built : ClassModel} (isBuilt : built.Built) (runs : List Options)
    (plain : ∀ decl ∈ (built.processed runs).classes, decl.IsPlain) (output : String)
    (tree : FileTree) :
    (∀ first second decl other, (built.processed runs).class? first = some decl →
      (built.processed runs).class? second = some other → first ≠ second →
        (decl.unitPath = other.unitPath ↔
          decl.name = other.name ∧ decl.packageParts = other.packageParts) ∧
        (decl.unitPath = other.unitPath → ¬(decl.IsWhole ∧ other.IsWhole)) ∧
        ∀ place placeToo, tree.destination (decl.pathBelow output) = .ok place →
          tree.destination (other.pathBelow output) = .ok placeToo →
            (place.location = placeToo.location ↔ decl.unitPath = other.unitPath)) ∧
    (∀ decl ∈ (built.processed runs).classes, ∀ place,
      tree.destination (decl.pathBelow output) = .ok place →
        ∃ base, tree.IsBase output base ∧ place.location = base ++ decl.unitNames) ∧
    ∀ dryRun after result, (built.processed runs).emit output dryRun tree = (after, result) →
      (∀ location content, after.node? location = some (.file content) →
        tree.node? location ≠ some (.file content) →
          ∃ decl ∈ (built.processed runs).classes, ∃ base, after.IsBase output base ∧
            location = base ++ decl.unitNames) ∧
      (dryRun = false → (∃ files, result = .ok files) →
        ((built.processed runs).classes.map ClassDecl.unitPath).Nodup →
          ∀ decl ∈ (built.processed runs).classes,
            after.read (decl.pathBelow output) =
              .ok ((built.processed runs).unitOf decl).toUTF8) := by
  have follows := isBuilt.follows_processed runs
  generalize built.processed runs = model at plain follows ⊢
  refine ⟨?_, fun decl member place reached => (plain decl member).exists_isBase reached, ?_⟩
  · intro first second decl other found foundToo different
    have plainHere := plain decl (List.mem_of_getElem? found)
    have plainToo := plain other (List.mem_of_getElem? foundToo)
    have paths := plainHere.unitPath_eq_iff plainToo
    refine ⟨paths, ?_, fun place placeToo => plainHere.location_eq_iff plainToo⟩
    rintro shared ⟨whole, wholeToo⟩
    obtain ⟨name, parts⟩ := paths.mp shared
    have same := whole.qualifiedName_eq wholeToo name parts
    exact different (follows.qualifiedName_injective isBuilt found foundToo same)
  · intro dryRun after result emitted
    rw [emit] at emitted
    split at emitted
    · obtain ⟨rfl, rfl⟩ : tree = after ∧ .error _ = result := by simpa using emitted
      exact ⟨fun _ _ found changed => absurd found changed, fun _ success => by simp at success⟩
    · constructor
      · intro location content found changed
        have written := congrArg Prod.fst emitted
        subst written
        obtain ⟨decl, member, _, inside⟩ := Emission.emitAll_inside plain found changed
        exact ⟨decl, member, inside⟩
      · rintro rfl ⟨files, rfl⟩ apart
        exact Emission.emitAll_read plain apart emitted

/-- Three classes with one name, the second with an empty part in its package. -/
def namesakesInPackages : ClassModel :=
  empty.constructAll
    [.addClass ⟨"X", some "a.b", false, [], none⟩ [],
      .addClass ⟨"X", some "a..b", false, [], none⟩ [],
      .addClass ⟨"X", some "c", false, [], none⟩ []]

theorem units_apart_on_namesakes :
    namesakesInPackages.Built ∧
      (∀ decl ∈ (namesakesInPackages.processed [.default]).classes, decl.IsPlain) ∧
      ∃ first second third, (namesakesInPackages.processed [.default]).classes =
          [first, second, third] ∧
        first.unitPath = second.unitPath ∧ first.unitPath ≠ third.unitPath ∧
        ¬(first.IsWhole ∧ second.IsWhole) := by
  have built : namesakesInPackages.Built := .inSteps _
  have plain : ∀ decl ∈ (namesakesInPackages.processed [.default]).classes, decl.IsPlain := by
    decide +kernel
  have apart := (units_apart_iff built [.default] plain "out" .empty).1
  obtain ⟨first, second, third, listed, names, parts, other⟩ : ∃ first second third,
      (namesakesInPackages.processed [.default]).classes = [first, second, third] ∧
        first.name = second.name ∧ first.packageParts = second.packageParts ∧
        first.packageParts ≠ third.packageParts :=
    ⟨_, _, _, rfl, by decide +kernel, by decide +kernel, by decide +kernel⟩
  have class? (id : ClassId) : (namesakesInPackages.processed [.default]).class? id =
      [first, second, third][id]? := by rw [ClassModel.class?, listed]
  have pair := apart 0 1 first second (class? 0) (class? 1) (by decide)
  have shared := pair.1.mpr ⟨names, parts⟩
  have pairToo := apart 0 2 first third (class? 0) (class? 2) (by decide)
  exact ⟨built, plain, first, second, third, listed, shared,
    fun same => other (pairToo.1.mp same).2, pair.2.1 shared⟩

/-- A class whose name leads upward. -/
def climbing : ClassModel :=
  empty.constructAll [.addClass ⟨"../Y", none, false, [], none⟩ []]

/-- Classes with different qualified names can share a file, so that the later one replaces the
earlier one, and a class with a slash in its name can have its file outside the output. -/
theorem units_collide_and_escape :
    (¬∀ built : ClassModel, built.Built → ∀ first second decl other,
      built.class? first = some decl → built.class? second = some other → first ≠ second →
        decl.unitPath ≠ other.unitPath) ∧
    (namesakesInPackages.classes.map ClassDecl.qualifiedName) = ["a.b.X", "a..b.X", "c.X"] ∧
    (namesakesInPackages.emit "out" false .empty).2 =
      .ok [⟨"a.b.X", "out/a/b/X.java", .created⟩, ⟨"a..b.X", "out/a/b/X.java", .updated⟩,
        ⟨"c.X", "out/c/X.java", .created⟩] ∧
    climbing.Built ∧ (climbing.emit "out" false .empty).2 =
      .ok [⟨"../Y", "out/../Y.java", .created⟩] ∧
    (climbing.emit "out" false .empty).1.isFile "/Y.java" = true := by
  refine ⟨fun always => ?_, by decide +kernel, by decide +kernel, .inSteps _, by decide +kernel,
    by decide +kernel⟩
  have built : namesakesInPackages.Built := .inSteps _
  have different := always namesakesInPackages built 0 1 _ _ rfl rfl (by decide)
  exact different (by decide +kernel)

end ClassModel
end ValueMethods
