import ValueMethods.Proofs.Obstacles
import ValueMethods.Proofs.UpToDate

/-!
# Dry runs

A dry run looks at every file in the tree as it is, while a real run looks at it when the files of
earlier classes have been written already.  As long as no two classes share the path of their units,
what the dry run finds is what the real run finds, and a real run that succeeds reports just what
the dry run has reported.  The one thing that only shows when directories have been made is that a
name in one of them is too long.
-/

namespace ValueMethods

/-! ### What a dry run says of one class -/

theorem ClassDecl.not_unitNames_prefix (decl other : ClassDecl) :
    ¬decl.unitNames <+: other.packageParts := by
  intro within
  have member : decl.name ++ ".java" ∈ other.packageParts :=
    within.subset (List.mem_append_right _ List.mem_cons_self)
  exact ClassDecl.not_mem_of_mem_packageParts member (by simp)

namespace Emission

open FileTree

variable {model : ClassModel} {output : String}

/-- The file of a class as a dry run reports it, from what is in the tree. -/
def forecast (model : ClassModel) (output : String) (tree : FileTree) (decl : ClassDecl) :
    Except EmissionError EmittedFile :=
  (status tree (decl.pathBelow output) (model.unitOf decl)).map fun found =>
    ⟨decl.qualifiedName, decl.pathBelow output, found⟩

/-- The error can stop the writing of the unit at the path although there was no fault to be seen
before: it comes up in writing, or by a name that is too long in a directory that was not there. -/
def IsUnforeseen (tree : FileTree) (path : String) : EmissionError → Prop
  | .missingSource _ _ => False
  | .read place cause =>
      place = path ∧ cause = .nameTooLong ∧ tree.read path = .error .notFound
  | .makeDirectory place _ => Path.parent? path = some place
  | .write place _ => place = path

section OneUnit

variable {tree between changed : FileTree} {path text : String} {error : EmissionError}

theorem emitText_dry (tree : FileTree) (path text : String) :
    emitText true tree path text = (tree, status tree path text) := by
  rw [emitText]
  split
  · next unreadable => rw [unreadable]
  · next known => rw [known]
  · next known => rw [known, if_pos rfl]

theorem status_eq_error_iff :
    status tree path text = .error error ↔
      ∃ cause, tree.read path = .error cause ∧ cause ≠ .notFound ∧ error = .read path cause := by
  unfold status
  split
  · next readable => simp [readable]
  · next missing => simp [missing]
  · next cause obstacle unreadable =>
      simp only [unreadable, Except.error.injEq]
      constructor
      · intro same
        exact ⟨cause, rfl, obstacle, same.symm⟩
      · rintro ⟨_, rfl, _, rfl⟩
        rfl

theorem emitText_of_status {dryRun : Bool} (unreadable : status tree path text = .error error) :
    emitText dryRun tree path text = (tree, .error error) := by
  rw [emitText, unreadable]

theorem isUnforeseen_of_place (origin : FileTree)
    (failed : place tree path text = (changed, .error error)) : IsUnforeseen origin path error := by
  have writing {before : FileTree}
      (failed : place.write before path text = (changed, .error error)) :
      IsUnforeseen origin path error := by
    rw [place.write] at failed
    split at failed
    · simp at failed
    · next cause _ =>
        obtain ⟨_, rfl⟩ : _ ∧ EmissionError.write path cause = error := by simpa using failed
        rfl
  rw [place] at failed
  split at failed
  · exact writing failed
  · next above found =>
      split at failed
      · next cause _ =>
          obtain ⟨_, rfl⟩ : _ ∧ EmissionError.makeDirectory above cause = error := by
            simpa using failed
          exact found
      · exact writing failed

/-- A unit is not written because of what was found about its file, or in the course of writing. -/
theorem emitText_error_cases (origin : FileTree)
    (failed : emitText false tree path text = (changed, .error error)) :
    status tree path text = .error error ∨
      IsUnforeseen origin path error ∧ ∃ found, status tree path text = .ok found := by
  unfold emitText at failed
  split at failed
  · next cause unreadable =>
      obtain ⟨_, rfl⟩ : _ ∧ cause = error := by simpa using failed
      exact .inl unreadable
  · simp at failed
  · next found _ known =>
      rw [if_neg Bool.false_ne_true] at failed
      split at failed
      · next final cause refused =>
          obtain ⟨rfl, rfl⟩ : final = changed ∧ cause = error := by simpa using failed
          exact .inr ⟨isUnforeseen_of_place origin refused, found, known⟩
      · simp at failed

end OneUnit

/-! ### What a dry run says of all classes -/

theorem emitAll_dry (model : ClassModel) (output : String) (tree : FileTree)
    (classes : List ClassDecl) :
    emitAll model output true tree classes = (tree, classes.mapM (forecast model output tree)) := by
  induction classes with
  | nil => rfl
  | cons decl rest ih =>
      rw [emitAll_cons, emitText_dry, List.mapM_cons, forecast]
      cases status tree (decl.pathBelow output) (model.unitOf decl) with
      | error error => rfl
      | ok found =>
          simp only [ih]
          cases rest.mapM (forecast model output tree) <;> rfl

section Progress

-- Units of the classes `done` have been written in between, and the class is not one of them.
variable {tree between : FileTree} {done : List ClassDecl} {decl : ClassDecl}
  (grown : Growth (IsAboveOne tree output done) (IsUnitOfOne model output done between) tree
    between)
  (straight : ".." ∉ Path.names output) (plain : ∀ other ∈ done, other.IsPlain)
  (plainHere : decl.IsPlain) (fresh : ∀ other ∈ done, other.unitPath ≠ decl.unitPath)

include grown in
theorem status_of_error {error : EmissionError} {path text : String}
    (unreadable : status tree path text = .error error) :
    status between path text = .error error := by
  obtain ⟨cause, failed, obstacle, rfl⟩ := status_eq_error_iff.mp unreadable
  exact status_eq_error_iff.mpr ⟨cause, grown.read_of_error failed obstacle, obstacle, rfl⟩

theorem locate_pathBelow (tree : FileTree) (plain : decl.IsPlain) :
    tree.locate (decl.pathBelow output) = tree.locate output ++ decl.unitNames := by
  rw [ClassDecl.pathBelow, tree.locate_join output plain.relative, plain.names_unitPath]

include straight plain plainHere in
/-- The place of a unit is not on the way to another unit. -/
theorem not_isAboveOne : ¬IsAboveOne tree output done (tree.locate (decl.pathBelow output)) := by
  rintro ⟨other, member, above⟩
  have plainOther := plain other member
  have within := above (plainOther.listed output) (plainOther.straight straight)
  rw [locate_pathBelow tree plainHere, locate_pathBelow tree plainOther, ClassDecl.unitNames,
    ClassDecl.unitNames, ← List.append_assoc _ other.packageParts, List.dropLast_concat,
    List.prefix_append_right_inj] at within
  exact decl.not_unitNames_prefix other within

include grown straight plain plainHere fresh in
/-- No other unit is at the place of a unit or on the way to it. -/
theorem not_isUnitOfOne {location : Location} {content : ByteArray}
    (unit : IsUnitOfOne model output done between location content) :
    ¬location <+: tree.locate (decl.pathBelow output) := by
  obtain ⟨other, member, designates, _⟩ := unit
  have plainOther := plain other member
  rw [designates.location_eq (plainOther.straight straight), grown.locate_eq,
    locate_pathBelow tree plainHere, locate_pathBelow tree plainOther,
    List.prefix_append_right_inj]
  intro within
  rcases List.prefix_concat_iff.mp within with same | above
  · have names := ClassDecl.unitNames_eq_iff.mp same
    exact fresh other member ((plainOther.unitPath_eq_iff plainHere).mpr names)
  · exact other.not_unitNames_prefix decl above

include grown straight plain plainHere fresh in
/-- What a dry run finds is found later too, unless a name turns out to be too long. -/
theorem status_of_ok {found : EmissionStatus} (grounded : tree.IsGrounded)
    (known : status tree (decl.pathBelow output) (model.unitOf decl) = .ok found) :
    status between (decl.pathBelow output) (model.unitOf decl) = .ok found ∨
      ∃ error, status between (decl.pathBelow output) (model.unitOf decl) = .error error ∧
        IsUnforeseen tree (decl.pathBelow output) error := by
  have straightHere := plainHere.straight straight
  have noUnit : ∀ location content, IsUnitOfOne model output done between location content →
      ¬location <+: tree.locate (decl.pathBelow output) := fun _ _ unit =>
    not_isUnitOfOne grown straight plain plainHere fresh unit
  have untouched : ∀ location content, IsUnitOfOne model output done between location content →
      ¬between.Designates (decl.pathBelow output) location := by
    intro location content unit designates
    refine noUnit location content unit ?_
    rw [designates.location_eq straightHere, grown.locate_eq]
  cases now : status between (decl.pathBelow output) (model.unitOf decl) with
  | ok foundNow =>
      have same : Growth noPlace noFile tree tree := .refl
      rw [status_eq_due grown grounded straightHere untouched now,
        status_eq_due same grounded straightHere (fun _ _ never => absurd never id) known]
      exact .inl rfl
  | error error =>
      obtain ⟨cause, unreadable, obstacle, rfl⟩ := status_eq_error_iff.mp now
      refine .inr ⟨_, rfl, rfl, ?_⟩
      have missing : tree.read (decl.pathBelow output) = .error .notFound := by
        cases before : tree.read (decl.pathBelow output) with
        | ok content =>
            rw [grown.read before untouched] at unreadable
            simp at unreadable
        | error earlier =>
            by_contra other
            have failed : status tree (decl.pathBelow output) (model.unitOf decl) =
                .error (.read _ earlier) :=
              status_eq_error_iff.mpr ⟨earlier, before, fun same => other (congrArg _ same), rfl⟩
            rw [known] at failed
            simp at failed
      have cases := grown.read_of_notFound grounded straightHere (plainHere.listed output) missing
        (not_isAboveOne straight plain plainHere) noUnit unreadable
      exact ⟨cases.resolve_left obstacle, missing⟩

include grown straight plain plainHere fresh in
/-- The unit of a class with which a dry run finds no fault is emitted with the status found, unless
something stops it that a dry run does not see. -/
theorem emitText_of_ok {found : EmissionStatus} (grounded : tree.IsGrounded)
    (known : status tree (decl.pathBelow output) (model.unitOf decl) = .ok found) :
    ∃ next, emitText false between (decl.pathBelow output) (model.unitOf decl) =
        (next, .ok found) ∨
      ∃ error, emitText false between (decl.pathBelow output) (model.unitOf decl) =
          (next, .error error) ∧ IsUnforeseen tree (decl.pathBelow output) error := by
  have nowCases := status_of_ok grown straight plain plainHere fresh grounded known
  cases one : emitText false between (decl.pathBelow output) (model.unitOf decl) with
  | mk next result => cases result with
    | ok foundNow =>
        obtain ⟨now, _⟩ := emitText_cases one
        rcases nowCases with fine | ⟨_, failed, _⟩
        · obtain rfl : foundNow = found := by simpa [now] using fine
          exact ⟨next, .inl rfl⟩
        · simp [now] at failed
    | error error =>
        refine ⟨next, .inr ⟨error, rfl, ?_⟩⟩
        rcases emitText_error_cases tree one with failed | ⟨unforeseen, _⟩
        · rcases nowCases with fine | ⟨other, failedToo, unforeseen⟩
          · simp [fine] at failed
          · obtain rfl : error = other := by simpa [failed] using failedToo
            exact unforeseen
        · exact unforeseen

end Progress

/-- An error at a later class is the error of the run. -/
theorem emitAll_cons_error {dryRun : Bool} {tree between : FileTree} {decl : ClassDecl}
    {rest : List ClassDecl} {status : EmissionStatus} {error : EmissionError}
    (one : emitText dryRun tree (decl.pathBelow output) (model.unitOf decl) =
      (between, .ok status))
    (later : (emitAll model output dryRun between rest).2 = .error error) :
    (emitAll model output dryRun tree (decl :: rest)).2 = .error error := by
  rw [emitAll_cons, one]
  cases run : emitAll model output dryRun between rest with
  | mk final result =>
      obtain rfl : result = .error error := by simpa [run] using later
      simp only [run]

/-- A real run comes to what the dry run says, unless something stops it that a dry run does not
see, at a class up to which the dry run finds no fault. -/
theorem emitAll_foretold {tree between : FileTree} {done classes : List ClassDecl}
    (grounded : tree.IsGrounded) (straight : ".." ∉ Path.names output)
    (grown : Growth (IsAboveOne tree output done) (IsUnitOfOne model output done between) tree
      between)
    (plain : ∀ decl ∈ done ++ classes, decl.IsPlain)
    (apart : ((done ++ classes).map ClassDecl.unitPath).Nodup) :
    (emitAll model output false between classes).2 = classes.mapM (forecast model output tree) ∨
      ∃ front blocked back error files, classes = front ++ blocked :: back ∧
        (front ++ [blocked]).mapM (forecast model output tree) = .ok files ∧
        (emitAll model output false between classes).2 = .error error ∧
        IsUnforeseen tree (blocked.pathBelow output) error := by
  -- On the classes that are left; that only units of those before them are new carries it.
  induction classes generalizing done between with
  | nil => exact .inl rfl
  | cons decl rest ih =>
      have plainDone : ∀ other ∈ done, other.IsPlain := fun other member =>
        plain other (List.mem_append_left _ member)
      have plainHere := plain decl (by simp)
      have fresh : ∀ other ∈ done, other.unitPath ≠ decl.unitPath := by
        intro other member shared
        rw [List.map_append, List.nodup_append] at apart
        exact apart.2.2 _ (List.mem_map_of_mem member) _ List.mem_cons_self shared
      rw [List.mapM_cons]
      cases known : status tree (decl.pathBelow output) (model.unitOf decl) with
      | error error =>
          rw [emitAll_cons, emitText_of_status (status_of_error grown known), forecast, known]
          exact .inl rfl
      | ok found =>
          have here : forecast model output tree decl =
              .ok ⟨decl.qualifiedName, decl.pathBelow output, found⟩ := by
            rw [forecast, known]
            rfl
          obtain ⟨next, one | ⟨error, one, unforeseen⟩⟩ :=
            emitText_of_ok grown straight plainDone plainHere fresh grounded known
          · have grownOn : Growth (IsAboveOne tree output (done ++ [decl]))
                (IsUnitOfOne model output (done ++ [decl]) next) tree next := by
              refine growth_concat grown (emitText_ok one).1 ?_ ?_
              · rintro location ⟨other, member, above⟩
                exact ⟨other, List.mem_append_left _ member, above⟩
              · intro location above
                refine ⟨decl, List.mem_concat_self, ?_⟩
                rwa [FileTree.IsAbove, ← grown.locate_eq]
            have shape : done ++ decl :: rest = (done ++ [decl]) ++ rest := by simp
            rw [here]
            rcases ih grownOn (shape ▸ plain) (shape ▸ apart) with same |
              ⟨front, blocked, back, error, files, rfl, fine, failed, unforeseen⟩
            · refine .inl ?_
              rw [← same, emitAll_cons, one]
              cases run : emitAll model output false next rest with
              | mk final result => cases result <;> simp only [run] <;> rfl
            · refine .inr ⟨decl :: front, blocked, back, error,
                ⟨decl.qualifiedName, decl.pathBelow output, found⟩ :: files, rfl, ?_,
                emitAll_cons_error one failed, unforeseen⟩
              rw [List.cons_append, List.mapM_cons, here, fine]
              rfl
          · refine .inr ⟨[], decl, rest, error,
              [⟨decl.qualifiedName, decl.pathBelow output, found⟩], rfl, ?_,
              by rw [emitAll_cons, one], unforeseen⟩
            rw [List.nil_append, List.mapM_cons, here, List.mapM_nil]
            rfl

end Emission

namespace ClassModel

open FileTree

/-- A dry run leaves the tree as it is and writes nothing.  A real run that succeeds reports the
same files as the dry run.  If the dry run fails, the real run fails in the same way, or in the
course of writing an earlier unit, or by a name on the path of an earlier unit that is too long and
that could not be looked up before, because nothing was there. -/
theorem dry_run_foretells_emission {model : ClassModel} {output : String} {tree : FileTree}
    (grounded : tree.IsGrounded) (straight : ".." ∉ Path.components output)
    (plain : ∀ decl ∈ model.classes, decl.IsPlain)
    (apart : (model.classes.map ClassDecl.unitPath).Nodup) :
    (model.emit output true tree).1 = tree ∧
    (∀ after files, model.emit output false tree = (after, .ok files) →
      (model.emit output true tree).2 = .ok files) ∧
    ∀ error, (model.emit output true tree).2 = .error error →
      (model.emit output false tree).2 = .error error ∨
      ∃ front blocked middle decl back obstacle,
        model.classes = front ++ blocked :: (middle ++ decl :: back) ∧
        error.Concerns (decl.pathBelow output) ∧
        (model.emit output false tree).2 = .error obstacle ∧
        Emission.IsUnforeseen tree (blocked.pathBelow output) obstacle := by
  rw [Path.components_eq, List.mem_append, not_or] at straight
  rw [emit, emit]
  split
  · next error refused => exact ⟨rfl, by simp, fun other failed => .inl failed⟩
  · next sourced =>
      have nothing : Growth (Emission.IsAboveOne tree output [])
          (Emission.IsUnitOfOne model output [] tree) tree tree := .refl
      have foretold := Emission.emitAll_foretold grounded straight.2 nothing plain apart
      rw [Emission.emitAll_dry]
      refine ⟨rfl, ?_, ?_⟩
      · intro after files emitted
        rw [emitted] at foretold
        rcases foretold with same | ⟨_, _, _, _, _, _, _, failed, _⟩
        · exact same.symm
        · simp at failed
      · intro error failed
        rcases foretold with same |
          ⟨front, blocked, back, obstacle, files, shape, fine, stopped, unforeseen⟩
        · exact .inl (same.trans failed)
        · have later : back.mapM (Emission.forecast model output tree) = .error error := by
            have whole : model.classes = (front ++ [blocked]) ++ back := by simp [shape]
            change model.classes.mapM (Emission.forecast model output tree) = .error error at failed
            rw [whole, List.mapM_append, fine] at failed
            cases behind : back.mapM (Emission.forecast model output tree) with
            | error cause =>
                rw [behind] at failed
                exact failed
            | ok others =>
                rw [behind] at failed
                simp [bind, Except.bind, pure, Except.pure] at failed
          have dry := Emission.emitAll_dry model output tree back
          rw [later] at dry
          obtain ⟨middle, decl, others, rfl, concerns, _⟩ := Emission.emitAll_error dry
          exact .inr ⟨front, blocked, middle, decl, others, obstacle, shape, concerns, stopped,
            unforeseen⟩

/-! ### A name that is too long -/

section Names

variable {name : List Char} (noSlash : '/' ∉ name)
include noSlash

theorem plain_bareClass : (bareClass "p" (String.ofList name)).IsPlain := by
  refine ⟨by simpa [bareClass] using noSlash, fun package known => ?_⟩
  obtain rfl : "p" = package := by simpa [bareClass] using known
  decide

theorem unitPath_bareClass :
    (bareClass "p" (String.ofList name)).unitPath =
      String.ofList ("p/".toList ++ (name ++ ".java".toList)) := by
  have plain := plain_bareClass noSlash
  have parts : Path.joinAll "" (bareClass "p" (String.ofList name)).packageParts = "p" := by
    change Path.joinAll "" ((Text.pieces '.' "p").filter fun part => !part.isEmpty) = "p"
    decide +kernel
  rw [ClassDecl.unitPath_eq, parts, Path.join_of_relative _ plain.fileName.relative,
    if_neg (by decide)]
  apply String.toList_inj.mp
  simp [bareClass]

theorem pathBelow_bareClass :
    (bareClass "p" (String.ofList name)).pathBelow "out" =
      String.ofList ("out/p/".toList ++ (name ++ ".java".toList)) := by
  have plain := plain_bareClass noSlash
  rw [ClassDecl.pathBelow, Path.join_of_relative _ plain.relative, unitPath_bareClass noSlash,
    if_neg (by decide)]
  apply String.toList_inj.mp
  simp

end Names

/-- A class whose file has a name of 257 bytes. -/
def longClass : ClassDecl :=
  bareClass "p" (String.ofList (List.replicate 63 '𝐧'))

/-- A model with that class between two others. -/
def longNamed : ClassModel :=
  ⟨[bareClass "p" "First", longClass, bareClass "q" "Last"], []⟩

/-- A tree with a directory where the unit of the last class would be, and without a directory for
the units of the others. -/
def endBlockedTree : FileTree :=
  ⟨[(["out"], .directory), (["out", "q"], .directory),
    (["out", "q", "Last.java"], .directory)], [], []⟩

theorem noSlash_long : '/' ∉ List.replicate 63 '𝐧' := by decide

theorem grounded_endBlockedTree : endBlockedTree.IsGrounded := by
  unfold FileTree.IsGrounded
  decide +kernel

theorem plain_longNamed : ∀ decl ∈ longNamed.classes, decl.IsPlain := by
  simp only [longNamed, List.forall_mem_cons]
  exact ⟨by decide, plain_bareClass noSlash_long, by decide,
    fun _ member => absurd member List.not_mem_nil⟩

theorem apart_longNamed : (longNamed.classes.map ClassDecl.unitPath).Nodup := by
  rw [longNamed, List.map_cons, List.map_cons, longClass, unitPath_bareClass noSlash_long]
  decide +kernel

theorem sourced_longNamed : Emission.missingSource? longNamed.classes = none := by decide

/-- A dry run does not get to the long name, so it finds the obstacle behind it. -/
theorem emit_dry_longNamed :
    (longNamed.emit "out" true endBlockedTree).2 =
      .error (.read "out/q/Last.java" .isDirectory) := by
  have first : Emission.forecast longNamed "out" endBlockedTree (bareClass "p" "First") =
      .ok ⟨"p.First", "out/p/First.java", .created⟩ := by decide +kernel
  have missing : endBlockedTree.read (longClass.pathBelow "out") = .error .notFound := by
    rw [longClass, pathBelow_bareClass noSlash_long, FileTree.read, destination_ofList]
    decide +kernel
  have long : Emission.forecast longNamed "out" endBlockedTree longClass =
      .ok ⟨longClass.qualifiedName, longClass.pathBelow "out", .created⟩ := by
    rw [Emission.forecast, Emission.status, missing]
    rfl
  have last : Emission.forecast longNamed "out" endBlockedTree (bareClass "q" "Last") =
      .error (.read "out/q/Last.java" .isDirectory) := by decide +kernel
  rw [emit, sourced_longNamed, Emission.emitAll_dry, longNamed, List.mapM_cons, List.mapM_cons,
    List.mapM_cons, ← longNamed, first, long, last]
  rfl

/-- A real run makes the directory of the long name, and cannot look it up. -/
theorem emit_longNamed :
    (longNamed.emit "out" false endBlockedTree).2 =
      .error (.read (longClass.pathBelow "out") .nameTooLong) := by
  have made : (Emission.emitText false endBlockedTree ((bareClass "p" "First").pathBelow "out")
      (longNamed.unitOf (bareClass "p" "First"))).2 = .ok .created := by decide +kernel
  have long : (Emission.emitText false endBlockedTree ((bareClass "p" "First").pathBelow "out")
      (longNamed.unitOf (bareClass "p" "First"))).1.read (longClass.pathBelow "out") =
        .error .nameTooLong := by
    rw [longClass, pathBelow_bareClass noSlash_long, FileTree.read, destination_ofList]
    decide +kernel
  have classes : longNamed.classes = [bareClass "p" "First", longClass, bareClass "q" "Last"] := rfl
  rw [emit, sourced_longNamed]
  cases one : Emission.emitText false endBlockedTree ((bareClass "p" "First").pathBelow "out")
      (longNamed.unitOf (bareClass "p" "First")) with
  | mk next result =>
      rw [one] at made long
      obtain rfl : result = .ok .created := made
      have failed : Emission.emitText false next (longClass.pathBelow "out")
          (longNamed.unitOf longClass) =
            (next, .error (.read (longClass.pathBelow "out") .nameTooLong)) :=
        Emission.emitText_of_status (Emission.status_eq_error_iff.mpr ⟨_, long, by decide, rfl⟩)
      have stopped : Emission.emitAll longNamed "out" false next [longClass, bareClass "q" "Last"] =
          (next, .error (.read (longClass.pathBelow "out") .nameTooLong)) := by
        rw [Emission.emitAll_cons, failed]
      rw [classes]
      exact Emission.emitAll_cons_error one (by rw [stopped])

/-- The real run fails at the long name, which no dry run finds fault with. -/
theorem dry_run_foretells_emission_on_longNamed :
    endBlockedTree.IsGrounded ∧ ".." ∉ Path.components "out" ∧
      (∀ decl ∈ longNamed.classes, decl.IsPlain) ∧
      (longNamed.classes.map ClassDecl.unitPath).Nodup ∧
      (longNamed.emit "out" true endBlockedTree).1 = endBlockedTree ∧
      (longNamed.emit "out" true endBlockedTree).2 =
        .error (.read "out/q/Last.java" .isDirectory) ∧
      ∃ front blocked middle decl back,
        longNamed.classes = front ++ blocked :: (middle ++ decl :: back) ∧
        decl.pathBelow "out" = "out/q/Last.java" ∧
        Emission.IsUnforeseen endBlockedTree (blocked.pathBelow "out")
          (.read (longClass.pathBelow "out") .nameTooLong) := by
  obtain ⟨same, _, failure⟩ := dry_run_foretells_emission grounded_endBlockedTree
    (by decide : ".." ∉ Path.components "out") plain_longNamed apart_longNamed
  refine ⟨grounded_endBlockedTree, by decide, plain_longNamed, apart_longNamed, same,
    emit_dry_longNamed, ?_⟩
  rcases failure _ emit_dry_longNamed with alike |
    ⟨front, blocked, middle, decl, back, obstacle, shape, concerns, stopped, unforeseen⟩
  · simp [emit_longNamed] at alike
  · obtain rfl : .read (longClass.pathBelow "out") .nameTooLong = obstacle := by
      simpa [emit_longNamed] using stopped
    exact ⟨front, blocked, middle, decl, back, shape, concerns.symm, unforeseen⟩

/-- That the real run fails too, in the same way or in writing, is not what a dry run foretells. -/
theorem long_name_is_not_foretold :
    endBlockedTree.IsGrounded ∧ ".." ∉ Path.components "out" ∧
      (∀ decl ∈ longNamed.classes, decl.IsPlain) ∧
      (longNamed.classes.map ClassDecl.unitPath).Nodup ∧
      ∃ error, (longNamed.emit "out" true endBlockedTree).2 = .error error ∧
        ¬((longNamed.emit "out" false endBlockedTree).2 = .error error ∨
          ∃ path cause,
            (longNamed.emit "out" false endBlockedTree).2 = .error (.makeDirectory path cause) ∨
            (longNamed.emit "out" false endBlockedTree).2 = .error (.write path cause)) := by
  refine ⟨grounded_endBlockedTree, by decide, plain_longNamed, apart_longNamed, _,
    emit_dry_longNamed, ?_⟩
  rw [emit_longNamed]
  simp

end ClassModel
end ValueMethods
