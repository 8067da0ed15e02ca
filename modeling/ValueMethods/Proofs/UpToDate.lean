import ValueMethods.Proofs.Rebuilding

/-!
# Files brought up to date

Whether a file is out of date is decided class by class, while the files of earlier classes are
being written already.  As long as no two classes share the path of their units, that makes no
difference: each status is the one that the file had at the start, what is out of date is written
once and nothing else is, not even with what it holds already, and afterwards every file holds its
unit, so that there is nothing left to do.
-/

namespace ValueMethods
namespace Emission

open FileTree

variable {model : ClassModel} {output : String}

/-! ### The status of a file -/

/-- Whether there is a file at a path that holds just the text. -/
def holds (tree : FileTree) (path text : String) : Bool :=
  match tree.read path with
  | .ok content => isTextOf content text
  | .error _ => false

/-- What has to be done about the file at a path, by what is there. -/
def due (tree : FileTree) (path text : String) : EmissionStatus :=
  if tree.hasPath path then
    if holds tree path text then .unchanged else .updated
  else
    .created

/-- The file of a class, with what has to be done about it. -/
def dueFile (model : ClassModel) (output : String) (tree : FileTree) (decl : ClassDecl) :
    EmittedFile where
  owner := decl.qualifiedName
  path := decl.pathBelow output
  status := due tree (decl.pathBelow output) (model.unitOf decl)

/-- The classes whose files do not hold their units. -/
def outdated (model : ClassModel) (output : String) (tree : FileTree) (classes : List ClassDecl) :
    List ClassDecl :=
  classes.filter fun decl => (dueFile model output tree decl).isChanged

section Status

variable {tree : FileTree} {path text : String}

theorem due_of_read {content : ByteArray} (readable : tree.read path = .ok content) :
    due tree path text = if isTextOf content text then .unchanged else .updated := by
  rw [due, if_pos (hasPath_of_read readable), holds, readable]

/-- In a tree that has grown elsewhere, the status of a file is what was due before. -/
theorem status_eq_due {directories : Location → Prop} {files : Location → ByteArray → Prop}
    {between : FileTree} {found : EmissionStatus}
    (growth : Growth directories files tree between) (grounded : tree.IsGrounded)
    (straight : ".." ∉ Path.names path)
    (untouched : ∀ location content, files location content → ¬between.Designates path location)
    (known : Emission.status between path text = .ok found) : found = due tree path text := by
  unfold Emission.status at known
  split at known
  · next content readable =>
      have before := growth.read_before grounded straight readable untouched
      rw [due_of_read before]
      exact (Except.ok.inj known).symm
  · next missing =>
      have free : ¬tree.hasPath path = true :=
        fun present => not_hasPath_of_read missing (growth.hasPath present)
      rw [due, if_neg free]
      exact (Except.ok.inj known).symm
  · simp at known

end Status

/-! ### Units placed one after another -/

/-- Units have been placed for these classes and no others, in order. -/
inductive Placed (model : ClassModel) (output : String) :
    FileTree → List ClassDecl → FileTree → Prop
  | nil {tree : FileTree} : Placed model output tree [] tree
  | cons {tree between after : FileTree} {decl : ClassDecl} {rest : List ClassDecl}
      (placed : place tree (decl.pathBelow output) (model.unitOf decl) = (between, .ok ()))
      (more : Placed model output between rest after) :
      Placed model output tree (decl :: rest) after

theorem Placed.designates {tree after : FileTree} {classes : List ClassDecl} {path : String}
    {location : Location} (placed : Placed model output tree classes after)
    (known : tree.Designates path location) : after.Designates path location := by
  induction placed with
  | nil => exact known
  | cons first _ ih => exact ih ((place_ok first).1.designates known)

/-- Placing units writes their files, in order, and no others. -/
theorem Placed.exists_written {tree after : FileTree} {classes : List ClassDecl}
    (placed : Placed model output tree classes after) :
    ∃ written, after.written = tree.written ++ written ∧
      List.Forall₂ (fun decl location => after.Designates (decl.pathBelow output) location)
        classes written := by
  induction placed with
  | nil => exact ⟨[], (List.append_nil _).symm, .nil⟩
  | cons first more ih =>
      obtain ⟨_, _, location, designates, one⟩ := place_ok first
      obtain ⟨written, log, places⟩ := ih
      refine ⟨location :: written, ?_, .cons (more.designates designates) places⟩
      rw [log, one, List.append_assoc, List.singleton_append]

/-- A unit is placed, unless its file is found to be up to date. -/
theorem emitText_cases {tree changed : FileTree} {path text : String} {found : EmissionStatus}
    (emitted : emitText false tree path text = (changed, .ok found)) :
    Emission.status tree path text = .ok found ∧
      (found = .unchanged ∧ changed = tree ∨
        found ≠ .unchanged ∧ place tree path text = (changed, .ok ())) := by
  unfold emitText at emitted
  split at emitted
  · simp at emitted
  · next known =>
      obtain ⟨rfl, rfl⟩ : tree = changed ∧ .unchanged = found := by simpa using emitted
      exact ⟨known, .inl ⟨rfl, rfl⟩⟩
  · next status outdated known =>
      rw [if_neg Bool.false_ne_true] at emitted
      split at emitted
      · simp at emitted
      · next final placed =>
          obtain ⟨rfl, rfl⟩ : final = changed ∧ status = found := by simpa using emitted
          exact ⟨known, .inr ⟨outdated, placed⟩⟩

/-- Growth by the units of some classes and growth by the unit of one more add up. -/
theorem growth_concat {directories more : Location → Prop} {tree between after : FileTree}
    {done : List ClassDecl} {decl : ClassDecl}
    (grown : Growth directories (IsUnitOfOne model output done between) tree between)
    (one : Growth (between.IsAbove (decl.pathBelow output))
      (IsUnitAt after (decl.pathBelow output) (model.unitOf decl)) between after)
    (first : ∀ location, directories location → more location)
    (second : ∀ location, between.IsAbove (decl.pathBelow output) location → more location) :
    Growth more (IsUnitOfOne model output (done ++ [decl]) after) tree after := by
  refine (grown.mono first ?_).trans (one.mono second ?_)
  · rintro location content ⟨earlier, member, designates, text⟩
    exact ⟨earlier, List.mem_append_left _ member, one.designates designates, text⟩
  · intro location content unit
    exact ⟨decl, List.mem_concat_self, unit⟩

theorem outdated_cons {tree : FileTree} {decl : ClassDecl} {rest : List ClassDecl} :
    outdated model output tree (decl :: rest) =
      if due tree (decl.pathBelow output) (model.unitOf decl) = .unchanged then
        outdated model output tree rest
      else
        decl :: outdated model output tree rest := by
  split
  · next unchanged => simp [outdated, dueFile, EmittedFile.isChanged, unchanged]
  · next changes => simp [outdated, dueFile, EmittedFile.isChanged, changes]

/-- The files that are not left as they are are those of the classes that are out of date. -/
theorem filter_dueFiles (tree : FileTree) (classes : List ClassDecl) :
    (classes.map (dueFile model output tree)).filter EmittedFile.isChanged =
      (outdated model output tree classes).map (dueFile model output tree) := by
  simp only [outdated, List.filter_map, Function.comp_def]

/-- What is written are files of the classes placed, and the file of another class is none of
them. -/
theorem not_mem_written {after : FileTree} {classes placed : List ClassDecl}
    {written : List Location} {decl : ClassDecl} {location : Location}
    (plain : ∀ decl ∈ classes, decl.IsPlain) (apart : (classes.map ClassDecl.unitPath).Nodup)
    (places : List.Forall₂ (fun decl location => after.Designates (decl.pathBelow output) location)
      placed written)
    (among : ∀ other ∈ placed, other ∈ classes) (listed : decl ∈ classes) (spared : decl ∉ placed)
    (designates : after.Designates (decl.pathBelow output) location) : location ∉ written := by
  intro member
  obtain ⟨index, inside, rfl⟩ := List.getElem_of_mem member
  have insideToo : index < placed.length := places.length_eq ▸ inside
  have other : placed[index] ∈ placed := List.getElem_mem insideToo
  have otherListed := among _ other
  have shared := (plain decl listed).unitPath_eq_of_designates (plain _ otherListed) designates
    (places.get insideToo inside)
  exact spared (List.inj_on_of_nodup_map apart listed otherListed shared ▸ other)

/-- Each file gets the status that was due at the start, and the units of those that are out of date
are placed. -/
theorem emitAll_due {tree between changed : FileTree} {done classes : List ClassDecl}
    {files : List EmittedFile} (grounded : tree.IsGrounded) (straight : ".." ∉ Path.names output)
    (grown : Growth (fun _ => True) (IsUnitOfOne model output done between) tree between)
    (plain : ∀ decl ∈ done ++ classes, decl.IsPlain)
    (apart : ((done ++ classes).map ClassDecl.unitPath).Nodup)
    (emitted : emitAll model output false between classes = (changed, .ok files)) :
    files = classes.map (dueFile model output tree) ∧
      Placed model output between (outdated model output tree classes) changed := by
  -- On the classes that are left; that only units of those before them are new carries it.
  induction classes generalizing done between files with
  | nil =>
      obtain ⟨rfl, rfl⟩ : between = changed ∧ [] = files := by simpa [emitAll_nil] using emitted
      exact ⟨rfl, .nil⟩
  | cons decl rest ih =>
      obtain ⟨next, found, others, one, more, rfl⟩ := emitAll_cons_ok emitted
      obtain ⟨known, placement⟩ := emitText_cases one
      have shape : done ++ decl :: rest = (done ++ [decl]) ++ rest := by simp
      have grownOn := growth_concat grown (emitText_ok one).1 (fun _ _ => trivial)
        fun _ _ => trivial
      obtain ⟨rfl, later⟩ := ih grownOn (shape ▸ plain) (shape ▸ apart) more
      have plainHere := plain decl (by simp)
      have untouched : ∀ location content, IsUnitOfOne model output done between location content →
          ¬between.Designates (decl.pathBelow output) location := by
        rintro location content ⟨earlier, member, designates, _⟩ designatesToo
        have shared := (plain earlier (List.mem_append_left _ member)).unitPath_eq_of_designates
          plainHere designates designatesToo
        rw [List.map_append, List.nodup_append] at apart
        exact apart.2.2 _ (List.mem_map_of_mem member) _ List.mem_cons_self shared
      obtain rfl := status_eq_due grown grounded (plainHere.straight straight) untouched known
      refine ⟨rfl, ?_⟩
      rcases placement with ⟨unchanged, rfl⟩ | ⟨changes, placed⟩
      · rwa [outdated_cons, if_pos unchanged]
      · rw [outdated_cons, if_neg changes]
        exact .cons placed later

end Emission

namespace ClassModel

open FileTree

/-- An emission that succeeds leaves every file with the unit of its class.  Each file is reported
as it was at the start: created if nothing was at its path, unchanged if the unit was there already,
and updated otherwise.  The units of the classes that are out of date are placed.  The files written
are those reported created or updated, each once and in order, and no file that is reported
unchanged is among them.  A second emission finds nothing to do. -/
theorem emit_brings_up_to_date {model : ClassModel} {output : String} {tree after : FileTree}
    {files : List EmittedFile} (grounded : tree.IsGrounded)
    (straight : ".." ∉ Path.components output) (plain : ∀ decl ∈ model.classes, decl.IsPlain)
    (apart : (model.classes.map ClassDecl.unitPath).Nodup)
    (emitted : model.emit output false tree = (after, .ok files)) :
    (∀ decl ∈ model.classes,
      after.read (decl.pathBelow output) = .ok (model.unitOf decl).toUTF8) ∧
    files = model.classes.map (Emission.dueFile model output tree) ∧
    Emission.Placed model output tree (Emission.outdated model output tree model.classes) after ∧
    (∃ written, after.written = tree.written ++ written ∧
      List.Forall₂ (fun file location => after.Designates file.path location)
        (files.filter EmittedFile.isChanged) written ∧
      ∀ file ∈ files, file.status = .unchanged → ∀ location,
        after.Designates file.path location → location ∉ written) ∧
    model.emit output false after = (after, .ok (files.map EmittedFile.left)) := by
  rw [Path.components_eq, List.mem_append, not_or] at straight
  rw [emit] at emitted
  split at emitted
  · simp at emitted
  · next sourced =>
      have readable := Emission.emitAll_read plain apart emitted
      have nothing : Growth (fun _ => True) (Emission.IsUnitOfOne model output [] tree) tree tree :=
        .refl
      obtain ⟨rfl, placed⟩ :=
        Emission.emitAll_due grounded straight.2 nothing plain apart emitted
      obtain ⟨written, log, places⟩ := placed.exists_written
      refine ⟨readable, rfl, placed, ⟨written, log, ?_, ?_⟩, ?_⟩
      · rw [Emission.filter_dueFiles, List.forall₂_map_left_iff]
        exact places
      · intro file reported unchanged location designates
        obtain ⟨decl, listed, rfl⟩ := List.mem_map.mp reported
        have spared : decl ∉ Emission.outdated model output tree model.classes := by
          simp [Emission.outdated, EmittedFile.isChanged, unchanged]
        exact Emission.not_mem_written plain apart places
          (fun other member => (List.mem_filter.mp member).1) listed spared designates
      · rw [emit, sourced, Emission.map_left_of_emitAll emitted]
        exact Emission.emitAll_of_read readable

/-- A tree with the unit of the first of three classes and another text in the file of the
second. -/
def halfBuiltTree : FileTree :=
  ⟨[(["out"], .directory), (["out", "a"], .directory),
    (["out", "a", "First.java"], .file (threeClasses.unitOf (bareClass "a" "First")).toUTF8),
    (["out", "b"], .directory), (["out", "b", "Second.java"], .file "stale".toUTF8)], [], []⟩

/-- The unit that is there is left alone, the other text is replaced, and the missing unit is
added. -/
theorem emit_brings_up_to_date_on_halfBuiltTree :
    halfBuiltTree.IsGrounded ∧ ".." ∉ Path.components "out" ∧
      (∀ decl ∈ threeClasses.classes, decl.IsPlain) ∧
      (threeClasses.classes.map ClassDecl.unitPath).Nodup ∧
      ∃ after, threeClasses.emit "out" false halfBuiltTree =
          (after, .ok [⟨"a.First", "out/a/First.java", .unchanged⟩,
            ⟨"b.Second", "out/b/Second.java", .updated⟩,
            ⟨"c.Third", "out/c/Third.java", .created⟩]) ∧
        after.read "out/c/Third.java" =
          .ok (threeClasses.unitOf (bareClass "c" "Third")).toUTF8 ∧
        (∃ classes, Emission.Placed threeClasses "out" halfBuiltTree classes after ∧
          classes.map ClassDecl.qualifiedName = ["b.Second", "c.Third"]) ∧
        after.written = [["out", "b", "Second.java"], ["out", "c", "Third.java"]] ∧
        (∀ location, after.Designates "out/a/First.java" location → location ∉ after.written) ∧
        threeClasses.emit "out" false after =
          (after, .ok [⟨"a.First", "out/a/First.java", .unchanged⟩,
            ⟨"b.Second", "out/b/Second.java", .unchanged⟩,
            ⟨"c.Third", "out/c/Third.java", .unchanged⟩]) := by
  have grounded : halfBuiltTree.IsGrounded := by
    unfold FileTree.IsGrounded
    decide +kernel
  have straight : ".." ∉ Path.components "out" := by decide
  have plain : ∀ decl ∈ threeClasses.classes, decl.IsPlain := by decide
  have apart : (threeClasses.classes.map ClassDecl.unitPath).Nodup := by decide +kernel
  have reported : (threeClasses.emit "out" false halfBuiltTree).2 =
      .ok [⟨"a.First", "out/a/First.java", .unchanged⟩,
        ⟨"b.Second", "out/b/Second.java", .updated⟩,
        ⟨"c.Third", "out/c/Third.java", .created⟩] := by decide +kernel
  have noted : (threeClasses.emit "out" false halfBuiltTree).1.written =
      [["out", "b", "Second.java"], ["out", "c", "Third.java"]] := by decide +kernel
  cases run : threeClasses.emit "out" false halfBuiltTree with
  | mk after result =>
      rw [run] at reported noted
      subst reported
      obtain ⟨readable, _, placed, ⟨written, log, _, spared⟩, again⟩ :=
        emit_brings_up_to_date grounded straight plain apart run
      obtain rfl : after.written = written := log
      exact ⟨grounded, straight, plain, apart, after, rfl,
        readable (bareClass "c" "Third") (by simp [threeClasses]),
        ⟨_, placed, by decide +kernel⟩, noted,
        spared ⟨"a.First", "out/a/First.java", .unchanged⟩ List.mem_cons_self rfl, again⟩

end ClassModel
end ValueMethods
