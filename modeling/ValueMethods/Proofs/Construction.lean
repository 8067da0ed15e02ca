import ValueMethods.Documents.Loading
import ValueMethods.Proofs.Outlines

/-!
# Building a model

A model is put together in steps.  A step leaves a model and says whether it was refused, and the
model that a refused step leaves is the one that it was taken on.  A document is loaded in such
steps too.  No step generates a method or takes one away.
-/

namespace ValueMethods

/-- A step in building a model. -/
inductive Construction where
  /-- Adds a class with the methods that it was declared with. -/
  | addClass (outline : Outline) (methods : List (Signature × Option String))
  /-- Makes a class of the model the superclass of another. -/
  | extend (child parent : ClassId)
  /-- Gives a class a superclass outside the model. -/
  | extendExternal (child : ClassId) (name : String)
  /-- Declares one more method of a class, with its source if that is known. -/
  | declare (id : ClassId) (signature : Signature) (source : Option String)

/-! ## Entries of documents -/

namespace ClassEntry

/-- The open parts of the class that an entry describes. -/
def outline (entry : ClassEntry) (package : Option String) : Outline where
  name := entry.name
  package := entry.package.or package
  isAbstract := entry.isAbstract
  fields := entry.fields.map fun field => ⟨field.name, field.type, field.isStatic⟩
  superclass := none

theorem decl_eq_outline_decl (entry : ClassEntry) (package : Option String) :
    ∃ methods, entry.decl package = (entry.outline package).decl methods := by
  refine ⟨entry.methods.map fun method =>
    (Signature.of method.name method.parameters, method.source), ?_⟩
  simp [decl, outline, Outline.decl, List.foldl_map]

theorem outline_decl (entry : ClassEntry) (package : Option String) :
    (entry.decl package).outline = entry.outline package := by
  obtain ⟨methods, described⟩ := entry.decl_eq_outline_decl package
  rw [described, Outline.outline_decl]

end ClassEntry

namespace ClassModel

/-- Takes a step; the model that it leaves, and why it is refused if it is. -/
def construct (model : ClassModel) : Construction → ClassModel × Except ModelError Unit
  | .addClass outline methods =>
      let (changed, result) := model.enter (outline.decl methods)
      (changed, result.map fun _ => ())
  | .extend child parent => model.link child parent
  | .extendExternal child name => (model.extendExternal child name, .ok ())
  | .declare id signature source =>
      (model.modify id fun decl => decl.declareMethod signature source, .ok ())

/-- The model that a step leaves, be it refused or not. -/
def after (model : ClassModel) (step : Construction) : ClassModel :=
  (model.construct step).1

/-- The model after several steps. -/
def constructAll (model : ClassModel) (steps : List Construction) : ClassModel :=
  steps.foldl after model

/-- A model that has been put together in steps or loaded from a document. -/
inductive Built : ClassModel → Prop
  /-- Any sequence of steps, refused ones included. -/
  | inSteps (steps : List Construction) : Built (empty.constructAll steps)
  /-- Any document that describes a model. -/
  | fromDocument {document : Document} {model : ClassModel} (loads : document.model = .ok model) :
      Built model

/-! ## Adding a class -/

/-- A class is refused and nothing changes, or it is added at the end.  Then its name is new and it
declares no field twice. -/
theorem enter_cases (model : ClassModel) (decl : ClassDecl) :
    (∃ error, model.enter decl = (model, .error error)) ∨
      model.index.lookup decl.qualifiedName = none ∧
      firstRepeated (decl.fields.map Field.name) = none ∧
      model.enter decl =
        ({ classes := model.classes ++ [decl]
           index := model.index ++ [(decl.qualifiedName, model.size)] }, .ok model.size) := by
  unfold enter
  dsimp only
  split
  · exact .inl ⟨_, rfl⟩
  · next new =>
      split
      · exact .inl ⟨_, rfl⟩
      · next distinct => exact .inr ⟨Option.not_isSome_iff_eq_none.mp new, distinct, rfl⟩

theorem of_addClass_eq_ok {model extended : ClassModel} {decl : ClassDecl}
    (added : model.addClass decl = .ok extended) :
    model.index.lookup decl.qualifiedName = none ∧
      firstRepeated (decl.fields.map Field.name) = none ∧
      extended =
        { classes := model.classes ++ [decl]
          index := model.index ++ [(decl.qualifiedName, model.size)] } := by
  rw [addClass] at added
  rcases model.enter_cases decl with ⟨error, refused⟩ | ⟨free, distinct, entered⟩
  · rw [refused] at added
    simp [accepted] at added
  · rw [entered] at added
    exact ⟨free, distinct, (Except.ok.inj added).symm⟩

theorem class?_of_addClass {model extended : ClassModel} {decl : ClassDecl}
    (added : model.addClass decl = .ok extended) (id : ClassId) :
    extended.class? id = if id = model.size then some decl else model.class? id := by
  obtain ⟨_, _, rfl⟩ := of_addClass_eq_ok added
  rcases Nat.lt_trichotomy id model.size with before | rfl | beyond
  · rw [if_neg (Nat.ne_of_lt before), class?, class?, List.getElem?_append_left before]
  · simp [class?, size]
  · have outside : model.class? id = none := by
      simp only [class?, List.getElem?_eq_none_iff]
      exact Nat.le_of_lt beyond
    rw [if_neg (Nat.ne_of_gt beyond), outside, class?, List.getElem?_eq_none_iff,
      List.length_append, List.length_singleton]
    exact beyond

theorem size_of_addClass {model extended : ClassModel} {decl : ClassDecl}
    (added : model.addClass decl = .ok extended) : extended.size = model.size + 1 := by
  obtain ⟨_, _, rfl⟩ := of_addClass_eq_ok added
  simp [size]

theorem class?_size (model : ClassModel) : model.class? model.size = none := by
  simp [class?, size]

theorem lt_size_of_class? {model : ClassModel} {id : ClassId} {decl : ClassDecl}
    (found : model.class? id = some decl) : id < model.size :=
  (List.getElem?_eq_some_iff.mp found).1

/-! ## One step -/

/-- What a step can come to: it is refused and leaves the model as it is, or it does what it
says. -/
inductive Taken (model : ClassModel) :
    Construction → ClassModel × Except ModelError Unit → Prop
  | refused {step : Construction} (error : ModelError) : Taken model step (model, .error error)
  | added {outline : Outline} {methods : List (Signature × Option String)} {changed : ClassModel}
      (added : model.addClass (outline.decl methods) = .ok changed) :
      Taken model (.addClass outline methods) (changed, .ok ())
  | extended {child parent : ClassId} (apart : child ∉ model.lineage parent) :
      Taken model (.extend child parent)
        (model.setSuperclass child (some (.inModel parent)), .ok ())
  | extendedOutside {child : ClassId} {name : String} :
      Taken model (.extendExternal child name)
        (model.setSuperclass child (some (.external name)), .ok ())
  | declared {id : ClassId} {signature : Signature} {source : Option String} :
      Taken model (.declare id signature source)
        (model.modify id fun decl => decl.declareMethod signature source, .ok ())

theorem taken_construct (model : ClassModel) (step : Construction) :
    model.Taken step (model.construct step) := by
  cases step with
  | addClass outline methods =>
      rw [construct]
      rcases model.enter_cases (outline.decl methods) with ⟨error, refused⟩ | ⟨_, _, entered⟩
      · rw [refused]
        exact .refused error
      · rw [entered]
        exact .added (by rw [addClass, entered, accepted])
  | extend child parent =>
      rw [construct, link]
      split
      · exact .refused _
      · next apart => exact .extended apart
  | extendExternal child name => exact .extendedOutside
  | declare id signature source => exact .declared

/-- A step that is refused leaves the model as it is. -/
theorem construct_of_error {model : ClassModel} {step : Construction} {error : ModelError}
    (refused : (model.construct step).2 = .error error) : (model.construct step).1 = model := by
  have taken := model.taken_construct step
  generalize model.construct step = result at taken refused
  cases taken with
  | refused _ => rfl
  | added _ => simp at refused
  | extended _ => simp at refused
  | extendedOutside => simp at refused
  | declared => simp at refused

theorem fst_of_accepted {α : Type} {result : ClassModel × Except ModelError α}
    {changed : ClassModel} (reached : accepted result = .ok changed) : result.1 = changed := by
  obtain ⟨model, outcome⟩ := result
  cases outcome with
  | error error => simp [accepted] at reached
  | ok value => exact Except.ok.inj reached

/-! ## Documents are loaded in steps -/

theorem constructAll_cons (model : ClassModel) (step : Construction) (rest : List Construction) :
    model.constructAll (step :: rest) = (model.after step).constructAll rest := rfl

private theorem exists_steps_addEntries {package : Option String} {model final : ClassModel}
    {entries : List ClassEntry} {pending : List (ClassId × String)}
    (added : addEntries package model entries = .ok (final, pending)) :
    ∃ steps, final = model.constructAll steps := by
  induction entries generalizing model final pending with
  | nil =>
      obtain ⟨rfl, _⟩ : model = final ∧ [] = pending := by simpa [addEntries] using added
      exact ⟨[], rfl⟩
  | cons entry rest ih =>
      simp only [addEntries] at added
      cases first : model.addClass (entry.decl package) with
      | error error => simp [first] at added
      | ok extended =>
          cases further : addEntries package extended rest with
          | error error => simp [first, further] at added
          | ok result =>
              obtain ⟨reached, others⟩ := result
              obtain ⟨steps, reachedBy⟩ := ih further
              obtain ⟨methods, described⟩ := entry.decl_eq_outline_decl package
              have taken : model.after (.addClass (entry.outline package) methods) = extended := by
                rw [described] at first
                change (model.enter ((entry.outline package).decl methods)).1 = extended
                exact fst_of_accepted first
              have sameEnd : reached = final := by
                simp only [first, further] at added
                split at added <;> simp_all
              refine ⟨.addClass (entry.outline package) methods :: steps, ?_⟩
              rw [constructAll_cons, taken, ← reachedBy, sameEnd]

private theorem exists_steps_linkAll {model final : ClassModel}
    {pending : List (ClassId × String)} (linked : model.linkAll pending = .ok final) :
    ∃ steps, final = model.constructAll steps := by
  induction pending generalizing model with
  | nil =>
      obtain rfl : model = final := by simpa [linkAll] using linked
      exact ⟨[], rfl⟩
  | cons link rest ih =>
      obtain ⟨child, name⟩ := link
      simp only [linkAll] at linked
      split at linked
      · next parent resolved =>
          cases extended : model.extend child parent with
          | error error => simp [extended] at linked
          | ok changed =>
              obtain ⟨steps, reachedBy⟩ := ih (by simpa [extended] using linked)
              have taken : model.after (.extend child parent) = changed :=
                fst_of_accepted extended
              exact ⟨.extend child parent :: steps, by rw [constructAll_cons, taken, ← reachedBy]⟩
      · obtain ⟨steps, reachedBy⟩ := ih linked
        exact ⟨.extendExternal child name :: steps, reachedBy⟩

/-- Whatever way a model has been built, there are steps that lead to it. -/
theorem Built.exists_steps {model : ClassModel} (built : model.Built) :
    ∃ steps, model = empty.constructAll steps := by
  cases built with
  | inSteps steps => exact ⟨steps, rfl⟩
  | @fromDocument document _ loads =>
      simp only [Document.model] at loads
      cases added : addEntries document.package empty document.classes with
      | error error => simp [added] at loads
      | ok result =>
          obtain ⟨reached, pending⟩ := result
          obtain ⟨front, reachedBy⟩ := exists_steps_addEntries added
          obtain ⟨back, linkedBy⟩ := exists_steps_linkAll (by simpa [added] using loads)
          refine ⟨front ++ back, ?_⟩
          rw [linkedBy, reachedBy, constructAll, constructAll, constructAll, List.foldl_append]

/-! ## What building leaves alone -/

/-- Between two models nothing has been generated: classes that were there have the same generated
methods and at least the signatures that they had, and new classes have no generated methods. -/
structure GeneratesNothing (before after : ClassModel) : Prop where
  /-- What becomes of a class. -/
  old : ∀ id decl, before.class? id = some decl → ∃ changed, after.class? id = some changed ∧
    changed.generated = decl.generated ∧
      ∀ signature, decl.hasMethod signature = true → changed.hasMethod signature = true
  /-- What a class is that was not there before. -/
  new : ∀ id decl, before.class? id = none → after.class? id = some decl → decl.generated = []

theorem GeneratesNothing.refl (model : ClassModel) : model.GeneratesNothing model where
  old _ decl found := ⟨decl, found, rfl, fun _ owned => owned⟩
  new _ _ missing found := by simp [missing] at found

theorem generatesNothing_modify (model : ClassModel) (id : ClassId)
    {change : ClassDecl → ClassDecl}
    (sameGenerated : ∀ decl, (change decl).generated = decl.generated)
    (keepsMethods : ∀ decl signature,
      decl.hasMethod signature = true → (change decl).hasMethod signature = true) :
    model.GeneratesNothing (model.modify id change) where
  old other decl found := by
    rw [class?_modify, found]
    by_cases chosen : id = other
    · exact ⟨change decl, by simp [chosen], sameGenerated decl, keepsMethods decl⟩
    · exact ⟨decl, by simp [chosen], rfl, fun _ owned => owned⟩
  new other decl missing found := by
    rw [class?_modify, missing] at found
    simp at found

private theorem generatesNothing_addClass {model changed : ClassModel} {decl : ClassDecl}
    (declared : decl.generated = []) (added : model.addClass decl = .ok changed) :
    model.GeneratesNothing changed := by
  constructor
  · intro id old found
    have inside := lt_size_of_class? found
    refine ⟨old, ?_, rfl, fun _ owned => owned⟩
    rw [class?_of_addClass added, if_neg (Nat.ne_of_lt inside), found]
  · intro id fresh missing found
    rw [class?_of_addClass added, missing] at found
    split at found
    · rw [← Option.some.inj found, declared]
    · simp at found

/-- No step in building a model generates anything. -/
theorem generatesNothing_after (model : ClassModel) (step : Construction) :
    model.GeneratesNothing (model.after step) := by
  have taken := model.taken_construct step
  rw [after]
  generalize model.construct step = result at taken
  cases taken with
  | refused error => exact .refl model
  | added added => exact generatesNothing_addClass (Outline.generated_decl ..) added
  | extended apart =>
      exact generatesNothing_modify model _ (fun _ => rfl) (fun _ _ owned => owned)
  | extendedOutside =>
      exact generatesNothing_modify model _ (fun _ => rfl) (fun _ _ owned => owned)
  | declared =>
      exact generatesNothing_modify model _ (fun _ => rfl) fun _ _ owned => by simp [owned]

theorem GeneratesNothing.trans {first second third : ClassModel}
    (before : first.GeneratesNothing second) (after : second.GeneratesNothing third) :
    first.GeneratesNothing third where
  old id decl found := by
    obtain ⟨between, foundBetween, sameBefore, keptBefore⟩ := before.old id decl found
    obtain ⟨changed, foundChanged, sameAfter, keptAfter⟩ := after.old id between foundBetween
    refine ⟨changed, foundChanged, sameAfter.trans sameBefore, ?_⟩
    exact fun signature owned => keptAfter signature (keptBefore signature owned)
  new id decl missing found := by
    cases middle : second.class? id with
    | none => exact after.new id decl middle found
    | some between =>
        obtain ⟨changed, foundChanged, same, _⟩ := after.old id between middle
        obtain rfl : changed = decl := by simpa [foundChanged] using found
        rw [same, before.new id between missing middle]

theorem generatesNothing_constructAll (model : ClassModel) (steps : List Construction) :
    model.GeneratesNothing (model.constructAll steps) := by
  induction steps generalizing model with
  | nil => exact .refl model
  | cons step rest ih => exact (generatesNothing_after model step).trans (ih (model.after step))

/-- A model that has only been built has no generated methods. -/
theorem Built.generated_eq_nil {model : ClassModel} (built : model.Built) {id : ClassId}
    {decl : ClassDecl} (found : model.class? id = some decl) : decl.generated = [] := by
  obtain ⟨steps, rfl⟩ := built.exists_steps
  exact (generatesNothing_constructAll empty steps).new id decl rfl found

end ClassModel
end ValueMethods
