import ValueMethods.Data.Tree
import ValueMethods.Synthesis.Decision

/-!
# Generation runs

Generating the value methods of all classes of a model, and the report of what was done.  As data, a
report lists each class with its value methods, and with each method the reason why it was left out,
if it was.
-/

namespace ValueMethods

/-- What a run did for one class. -/
structure ClassReport where
  /-- The class. -/
  id : ClassId
  /-- Its qualified name. -/
  name : String
  /-- What came of each value method, in order. -/
  outcomes : List Outcome
  deriving DecidableEq

/-- The value methods that were generated, in order. -/
def ClassReport.generated (report : ClassReport) : List ValueMethod :=
  (report.outcomes.filter Outcome.isGenerated).map Outcome.kind

/-- What a run did, class by class in model order. -/
structure Report where
  /-- One entry for each class. -/
  classes : List ClassReport
  deriving DecidableEq

namespace Report

/-- All outcomes, class by class. -/
def outcomes (report : Report) : List Outcome :=
  report.classes.flatMap ClassReport.outcomes

/-- How many methods were generated. -/
def generatedCount (report : Report) : Nat :=
  (report.outcomes.filter Outcome.isGenerated).length

/-- How many methods were left out. -/
def omittedCount (report : Report) : Nat :=
  (report.outcomes.filter fun outcome => !outcome.isGenerated).length

/-- The entry of the first class with that qualified name. -/
def class? (report : Report) (name : String) : Option ClassReport :=
  report.classes.find? fun entry => entry.name == name

/-- Every outcome is either generated or left out. -/
theorem generatedCount_add_omittedCount (report : Report) :
    report.generatedCount + report.omittedCount = report.outcomes.length := by
  unfold generatedCount omittedCount
  generalize report.outcomes = outcomes
  induction outcomes with
  | nil => rfl
  | cons outcome rest ih =>
      cases generated : outcome.isGenerated <;> simp [generated] <;> omega

end Report

namespace ClassModel

/-- Generates the value methods of one class. -/
def generateFor (model : ClassModel) (options : Options) (id : ClassId) :
    ClassModel × ClassReport :=
  let (changed, outcomes) := (model.plan options id).settle model
  (changed, ⟨id, changed.qualifiedName id, outcomes⟩)

/-- Generates the value methods of the listed classes, in order. -/
def generateForAll (options : Options) : ClassModel → List ClassId → ClassModel × List ClassReport
  | model, [] => (model, [])
  | model, id :: rest =>
      let (changed, report) := model.generateFor options id
      let (final, reports) := generateForAll options changed rest
      (final, report :: reports)

/-- Generates the value methods of all classes, in model order. -/
def generate (model : ClassModel) (options : Options) : ClassModel × Report :=
  let (final, reports) := generateForAll options model model.ids
  (final, ⟨reports⟩)

end ClassModel

/-! ## Reports as data -/

/-- What came of a value method, as data. -/
def Outcome.tree (outcome : Outcome) : DataTree :=
  .map ([("method", .text outcome.kind.javaName)] ++
    DataTree.optionalText "skipped" (outcome.omission.map Omission.key))

/-- What was done for a class, as data. -/
def ClassReport.tree (report : ClassReport) : DataTree :=
  .map [("class", .text report.name), ("methods", .list (report.outcomes.map Outcome.tree))]

/-- A report as data. -/
def Report.tree (report : Report) : DataTree :=
  .map [("classes", .list (report.classes.map ClassReport.tree))]

end ValueMethods
