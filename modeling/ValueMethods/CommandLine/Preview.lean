import ValueMethods.CommandLine.Loading
import ValueMethods.CommandLine.Request
import ValueMethods.Java.CodeData
import ValueMethods.Synthesis.Report

/-!
# Previews

Showing what would be generated for one class, without writing anything: the methods or the whole
unit, and which methods are left out.
-/

namespace ValueMethods
namespace Preview

/-- Prints why a value method was left out, if it was. -/
def printOmission (screen : Screen) (outcome : Outcome) : Screen :=
  match outcome.omission with
  | some reason => screen.keyValue outcome.kind.javaName ("skipped (" ++ reason.text ++ ")")
  | none => screen

/-- Prints the omissions of a class. -/
def printOmissions (report : Report) (id : ClassId) (screen : Screen) : Screen :=
  match report.classes.find? fun entry => entry.id == id with
  | some entry => entry.outcomes.foldl printOmission screen
  | none => screen

/-- Prints the generated methods of a class, or its whole unit. -/
def printCode (model : ClassModel) (id : ClassId) (full : Bool) (screen : Screen) : Screen :=
  if full then
    screen.code (model.unit id)
  else if ((model.class? id).elim [] ClassDecl.generated).isEmpty then
    screen.info "No methods were generated for this class."
  else
    screen.code (model.generatedText id 0)

/-- Prints a class of a model in which the methods have been generated. -/
def print (model : ClassModel) (report : Report) (id : ClassId) (full : Bool) (screen : Screen) :
    Screen :=
  if screen.manner.format = .json then
    screen.json (.list (((model.class? id).elim [] ClassDecl.generated).map Method.tree))
  else
    printCode model id full
      (printOmissions report id (screen.heading (model.qualifiedName id)))

/-- Shows a class of the project that the current directory belongs to. -/
def run (request : ShowRequest) (tree : FileTree) (screen : Screen) : CommandResult :=
  Project.withModel tree request.paths screen fun project loaded printed =>
    match loaded.model.find? request.className with
    | none => .failed tree printed (.unknownClass request.className)
    | some id =>
        let (model, report) := loaded.model.generate (project.options request.skipToString)
        .done tree (print model report id request.full printed)

end Preview
end ValueMethods
