import ValueMethods.CommandLine.Loading
import ValueMethods.CommandLine.Request
import ValueMethods.Synthesis.Report
import ValueMethods.Text.Moment

/-!
# Generating units

Generating the methods of all classes of a project and emitting the units, with a summary as text
or as data.
-/

namespace ValueMethods

/-- What a generation did. -/
structure Generation where
  /-- Whether nothing was written. -/
  dryRun : Bool
  /-- The documents that were loaded. -/
  documents : List String
  /-- The directory for the units. -/
  output : String
  /-- What was generated. -/
  report : Report
  /-- What was emitted. -/
  files : List EmittedFile
  deriving DecidableEq

/-- An emitted file as data. -/
def EmittedFile.tree (file : EmittedFile) : DataTree :=
  .map
    [("class", .text file.owner), ("path", .text file.path), ("status", .text file.status.key)]

/-- The mark in front of a file in a listing. -/
def EmissionStatus.mark : EmissionStatus → String
  | .created => "+"
  | .updated => "~"
  | .unchanged => "="

namespace Generation

/-! ## Summaries -/

/-- The summary as data, with the moment of the generation. -/
def tree (generation : Generation) (moment : Moment) : DataTree :=
  .map
    [("generated_at", .text moment.text), ("dry_run", .bool generation.dryRun),
      ("model_files", .ofTexts generation.documents), ("output_dir", .text generation.output),
      ("report", generation.report.tree),
      ("files", .list (generation.files.map EmittedFile.tree))]

/-- The cell for one value method of a class. -/
def outcomeCell (report : ClassReport) (kind : ValueMethod) : String :=
  match (report.outcomes.find? fun outcome => outcome.kind == kind).bind Outcome.omission with
  | none => "✓ generated"
  | some reason => "- " ++ reason.text

/-- The table of what came of the value methods. -/
def reportTable (report : Report) : Table where
  header := "Class" :: ValueMethod.all.map ValueMethod.javaName
  rows := report.classes.map fun entry => entry.name :: ValueMethod.all.map (outcomeCell entry)

/-- The line for a class where each class has one line. -/
def compactLine (report : ClassReport) : String :=
  report.name ++ ": " ++ Text.joinWith ", " (report.generated.map ValueMethod.javaName)

/-- Prints what came of the value methods. -/
def printReport (screen : Screen) (report : Report) : Screen :=
  if report.classes.isEmpty then
    screen.info "Model contains no classes."
  else if screen.manner.format = .compact then
    report.classes.foldl (fun screen entry => screen.item "•" (compactLine entry)) screen
  else
    screen.code ((reportTable report).text screen.tableStyle)

/-- The files that were written, or would be. -/
def changedFiles (generation : Generation) : List EmittedFile :=
  generation.files.filter EmittedFile.isChanged

/-- Prints one file, by its path below the directory for the units. -/
def printFile (output : String) (screen : Screen) (file : EmittedFile) : Screen :=
  screen.item file.status.mark ((Path.relativeTo? output file.path).getD file.path)

/-- The line that ends a summary. -/
def closingLine (generation : Generation) : String :=
  let changed := generation.changedFiles.length
  (if generation.dryRun then "Would write " else "Wrote ") ++ toString changed ++ " file(s) to " ++
    generation.output ++ " (" ++ toString (generation.files.length - changed) ++ " unchanged, " ++
    toString generation.report.generatedCount ++ " methods generated)"

/-- Prints the summary. -/
def print (generation : Generation) (moment : Moment) (screen : Screen) : Screen :=
  if screen.manner.format = .json then
    screen.json (generation.tree moment)
  else
    let reported := printReport (screen.heading "Synthesized Methods") generation.report
    let headed := reported.heading (if generation.dryRun then "Planned Files" else "Files")
    let listed := generation.changedFiles.foldl (printFile generation.output) headed
    listed.success generation.closingLine

/-! ## Running -/

/-- Generates the methods of a loaded model and emits the units. -/
def emit (request : GenerateRequest) (project : Project) (options : Options)
    (loaded : LoadedModel) (moment : Moment) (tree : FileTree) (screen : Screen) : CommandResult :=
  let output := project.outputDirectory request.output
  let (model, report) := loaded.model.generate options
  match model.emit output request.dryRun tree with
  | (changed, .error error) => .failed changed screen (.emission error)
  | (changed, .ok files) =>
      .done changed
        (print ⟨request.dryRun, loaded.documents, output, report, files⟩ moment screen)

/-- Generates the units of the project that the current directory belongs to. -/
def run (request : GenerateRequest) (moment : Moment) (tree : FileTree) (screen : Screen) :
    CommandResult :=
  match Project.find tree tree.currentPath with
  | .error error => .failed tree screen (.project error)
  | .ok project =>
      let warned :=
        if !project.hasSettings && request.paths.isEmpty then
          screen.warning "No valuegen.toml found; using default settings."
        else
          screen
      match Switches.apply (project.options request.skipToString) request.arguments with
      | .error error => .failed tree warned (.switches error)
      | .ok options =>
          match project.loadModel tree request.paths warned with
          | (printed, .error error) => .failed tree printed error
          | (printed, .ok loaded) => emit request project options loaded moment tree printed

end Generation

end ValueMethods
