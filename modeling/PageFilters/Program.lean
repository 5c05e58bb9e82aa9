import PageFilters.Command.Line
import PageFilters.Document
import PageFilters.Failure
import PageFilters.Listing
import PageFilters.Registry.Standard
import PageFilters.Settings.Layers

namespace PageFilters

/-- Reads the document in a file. -/
def Document.load (files : Files) (path : String) : Except DocumentError Document :=
  match (files path).bind String.fromUTF8? with
  | none => .error (.read path)
  | some source =>
    match (Toml.read source).bind (Document.ofData? true) with
    | some d => .ok d
    | none => .error .parse

namespace Program

/-- What the program finds around it. -/
structure World where
  files : Files
  environment : List (String × String)
  /-- Sets the markers of this run apart from any text. -/
  nonce : String

/-- What the program does in the end. -/
inductive Outcome where
  /-- Writes to standard output. -/
  | print (text : String)
  /-- Writes a file, and fails if that cannot be done. -/
  | write (path text : String)
  | usage (error : UsageError)
  | fail (error : AppError)
deriving DecidableEq, Repr

/-- Lays the options of a command over the settings from all other sources. -/
def load (w : World) (i : Invocation) : Except LoadError Settings := do
  let d ← Settings.gather w.files w.environment i.configFile
  Settings.ofDraft (i.command.overrides.overlay d)

/-- Renders a page on a fresh request. -/
def renderPage (w : World) (s : Settings) (d : Document) : Except AppError String :=
  let request : Request := { filters := .standard, markers := .distinct w.nonce 0 }
  match d.render d.fuel { request, cache := s.cacheConfig.build } with
  | some (.ok text, _) => .ok text
  | some (.error error, _) => .error (.document error)
  | none => .error (.serialization "page has too much deferred content")

def render (w : World) (s : Settings) (file : String) (output : Option String) : Outcome :=
  match Document.load w.files file with
  | .error error => .fail (.document error)
  | .ok d =>
    match renderPage w s d, output with
    | .error error, _ => .fail error
    | .ok text, none => .print text
    | .ok text, some path => .write path text

/-- Runs the program on its arguments. -/
def run (w : World) (args : List String) : Outcome :=
  match Invocation.ofArgs w.environment args with
  | .error (.help scope) =>
    .print (Usage.helpText (w.environment.lookup Usage.configVariable) scope)
  | .error .version => .print Usage.versionText
  | .error error => .usage error
  | .ok i =>
    match load w i, i.command with
    | .error error, _ => .fail (.config error)
    | .ok s, .render file output _ => render w s file output
    | .ok _, .filters asJson _ =>
      let filters := Registry.standard.describe
      .print (if asJson then Listing.json filters else Listing.plain filters)

/-- Exit codes: one for a failure, two for a command line that was not understood. -/
def Outcome.code : Outcome → Nat
  | print _ => 0
  | write _ _ => 0
  | usage _ => 2
  | fail _ => 1

/-- The paths that a run may read. -/
def inputs (w : World) (args : List String) : List String :=
  match Invocation.ofArgs w.environment args with
  | .error _ => []
  | .ok i =>
    Settings.candidates "config/default" ++ Settings.candidates "mason-filter" ++
      (i.configFile.map Settings.candidates).getD [] ++
      match i.command with
      | .render file _ _ => [file]
      | .filters _ _ => []

end Program

end PageFilters
