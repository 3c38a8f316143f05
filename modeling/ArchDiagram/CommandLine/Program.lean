import ArchDiagram.CommandLine.Arguments
import ArchDiagram.Web.Address
import ArchDiagram.Server.Route
import ArchDiagram.Service

/-!
# The program

What the program prints and how it ends.  A quote is printed as indented JSON, and of a run each
event is printed as a line of JSON.  A program that fails says why on the error stream.

* `run`: what comes of a call with arguments and an environment.
-/

namespace ArchDiagram.CommandLine

/-- What the program leaves behind when it ends. -/
structure Report where
  exitCode : Nat
  out : String
  err : String

inductive Result where
  | report (r : Report)
  /-- The usage is explained. -/
  | usage (exitCode : Nat) (text : String)
  /-- The program serves at this address until it is interrupted. -/
  | serving (address : String) (s : Settings)

def versionLine : String :=
  "repodiagram 0.1.0\n"

def usageText : String :=
  "Generate Mermaid architecture diagrams for GitHub repositories\n\n" ++
  "Usage: repodiagram [OPTIONS] <COMMAND>\n\n" ++
  "Commands:\n" ++
  "  serve     Run the HTTP server\n" ++
  "  cost      Quote the cost of generating a diagram\n" ++
  "  generate  Generate a diagram, printing each event as a JSON line\n" ++
  "  help      Print this message or the help of the given subcommand(s)\n"

/-- A failed program that has printed `out` and names the cause. -/
def failed (out cause : String) : Report :=
  ⟨1, out, "Error: " ++ cause ++ "\n"⟩

def settingsFor (model : Option String) (command : Command) (s : Settings) : Settings :=
  let s := { s with model := model.getD s.model }
  match command with
  | .serve host port => { s with host := host.getD s.host, port := port.getD s.port }
  | .cost _ => s
  | .generate _ noPacing => if noPacing then { s with pacing := ⟨0⟩ } else s

def settingsCause (f : Settings.Fault) : String :=
  "Invalid \x7b key: " ++ Text.quoted f.key ++ ", value: " ++ Text.quoted f.value ++ " \x7d"

def requestCause (reason : String) : String :=
  "RequestValidation \x7b reason: " ++ Text.quoted reason ++ " \x7d"

def eventCause? : Event → Option String
  | .error message code _ => some (Text.quoted (code.name ++ ": " ++ message))
  | _ => none

def runCost (p : Setting Services) (r : DiagramRequest) (w : World Services) :
    Report × World Services :=
  let printed (j : Json) : String := j.renderPretty ++ "\n"
  match Run.quote p r w with
  | (.ok q, w') => (⟨0, printed q.resultJson, ""⟩, w')
  | (.error (.failed f), w') =>
    (failed (printed f.quoteJson) (Text.quoted "cost estimation failed"), w')
  | (.error _, w') => (failed "" (Text.quoted "cost estimation failed"), w')

def runGenerate (p : Setting Services) (r : DiagramRequest) (w : World Services) :
    Report × World Services :=
  match r.fault? with
  | some reason => (failed "" (requestCause reason), w)
  | none =>
    let w' := execute p .loyal r w
    let events := emitted w'.history.reverse
    let out := String.join (events.map Event.line)
    match (events.filterMap eventCause?).getLast? with
    | some cause => (failed out cause, w')
    | none => (⟨0, out, ""⟩, w')

def runCommand (command : Command) (s : Settings) (programs : Programs) (w : World Services) :
    Result × World Services :=
  match command with
  | .serve .. =>
    let address := s.listenAddress
    if Address.isValid address then (.serving address s, w)
    else (.report (failed "" ("Address(" ++ Text.quoted address ++ ")")), w)
  | .cost r =>
    let (report, w') := runCost (s.setting programs) r w
    (.report report, w')
  | .generate r _ =>
    let (report, w') := runGenerate (s.setting programs) r w
    (.report report, w')

def run (arguments : List String) (lookup : String → Option String) (programs : Programs)
    (w : World Services) : Result × World Services :=
  match read arguments lookup with
  | .error f => (.usage 2 (f.message ++ "\n"), w)
  | .ok .help => (.usage 0 usageText, w)
  | .ok .version => (.report ⟨0, versionLine, ""⟩, w)
  | .ok (.run model command) =>
    match Settings.ofLookup lookup with
    | .error f => (.report (failed "" (settingsCause f)), w)
    | .ok s => runCommand command (settingsFor model command s) programs w

end ArchDiagram.CommandLine
