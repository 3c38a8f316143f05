import ArchDiagram.Provider.Client
import ArchDiagram.Repository.Host
import ArchDiagram.Run.Pipeline
import ArchDiagram.Settings
import ArchDiagram.Verdict.Checker

/-!
# The collaborators that the program works with

The program asks the repository's host and the provider over the web and starts the checker as a
program of its own.

* `Settings.setting`: what a run is given under the settings of the program.
-/

namespace ArchDiagram

structure Services where
  host : Web.Remote
  provider : Web.Remote

/-- What starting a program comes to: for its name, its arguments and what it reads. -/
abbrev Programs := String → List String → String → Checker.Outcome

def Answer.ofExcept {ε α : Type} : Except ε α → Answer ε α
  | .ok a => .ok a
  | .error e => .error e

namespace Settings

def hostClient (s : Settings) : Repository.Host :=
  .of s.hostToken s.hostUrl

def providerClient (s : Settings) : Provider.Client :=
  .of s.apiKey s.providerUrl s.providerTimeout Provider.standardRetries

def team (s : Settings) (programs : Programs) : Team Services where
  fetch owner repo credential v :=
    let (answer, host) := s.hostClient.fetch owner repo credential v.host
    (.ofExcept answer, { v with host := host })
  count r v :=
    let (answer, provider) := s.providerClient.count r v.provider
    (answer, { v with provider := provider })
  generate r v :=
    let (answer, provider) := s.providerClient.generate r v.provider
    (answer, { v with provider := provider })
  check diagram v :=
    (.ok (Checker.verdict (programs s.checkerProgram s.checkerArgs diagram)), v)

def setting (s : Settings) (programs : Programs) : Setting Services where
  team := s.team programs
  policy := .standard
  model := s.model
  pacing := s.pacing
  maxRepairs := maxRepairs

end Settings

end ArchDiagram
