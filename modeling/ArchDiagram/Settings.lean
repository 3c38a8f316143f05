import ArchDiagram.Decimal.Digits
import ArchDiagram.Duration
import ArchDiagram.Text.Blank
import ArchDiagram.Text.Quoted

/-!
# Settings

The program is set up by variables of its environment.  A variable that is unset or blank leaves a
default in place; one that holds a number must hold one that fits.

* `Settings.ofLookup`: the settings for an environment.
-/

namespace ArchDiagram

structure Settings where
  apiKey : Option String
  model : String
  providerUrl : String
  providerTimeout : Duration
  hostToken : Option String
  hostUrl : String
  checkerProgram : String
  checkerArgs : List String
  host : String
  port : Nat
  pacing : Duration
  deriving DecidableEq

/-- A variable that does not hold a number that fits, with its value. -/
structure Settings.Fault where
  key : String
  value : String
  deriving DecidableEq

namespace Settings

def Fault.message (f : Fault) : String :=
  "invalid value for " ++ f.key ++ ": " ++ Text.quoted f.value

def defaultModel : String := "gpt-5.2"

def defaultTimeout : Duration := .seconds 600

def defaultPacing : Duration := .milliseconds 80

/-- How often a diagram is repaired. -/
def maxRepairs : Nat := 3

def standard : Settings where
  apiKey := none
  model := defaultModel
  providerUrl := "https://api.openai.com/v1"
  providerTimeout := defaultTimeout
  hostToken := none
  hostUrl := "https://api.github.com"
  checkerProgram := "node"
  checkerArgs := ["scripts/validate_mermaid.mjs"]
  host := "127.0.0.1"
  port := 8000
  pacing := defaultPacing

/-- The number below `bound` that a text denotes: digits, perhaps after a plus sign, with blanks
around. -/
def number? (bound : Nat) (s : String) : Option Nat :=
  let cs := Text.trimBy Text.isBlank s.toList
  let ds := match cs with
    | '+' :: r => r
    | r => r
  (Decimal.read? ds).filter (· < bound)

def numberIn (key : String) (bound : Nat) (value : Option String) : Except Fault (Option Nat) :=
  match value with
  | none => .ok none
  | some s =>
    match number? bound s with
    | some n => .ok (some n)
    | none => .error ⟨key, s⟩

def variableNames : List String :=
  ["OPENAI_API_KEY", "OPENAI_MODEL", "OPENAI_BASE_URL", "OPENAI_TIMEOUT_SECONDS", "GITHUB_PAT",
    "GITHUB_API_URL", "MERMAID_VALIDATOR_PROGRAM", "MERMAID_VALIDATOR_ARGS", "HOST", "PORT",
    "PACING_DELAY_MS"]

def ofLookup (lookup : String → Option String) : Except Fault Settings := do
  let get (key : String) : Option String := (lookup key).filter fun v => !Text.isAllBlank v
  let seconds ← numberIn "OPENAI_TIMEOUT_SECONDS" (Decimal.twoTo 64) (get "OPENAI_TIMEOUT_SECONDS")
  let port ← numberIn "PORT" (Decimal.twoTo 16) (get "PORT")
  let pacing ← numberIn "PACING_DELAY_MS" (Decimal.twoTo 64) (get "PACING_DELAY_MS")
  return {
    apiKey := get "OPENAI_API_KEY"
    model := ((get "OPENAI_MODEL").map Text.trim).getD standard.model
    providerUrl := (get "OPENAI_BASE_URL").getD standard.providerUrl
    providerTimeout := (seconds.map .seconds).getD standard.providerTimeout
    hostToken := get "GITHUB_PAT"
    hostUrl := (get "GITHUB_API_URL").getD standard.hostUrl
    checkerProgram := (get "MERMAID_VALIDATOR_PROGRAM").getD standard.checkerProgram
    checkerArgs := ((get "MERMAID_VALIDATOR_ARGS").map Text.words).getD standard.checkerArgs
    host := (get "HOST").getD standard.host
    port := port.getD standard.port
    pacing := (pacing.map .milliseconds).getD standard.pacing }

def listenAddress (s : Settings) : String :=
  s.host ++ ":" ++ Decimal.text s.port

end Settings

end ArchDiagram
