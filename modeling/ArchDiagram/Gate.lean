import ArchDiagram.Decimal.Digits

/-!
# The token gate

Before anything is generated the size of the first stage's input is estimated, and the gate decides
whether the run may go on.  Small repositories are free, those above a threshold need the caller's
own key, and those above a limit are refused.

* `Gate.decide`: the decision.
* `Gate.Rejection.message`: its wording, which names the limit that was crossed.
* `Gate.estimateOf`: the estimate where the provider gives no count.
-/

namespace ArchDiagram.Gate

structure Policy where
  /-- Above this a caller needs a key. -/
  threshold : Nat
  /-- Above this there is no run. -/
  limit : Nat

def Policy.standard : Policy :=
  ⟨50000, 195000⟩

/-- Why a run is turned away, with the estimate and the limit that it crossed. -/
inductive Rejection where
  | keyRequired (estimate threshold : Nat)
  | tooLarge (estimate limit : Nat)
  deriving DecidableEq

/-- The rejection of an estimate, if the gate rejects it.  An estimate equal to the limit passes
without a key. -/
def decide (p : Policy) (estimate : Nat) (hasKey : Bool) : Option Rejection :=
  if p.limit < estimate then some (.tooLarge estimate p.limit)
  else if p.threshold < estimate ∧ estimate < p.limit ∧ hasKey = false then
    some (.keyRequired estimate p.threshold)
  else none

def grouped : List Char → List Char
  | [] => []
  | c :: cs => if cs.length % 3 = 0 ∧ cs ≠ [] then c :: ',' :: grouped cs else c :: grouped cs

/-- A number with its digits in groups of three, such as `50,000`. -/
def groupThousands (n : Nat) : List Char :=
  grouped (Decimal.chars n)

/-- A whole number of thousands in short, such as `195k`; any other number in groups. -/
def abbreviateThousands (n : Nat) : List Char :=
  if 1000 ≤ n ∧ n % 1000 = 0 then Decimal.chars (n / 1000) ++ ['k'] else groupThousands n

def Rejection.message : Rejection → String
  | .keyRequired _ threshold =>
    "File tree and README combined exceeds token limit (" ++ String.ofList (groupThousands threshold)
      ++ "). This repository is too large for free generation. Provide your own OpenAI API key to "
      ++ "continue."
  | .tooLarge _ limit =>
    "Repository is too large (>" ++ String.ofList (abbreviateThousands limit)
      ++ " tokens) for analysis. Try a smaller repo."

/-- One token for every four characters, rounded up. -/
def estimateOf (s : String) : Nat :=
  (s.length + 3) / 4

end ArchDiagram.Gate
