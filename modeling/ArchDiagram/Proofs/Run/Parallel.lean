import ArchDiagram.Proofs.Run.Occasion
import ArchDiagram.Run.Pipeline

/-!
# Runs side by side

Two runs for one repository may differ in their collaborators, their listeners and their
credentials.  They go through the same functions all the same.  So a relation between their
computations that holds wherever they emit, wait, ask or give up, and that is kept when one
computation follows another, holds between the runs.

* `Run.Alongside`: such a relation.
* `Run.Alongside.diagram`: **it holds between the runs up to their terminal events**.
-/

namespace ArchDiagram.Run

variable {σ σ' : Type}

/-- A relation between the computations of two runs: the run of `p` and `r` with the listener `l`,
and the run with the collaborators `t`, the listener `l'` and the credentials `key` and `token`. -/
structure Alongside (p : Setting σ) (t : Team σ') (l l' : Listener) (r : DiagramRequest)
    (key token : Option String) (R : ∀ {α : Type}, Run σ α → Run σ' α → Prop) : Prop where
  pure {α : Type} (a : α) : R (pure a) (pure a)
  rejected {α : Type} (x : Gate.Rejection) : R (fail (.rejected x) : Run σ α) (fail (.rejected x))
  unresolved {α : Type} (feedback : String) :
    R (fail (.unresolved feedback) : Run σ α) (fail (.unresolved feedback))
  bind {α β : Type} {m : Run σ α} {m' : Run σ' α} {f : α → Run σ β} {f' : α → Run σ' β} :
    R m m' → (∀ a, R (f a) (f' a)) → R (m >>= f) (m' >>= f')
  emit (e : Event) : e.isTerminal = false → R (emit l e) (emit l' e)
  pause (d : Duration) : R (pause d) (pause d)
  fetch : R (fetch p r) (fetch { p with team := t } { r with apiKey := key, hostToken := token })
  measure (s : Snapshot) : R (measure p s r.apiKey) (measure { p with team := t } s key)
  generate (q : TextRequest) (k : Occasion) : q.caller = k.caller → q.apiKey = r.apiKey →
    R (generate p l q k.chunk) (generate { p with team := t } l' { q with apiKey := key } k.chunk)
  check (diagram : String) : R (check p diagram) (check { p with team := t } diagram)

namespace Alongside

variable {p : Setting σ} {t : Team σ'} {l l' : Listener} {r : DiagramRequest}
  {key token : Option String} {R : ∀ {α : Type}, Run σ α → Run σ' α → Prop}

theorem runStage (h : Alongside p t l l' r key token R) (s : Stage) (sections : List Section) :
    R (runStage p l s sections r.apiKey)
      (Run.runStage { p with team := t } l' s sections key) := by
  refine h.bind (h.emit _ (s.isTerminal_sentEvent _)) fun _ => ?_
  refine h.bind (h.pause _) fun _ => ?_
  refine h.bind (h.emit _ s.isTerminal_progressEvent) fun _ => ?_
  exact h.generate (s.request p.model sections r.apiKey) (.stage s) rfl rfl

theorem repairOnce (h : Alongside p t l l' r key token R) (f : Findings) (i : Nat)
    (diagram : String) (v : Verdict) :
    R (repairOnce p l r.apiKey f i diagram v)
      (Run.repairOnce { p with team := t } l' key f i diagram v) := by
  refine h.bind (h.emit _ rfl) fun _ => ?_
  refine h.bind (h.generate (repairRequest p.model r.apiKey f diagram v.feedback)
    (.attempt i p.maxRepairs) rfl rfl) fun answer => ?_
  refine h.bind (h.emit _ rfl) fun _ => ?_
  exact h.bind (h.check _) fun verdict => h.pure _

theorem repairLoop (h : Alongside p t l l' r key token R) (f : Findings) (left i : Nat)
    (diagram : String) (v : Verdict) :
    R (repairLoop p l r.apiKey f i diagram v left)
      (Run.repairLoop { p with team := t } l' key f i diagram v left) := by
  induction left generalizing i diagram v with
  | zero => exact h.pure _
  | succ left ih =>
    rw [Run.repairLoop, Run.repairLoop]
    split
    · exact h.pure _
    · exact h.bind (h.repairOnce f i diagram v) fun d => ih (i + 1) d.1 d.2

theorem ensureValid (h : Alongside p t l l' r key token R) (f : Findings) (diagram : String) :
    R (ensureValid p l r.apiKey f diagram)
      (Run.ensureValid { p with team := t } l' key f diagram) := by
  refine h.bind (h.check diagram) fun v => ?_
  split
  · exact h.pure diagram
  · refine h.bind (h.emit _ rfl) fun _ => ?_
    refine h.bind (h.repairLoop f p.maxRepairs 1 diagram v) fun d => ?_
    dsimp only
    split
    · exact h.bind (h.emit _ rfl) fun _ => h.pure _
    · exact h.unresolved _

theorem make (h : Alongside p t l l' r key token R) (s : Snapshot) :
    R (make p l r s) (Run.make { p with team := t } l'
      { r with apiKey := key, hostToken := token } s) := by
  refine h.bind (h.runStage _ _) fun explanation => ?_
  refine h.bind (h.runStage _ _) fun answer => ?_
  refine h.bind (h.runStage _ _) fun drawing => ?_
  exact h.bind (h.ensureValid _ _) fun valid => h.pure _

/-- **What relates the computations of two runs relates the runs**, if both have a key or none. -/
theorem diagram (h : Alongside p t l l' r key token R) (hkey : key.isSome = r.apiKey.isSome) :
    R (diagram p l r) (Run.diagram { p with team := t } l'
      { r with apiKey := key, hostToken := token }) := by
  refine h.bind h.fetch fun snapshot => ?_
  refine h.bind (h.measure snapshot) fun estimate => ?_
  refine h.bind (h.emit _ rfl) fun _ => ?_
  dsimp only
  rw [hkey]
  split
  · exact h.rejected _
  · exact h.make snapshot

end Alongside

end ArchDiagram.Run
