import ArchDiagram.Proofs.Run.Quote

/-!
# Credentials and what a run shows

A run hands its credentials on to its collaborators, and looks at them only to tell whether there is
a key.  Two runs for one repository, both with a key or both without one, therefore do the same if
their collaborators answer the same: their steps differ at most in the credentials that stand in
them (`Indistinct`), and no event has a place for one.  A quote does not even look whether there is
a key, but it is refused like any other request if a credential is empty.

* `Step.masked`, `Indistinct`: steps without their credentials, and steps that are the same then.
* `Run.Alike`: computations that do the same in two worlds, but for credentials.
* `Run.alongside_alike`: **two runs are alike**.
* `execute_credentials`: **what a run shows does not depend on its credentials**.
-/

namespace ArchDiagram

/-! ## Steps without credentials -/

def TextRequest.unsigned (q : TextRequest) : TextRequest :=
  { q with apiKey := none }

def Step.masked : Step → Step
  | .fetch owner repo _ answer => .fetch owner repo none answer
  | .count q answer => .count q.unsigned answer
  | .generate q answer => .generate q.unsigned answer
  | s => s

theorem Step.event?_masked (s : Step) : s.masked.event? = s.event? := by
  cases s <;> rfl

theorem Step.isTerminal_masked (s : Step) : s.masked.isTerminal = s.isTerminal := by
  cases s <;> rfl

/-- Steps that differ at most in credentials. -/
def Indistinct (a b : List Step) : Prop :=
  a.map Step.masked = b.map Step.masked

namespace Indistinct

variable {a b : List Step}

theorem cons {s s' : Step} (hs : s.masked = s'.masked) (h : Indistinct a b) :
    Indistinct (s :: a) (s' :: b) := by
  unfold Indistinct at h ⊢
  rw [List.map_cons, List.map_cons, hs, h]

theorem reverse (h : Indistinct a b) : Indistinct a.reverse b.reverse := by
  unfold Indistinct at h ⊢
  rw [List.map_reverse, List.map_reverse, h]

/-- What a view of the steps tells is the same once `g` has removed the credentials. -/
theorem filterMap_eq {α β : Type} (h : Indistinct a b) {f : Step → Option α} {g : α → β}
    (hf : ∀ s, (f s.masked).map g = (f s).map g) :
    (a.filterMap f).map g = (b.filterMap f).map g := by
  have hview : ∀ c : List Step,
      (c.filterMap f).map g = (c.map Step.masked).filterMap fun s => (f s).map g := by
    intro c
    rw [List.map_filterMap, List.filterMap_map]
    exact List.filterMap_congr fun s _ => (hf s).symm
  rw [hview, hview, h]

theorem isOver_eq (h : Indistinct a b) : History.isOver a = History.isOver b := by
  have hmasked : ∀ c : List Step, History.isOver (c.map Step.masked) = History.isOver c := by
    intro c
    rw [History.isOver, List.any_map]
    exact congrArg c.any (funext Step.isTerminal_masked)
  rw [← hmasked a, ← hmasked b, h]

end Indistinct

/-- Nothing that the steps of two runs show tells them apart. -/
structure ShowsSame (a b : List Step) : Prop where
  emitted_eq : emitted a = emitted b
  checked_eq : checked a = checked b
  /-- The fetches differ at most in the credential. -/
  fetched_eq : (fetched a).map (fun x => (x.1, x.2.1)) = (fetched b).map fun x => (x.1, x.2.1)
  /-- What is counted differs at most in the key. -/
  counted_eq : (counted a).map TextRequest.unsigned = (counted b).map TextRequest.unsigned
  /-- What is asked for differs at most in the key. -/
  generated_eq : (generated a).map TextRequest.unsigned = (generated b).map TextRequest.unsigned

theorem Indistinct.showsSame {a b : List Step} (h : Indistinct a b) : ShowsSame a b := by
  constructor
  case emitted_eq =>
    have hevents := h.filterMap_eq (g := id) fun s => congrArg _ s.event?_masked
    rwa [List.map_id, List.map_id] at hevents
  case checked_eq =>
    have hdiagrams : (checked a).map id = (checked b).map id :=
      h.filterMap_eq fun s => by cases s <;> rfl
    rwa [List.map_id, List.map_id] at hdiagrams
  case fetched_eq => exact h.filterMap_eq fun s => by cases s <;> rfl
  case counted_eq => exact h.filterMap_eq fun s => by cases s <;> rfl
  case generated_eq => exact h.filterMap_eq fun s => by cases s <;> rfl

/-! ## Collaborators -/

variable {σ σ' α β ε : Type} {S : σ → σ' → Prop}

/-- In states related by `S` the collaborators `t` and `t'` give the same answers to what the
requests `r` and `r'` make of one question, and their states stay related. -/
structure Team.AnswersAlike (t : Team σ) (t' : Team σ') (r r' : DiagramRequest)
    (S : σ → σ' → Prop) : Prop where
  fetch : ∀ {s s'}, S s s' →
    (t.fetch r.owner r.repo r.hostToken s).1 = (t'.fetch r.owner r.repo r'.hostToken s').1 ∧
      S (t.fetch r.owner r.repo r.hostToken s).2 (t'.fetch r.owner r.repo r'.hostToken s').2
  count : ∀ q {s s'}, q.apiKey = r.apiKey → S s s' →
    (t.count q s).1 = (t'.count { q with apiKey := r'.apiKey } s').1 ∧
      S (t.count q s).2 (t'.count { q with apiKey := r'.apiKey } s').2
  generate : ∀ q {s s'}, q.apiKey = r.apiKey → S s s' →
    (t.generate q s).1 = (t'.generate { q with apiKey := r'.apiKey } s').1 ∧
      S (t.generate q s).2 (t'.generate { q with apiKey := r'.apiKey } s').2
  check : ∀ d {s s'}, S s s' →
    (t.check d s).1 = (t'.check d s').1 ∧ S (t.check d s).2 (t'.check d s').2

/-- A listener that does not see credentials. -/
def Listener.IsBlind (l : Listener) : Prop :=
  ∀ h h', Indistinct h h' → l h = l h'

theorem Listener.loyal_isBlind : Listener.loyal.IsBlind :=
  fun _ _ _ => rfl

theorem Listener.IsBlind.offer_eq {l : Listener} (hl : l.IsBlind) {h h' : History}
    (hh : Indistinct h h') (e : Event) : l.offer h e = l.offer h' e := by
  rw [Listener.offer, Listener.offer, hh.isOver_eq, hl h h' hh]

namespace Run

/-! ## Computations -/

/-- What two computations come to that do the same but for credentials. -/
structure Same (S : σ → σ' → Prop) (x : Except Halt α × World σ) (x' : Except Halt α × World σ') :
    Prop where
  outcome : x.1 = x'.1
  state : S x.2.state x'.2.state
  history : Indistinct x.2.history x'.2.history

/-- In related worlds two computations do the same but for credentials. -/
def Alike (S : σ → σ' → Prop) (m : Run σ α) (m' : Run σ' α) : Prop :=
  ∀ w w', S w.state w'.state → Indistinct w.history w'.history → Same S (m w) (m' w')

theorem alike_pure (a : α) : Alike S (pure a : Run σ α) (pure a) :=
  fun _ _ hs hh => ⟨rfl, hs, hh⟩

theorem alike_halt (h : Halt) : Alike S (halt h : Run σ α) (halt h) :=
  fun _ _ hs hh => ⟨rfl, hs, hh⟩

theorem Alike.bind {m : Run σ α} {m' : Run σ' α} {f : α → Run σ β} {f' : α → Run σ' β}
    (hm : Alike S m m') (hf : ∀ a, Alike S (f a) (f' a)) : Alike S (m >>= f) (m' >>= f') := by
  intro w w' hs hh
  have hsame := hm w w' hs hh
  rw [bind_apply, bind_apply]
  rcases hmw : m w with ⟨out, w₁⟩
  rcases hmw' : m' w' with ⟨out', w₁'⟩
  rw [hmw, hmw'] at hsame
  obtain rfl : out = out' := hsame.outcome
  cases out with
  | error h => exact ⟨rfl, hsame.state, hsame.history⟩
  | ok a => exact hf a w₁ w₁' hsame.state hsame.history

theorem alike_emit {l : Listener} (hl : l.IsBlind) (e : Event) :
    Alike S (emit l e : Run σ Unit) (emit l e) := by
  intro w w' hs hh
  rw [emit, emit, hl.offer_eq hh e]
  split
  · exact ⟨rfl, hs, hh.cons rfl⟩
  · exact ⟨rfl, hs, hh⟩

theorem alike_pause (d : Duration) : Alike S (pause d : Run σ Unit) (pause d) := by
  intro w w' hs hh
  rw [pause, pause]
  split
  · exact ⟨rfl, hs, hh⟩
  · exact ⟨rfl, hs, hh.cons rfl⟩

theorem alike_consult {step step' : Answer ε α → Step} {question : σ → Answer ε α × σ}
    {question' : σ' → Answer ε α × σ'} (hstep : ∀ a, (step a).masked = (step' a).masked)
    (h : ∀ {s s'}, S s s' → (question s).1 = (question' s').1 ∧ S (question s).2 (question' s').2) :
    Alike S (consult step question) (consult step' question') := by
  intro w w' hs hh
  obtain ⟨hanswer, hstate⟩ := h hs
  rw [consult_apply, consult_apply, hanswer]
  exact ⟨rfl, hstate, hh.cons (hstep _)⟩

theorem alike_ask {step step' : Answer ε α → Step} {question : σ → Answer ε α × σ}
    {question' : σ' → Answer ε α × σ'} (failure : ε → Failure)
    (hstep : ∀ a, (step a).masked = (step' a).masked)
    (h : ∀ {s s'}, S s s' → (question s).1 = (question' s').1 ∧ S (question s).2 (question' s').2) :
    Alike S (ask step question failure) (ask step' question' failure) := by
  refine (alike_consult hstep h).bind ?_
  rintro (e | a)
  · exact alike_halt _
  · exact alike_pure a

theorem alike_forward {l : Listener} (hl : l.IsBlind) (event : String → Event) (output : String)
    (cs : List String) :
    Alike S (forward l event output cs : Run σ String) (forward l event output cs) := by
  induction cs generalizing output with
  | nil => exact alike_pure output
  | cons c cs ih =>
    rw [forward, forward]
    split
    · exact ih output
    · exact (alike_emit hl _).bind fun _ => ih _

variable {p : Setting σ} {t : Team σ'} {l : Listener} {r r' : DiagramRequest}

theorem alike_generate (hl : l.IsBlind) (ht : p.team.AnswersAlike t r r' S) {q : TextRequest}
    (hq : q.apiKey = r.apiKey) (event : String → Event) :
    Alike S (generate p l q event)
      (generate { p with team := t } l { q with apiKey := r'.apiKey } event) := by
  have hask : Alike S (ask (.generate q) (p.team.generate q) .provider)
      (ask (.generate { q with apiKey := r'.apiKey })
        (t.generate { q with apiKey := r'.apiKey }) .provider) :=
    alike_ask _ (fun _ => rfl) (ht.generate q hq)
  refine hask.bind fun stream => ?_
  refine (alike_forward hl event "" _).bind fun output => ?_
  split
  · exact alike_pure output
  · exact alike_halt _
  · exact alike_halt _
  · exact alike_halt _

theorem alike_measure (ht : p.team.AnswersAlike t r r' S) (snap : Snapshot) :
    Alike S (measure p snap r.apiKey) (measure { p with team := t } snap r'.apiKey) := by
  have hconsult : Alike S (consult (.count (explanationRequest p.model snap r.apiKey)) _)
      (consult (.count (explanationRequest p.model snap r'.apiKey)) _) :=
    alike_consult (fun _ => rfl) (ht.count (explanationRequest p.model snap r.apiKey) rfl)
  refine hconsult.bind ?_
  rintro (e | n)
  · exact alike_pure _
  · exact alike_pure n

theorem alike_fetch (ht : p.team.AnswersAlike t r r' S) : Alike S (fetch p r)
    (fetch { p with team := t } { r with apiKey := r'.apiKey, hostToken := r'.hostToken }) :=
  alike_ask _ (fun _ => rfl) ht.fetch

/-- **Two runs are alike** whose collaborators answer alike. -/
theorem alongside_alike (hl : l.IsBlind) (ht : p.team.AnswersAlike t r r' S) :
    Alongside p t l l r r'.apiKey r'.hostToken (Alike S) where
  pure := alike_pure
  rejected _ := alike_halt _
  unresolved _ := alike_halt _
  bind := Alike.bind
  emit e _ := alike_emit hl e
  pause := alike_pause
  fetch := alike_fetch ht
  measure := alike_measure ht
  generate _ k _ hq := alike_generate hl ht hq k.chunk
  check d := alike_ask _ (fun _ => rfl) (ht.check d)

/-- Up to its terminal event a run does the same for both requests. -/
theorem alike_diagram (hl : l.IsBlind) (ht : p.team.AnswersAlike t r r' S)
    (hkey : r'.apiKey.isSome = r.apiKey.isSome) : Alike S (diagram p l r)
      (diagram { p with team := t } l
        { r with apiKey := r'.apiKey, hostToken := r'.hostToken }) :=
  (alongside_alike hl ht).diagram hkey

theorem alike_reading (ht : p.team.AnswersAlike t r r' S) : Alike S (reading p r)
    (reading { p with team := t } { r with apiKey := r'.apiKey, hostToken := r'.hostToken }) := by
  refine (alike_fetch ht).bind fun snapshot => ?_
  refine (alike_measure ht snapshot).bind fun estimate => ?_
  exact alike_pure _

end Run

/-! ## Runs and quotes -/

/-- A whole run leaves steps behind that differ at most in credentials. -/
theorem execute_indistinct {p : Setting σ} {t : Team σ'} {l : Listener} {r r' : DiagramRequest}
    (hl : l.IsBlind) (ht : p.team.AnswersAlike t r r' S)
    (hkey : r'.apiKey.isSome = r.apiKey.isSome) (w : World σ) (w' : World σ')
    (hs : S w.state w'.state) (hh : Indistinct w.history w'.history) :
    Indistinct (execute p l r w).history (execute { p with team := t } l
      { r with apiKey := r'.apiKey, hostToken := r'.hostToken } w').history := by
  have hsame := Run.alike_diagram hl ht hkey w w' hs hh
  rw [execute, execute]
  rcases hd : Run.diagram p l r w with ⟨out, w₁⟩
  rcases hd' : Run.diagram { p with team := t } l
    { r with apiKey := r'.apiKey, hostToken := r'.hostToken } w' with ⟨out', w₁'⟩
  rw [hd, hd'] at hsame
  obtain rfl : out = out' := hsame.outcome
  have hhistory : Indistinct w₁.history w₁'.history := hsame.history
  dsimp only
  rw [hhistory.isOver_eq]
  split
  · split
    · exact hhistory
    · exact (Run.alike_emit hl _ w₁ w₁' hsame.state hhistory).history
  · exact hhistory

/-- What is answered to a request for a quote, none if a collaborator breaks down. -/
def Run.payload? : Except Halt Quote → Option Json
  | .ok q => some (quoteResult (.ok q))
  | .error (.failed f) => some (quoteResult (.error f))
  | .error _ => none

/-- A request that is refused is answered like any other. -/
theorem Run.payload?_of_fault {p : Setting σ} {r : DiagramRequest} {reason : String}
    (hr : r.fault? = some reason) (w : World σ) :
    payload? (quote p r w).1 = some (Failure.invalidRequest "").quoteJson := by
  rw [quote, hr]
  rfl

/-- Quotes are answered alike for two requests of which both are refused or none is. -/
theorem Run.payload?_quote {p : Setting σ} {t : Team σ'} {r r' : DiagramRequest}
    (ht : p.team.AnswersAlike t r r' S)
    (hfault : r'.fault?.isSome = r.fault?.isSome) (howner : r'.owner = r.owner)
    (hrepo : r'.repo = r.repo) {w : World σ} {w' : World σ'}
    (hs : S w.state w'.state) (hh : Indistinct w.history w'.history) :
    payload? (quote { p with team := t } r' w').1 = payload? (quote p r w).1 := by
  cases hr : r.fault? with
  | some reason =>
    -- the reasons may differ, but they are not told
    rw [hr] at hfault
    obtain ⟨reason', hr'⟩ := Option.isSome_iff_exists.mp hfault
    rw [payload?_of_fault hr, payload?_of_fault hr']
  | none =>
    rw [hr] at hfault
    have hr' : r'.fault? = none := Option.not_isSome_iff_eq_none.mp (by simp [hfault])
    have hrequest : r' = { r with apiKey := r'.apiKey, hostToken := r'.hostToken } := by
      rw [← howner, ← hrepo]
    have hsame := alike_reading ht w w' hs hh
    rw [← hrequest] at hsame
    rw [quote_eq hr, quote_eq hr', bind_apply, bind_apply]
    rcases hd : reading p r w with ⟨out, w₁⟩
    rcases hd' : reading { p with team := t } r' w' with ⟨out', w₁'⟩
    rw [hd, hd'] at hsame
    obtain rfl : out = out' := hsame.outcome
    cases out <;> rfl

/-- **What a run shows does not depend on its credentials.**  Let two requests name one repository,
and let their collaborators answer alike.  If both have a key or none has one, the runs emit the
same events, have the same diagrams checked, and ask for the same but for the credentials.  The
answers to their requests for a quote are the same in any case, if both are refused or none is. -/
theorem execute_credentials (p : Setting σ) {t : Team σ'} {l : Listener} (hl : l.IsBlind)
    {r r' : DiagramRequest} (howner : r'.owner = r.owner) (hrepo : r'.repo = r.repo)
    (ht : p.team.AnswersAlike t r r' S) {s : σ} {s' : σ'} (hs : S s s') :
    (r'.apiKey.isSome = r.apiKey.isSome →
      ShowsSame (execute p l r ⟨s, []⟩).history.reverse
        (execute { p with team := t } l r' ⟨s', []⟩).history.reverse) ∧
    (r'.fault?.isSome = r.fault?.isSome →
      Run.payload? (Run.quote { p with team := t } r' ⟨s', []⟩).1 =
        Run.payload? (Run.quote p r ⟨s, []⟩).1) := by
  have hrequest : r' = { r with apiKey := r'.apiKey, hostToken := r'.hostToken } := by
    rw [← howner, ← hrepo]
  refine ⟨fun hkey => ?_, fun hfault => ?_⟩
  · have hsteps := execute_indistinct hl ht hkey ⟨s, []⟩ ⟨s', []⟩ hs rfl
    rw [← hrequest] at hsteps
    exact hsteps.reverse.showsSame
  · exact Run.payload?_quote ht hfault howner hrepo hs rfl

/-- Collaborators that follow one script answer alike. -/
theorem Rehearsal.team_answersAlike (r r' : DiagramRequest) :
    Rehearsal.team.AnswersAlike Rehearsal.team r r' Eq where
  fetch h := by
    subst h
    exact ⟨rfl, rfl⟩
  count q _ _ _ h := by
    subst h
    exact ⟨rfl, rfl⟩
  generate q _ _ _ h := by
    subst h
    exact ⟨rfl, rfl⟩
  check d _ _ h := by
    subst h
    exact ⟨rfl, rfl⟩

theorem execute_credentials_keys :
    let p : Setting Rehearsal := ⟨Rehearsal.team, .standard, "o4-mini", ⟨0⟩, 2⟩
    let script : Rehearsal := ⟨.ok ⟨"main", "a.py", "b"⟩, .ok 60000, [], []⟩
    let r : DiagramRequest := ⟨"octo", "demo", some "sk-one", none⟩
    let r' : DiagramRequest := ⟨"octo", "demo", some "sk-two", some "token"⟩
    r'.apiKey.isSome = r.apiKey.isSome ∧ r'.fault?.isSome = r.fault?.isSome ∧
      ShowsSame (execute p .loyal r ⟨script, []⟩).history.reverse
        (execute p .loyal r' ⟨script, []⟩).history.reverse ∧
      Run.payload? (Run.quote p r' ⟨script, []⟩).1 = Run.payload? (Run.quote p r ⟨script, []⟩).1 := by
  intro p script r r'
  have hkey : r'.apiKey.isSome = r.apiKey.isSome := rfl
  have hfault : r'.fault?.isSome = r.fault?.isSome := by decide
  have howner : r'.owner = r.owner := rfl
  have hrepo : r'.repo = r.repo := rfl
  obtain ⟨hrun, hquote⟩ := execute_credentials p Listener.loyal_isBlind howner hrepo
    (Rehearsal.team_answersAlike r r') (Eq.refl script)
  exact ⟨hkey, hfault, hrun hkey, hquote hfault⟩

/-- A quote tells an empty key from another one: such a request is refused. -/
theorem quote_tells_empty_key :
    let p : Setting Rehearsal := ⟨Rehearsal.team, .standard, "gpt-5.2", ⟨0⟩, 3⟩
    let script : Rehearsal := ⟨.ok ⟨"main", "src/main.rs\nREADME.md", "# demo"⟩, .ok 1000, [], []⟩
    let r : DiagramRequest := ⟨"acme", "demo", some "", none⟩
    let r' : DiagramRequest := ⟨"acme", "demo", some "sk-1", none⟩
    Rehearsal.team.AnswersAlike Rehearsal.team r r' Eq ∧
      r'.owner = r.owner ∧ r'.repo = r.repo ∧ r'.apiKey.isSome = r.apiKey.isSome ∧
      Run.payload? (Run.quote p r' ⟨script, []⟩).1 ≠
        Run.payload? (Run.quote p r ⟨script, []⟩).1 := by
  intro p script r r'
  refine ⟨Rehearsal.team_answersAlike r r', rfl, rfl, rfl, ?_⟩
  have hrefused : Run.payload? (Run.quote p r ⟨script, []⟩).1 =
      some (Failure.invalidRequest "api_key is empty").quoteJson := rfl
  have hquoted : Run.payload? (Run.quote p r' ⟨script, []⟩).1 =
      some (Quote.ofBase "gpt-5.2" 1000).resultJson := rfl
  rw [hrefused, hquoted]
  intro h
  simp [Failure.quoteJson, Quote.resultJson, Json.record] at h

end ArchDiagram
