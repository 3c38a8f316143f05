import ArchDiagram.Proofs.Run.View

/-!
# The chain of a repair

Where the checker always gives a verdict, every text comes to its end and the listener stays, a
repair is a chain.  The candidate `0` is the diagram it is given, and the candidate `j + 1` is what
comes of the text for the request that carries the candidate `j` and the feedback on it.  Every
candidate is checked, and the first one that is accepted ends the chain, or else the last one that
is allowed.

* `candidate`: the candidates.
* `Chain`: a chain that ends with the candidate `k`.
* `Run.Repairing.chain`: attempts are links of a chain.
* `Chain.unresolved_iff`: a repair fails if and only if all candidates are rejected.
* `ensureValid_chain`: **every repair is a chain**.
-/

namespace ArchDiagram

/-- The checker always gives a verdict, and every text is given and comes to its end. -/
structure Team.IsSteady {σ : Type} (t : Team σ) : Prop where
  check : ∀ d s, ∃ v, (t.check d s).1 = .ok v
  generate : ∀ r s, ∃ cs, (t.generate r s).1 = .ok ⟨cs, .finished⟩

theorem Team.IsSteady.verdict {σ : Type} {t : Team σ} (ht : t.IsSteady) {d : String}
    {a : Answer Empty Verdict} (ha : t.Gives (.check d a)) : ∃ v, a = .ok v := by
  obtain ⟨s, rfl⟩ := ha
  exact ht.check d s

theorem Team.IsSteady.text {σ : Type} {t : Team σ} (ht : t.IsSteady) {r : TextRequest}
    {a : Answer ProviderError TextStream} (ha : t.Gives (.generate r a)) :
    ∃ cs, a = .ok ⟨cs, .finished⟩ := by
  obtain ⟨s, rfl⟩ := ha
  exact ht.generate r s

def Team.constant (s : Snapshot) (n : Nat) (x : TextStream) (v : Verdict) : Team Unit where
  fetch _ _ _ _ := (.ok s, ())
  count _ _ := (.ok n, ())
  generate _ _ := (.ok x, ())
  check _ _ := (.ok v, ())

theorem Team.constant_isSteady (s : Snapshot) (n : Nat) (cs : List String) (v : Verdict) :
    (Team.constant s n ⟨cs, .finished⟩ v).IsSteady :=
  ⟨fun _ _ => ⟨v, rfl⟩, fun _ _ => ⟨cs, rfl⟩⟩

/-! ## Chains -/

/-- The candidates: the diagram that is given, and what comes of the texts `x`. -/
def candidate (diagram : String) (x : Nat → List String) : Nat → String
  | 0 => diagram
  | j + 1 => Diagram.stripFences (String.join (x j))

section

variable {σ : Type} (p : Setting σ) (apiKey : Option String) (f : Findings) (diagram : String)
  (v : Nat → Verdict) (x : Nat → List String)

/-- The request to repair the candidate `j`: it carries this candidate and the feedback on it. -/
def linkRequest (j : Nat) : TextRequest where
  model := p.model
  instructions := Instructions.repair
  sections := [⟨"mermaid_code", candidate diagram x j⟩, ⟨"parser_error", (v j).feedback⟩,
    ⟨"explanation", f.explanation⟩, ⟨"component_mapping", f.mapping⟩]
  effort := some .low
  apiKey := apiKey
  maxOutputTokens := none
  caller := "pipeline::repair"

/-- From the candidate `j` to the next one, by the attempt `i`: it is announced with the feedback
that its request carries. -/
def link (i j : Nat) : List Step :=
  .emit (.diagramFixAttempt ("Fixing Mermaid syntax (attempt " ++ (Decimal.text i ++ "/" ++
    Decimal.text p.maxRepairs) ++ ")...") i p.maxRepairs (v j).feedback) ::
    .generate (linkRequest p apiKey f diagram v x j) (.ok ⟨x j, .finished⟩) ::
    (((x j).filter (· ≠ "")).map (fun c => .emit (.diagramFixChunk c i p.maxRepairs)) ++
      [.emit (.diagramFixValidating ("Validating Mermaid syntax after attempt " ++
        (Decimal.text i ++ "/" ++ Decimal.text p.maxRepairs) ++ "...") i p.maxRepairs),
        .check (candidate diagram x (j + 1)) (.ok (v (j + 1)))])

/-- The first `k` links, where `i` counts the attempt of the first one. -/
def links (i k : Nat) : List Step :=
  (List.range k).flatMap fun j => link p apiKey f diagram v x (i + j) j

/-- The words around the links: none if the diagram is accepted as it is. -/
def chainSteps (k : Nat) : List Step :=
  .check diagram (.ok (v 0)) ::
    if (v 0).valid then []
    else
      .emit (.diagramFixing
        "Diagram generated. Mermaid syntax validation failed, starting auto-fix loop..."
        (some (v 0).feedback)) ::
      (links p apiKey f diagram v x 1 k ++
        if (v k).valid then
          [.emit (.diagramFixing "Mermaid syntax validated. Finalizing diagram output..." none)]
        else [])

/-- A repair whose candidates get the verdicts `v` and whose texts are `x`.  It ends with the
candidate `k`, the first one that is accepted or else the last one that is allowed. -/
structure Chain (k : Nat) (steps : List Step) (out : Except Halt String) : Prop where
  le : k ≤ p.maxRepairs
  rejected : ∀ j < k, (v j).valid = false
  stops : (v k).valid = true ∨ k = p.maxRepairs
  steps_eq : steps = chainSteps p apiKey f diagram v x k
  out_eq : out = if (v k).valid then .ok (candidate diagram x k)
    else .error (.failed (.unresolved (v k).feedback))

end

variable {σ : Type} {p : Setting σ} {apiKey : Option String} {f : Findings} {diagram : String}
  {v : Nat → Verdict} {x : Nat → List String} {k : Nat} {steps : List Step}
  {out : Except Halt String}

/-- A chain whose candidates are all rejected ends with the last one that is allowed. -/
theorem Chain.eq_maxRepairs (h : Chain p apiKey f diagram v x k steps out)
    (hv : ∀ j ≤ p.maxRepairs, (v j).valid = false) : k = p.maxRepairs := by
  rcases h.stops with hk | hk
  · rw [hv k h.le] at hk
    cases hk
  · exact hk

/-- A repair fails if and only if all candidates are rejected, and then with the feedback on the
last one. -/
theorem Chain.unresolved_iff (h : Chain p apiKey f diagram v x k steps out) (feedback : String) :
    out = .error (.failed (.unresolved feedback)) ↔
      (∀ j ≤ p.maxRepairs, (v j).valid = false) ∧ feedback = (v p.maxRepairs).feedback := by
  constructor
  · intro ho
    have hout := h.out_eq
    rw [ho] at hout
    split at hout
    · cases hout
    · rename_i hk
      have hmax : k = p.maxRepairs := h.stops.resolve_left hk
      subst hmax
      cases hout
      refine ⟨fun j hj => ?_, rfl⟩
      rcases Nat.lt_or_eq_of_le hj with hj | rfl
      · exact h.rejected j hj
      · simpa using hk
  · rintro ⟨hv, rfl⟩
    have hmax := h.eq_maxRepairs hv
    subst hmax
    rw [h.out_eq, hv _ (Nat.le_refl _)]
    rfl

/-! ## One more link in front -/

def prepend {α : Type} (a : α) (s : Nat → α) : Nat → α
  | 0 => a
  | j + 1 => s j

theorem candidate_prepend (diagram : String) (cs : List String) (x : Nat → List String) (j : Nat) :
    candidate diagram (prepend cs x) (j + 1) =
      candidate (Diagram.stripFences (String.join cs)) x j := by
  cases j <;> simp only [candidate, prepend]

theorem link_eq (i j : Nat) : link p apiKey f diagram v x i j =
    .emit ((v j).attemptEvent i p.maxRepairs) ::
      .generate (repairRequest p.model apiKey f (candidate diagram x j) (v j).feedback)
        (.ok ⟨x j, .finished⟩) ::
      (increments (fixChunk i p.maxRepairs) (x j) ++
        [.emit (validatingEvent i p.maxRepairs),
          .check (candidate diagram x (j + 1)) (.ok (v (j + 1)))]) := rfl

theorem link_prepend (u : Verdict) (cs : List String) (i j : Nat) :
    link p apiKey f diagram (prepend u v) (prepend cs x) i (j + 1) =
      link p apiKey f (Diagram.stripFences (String.join cs)) v x i j := by
  simp only [link, linkRequest, candidate_prepend, prepend]

theorem links_prepend (u : Verdict) (cs : List String) (i k : Nat) :
    links p apiKey f diagram (prepend u v) (prepend cs x) i (k + 1) =
      link p apiKey f diagram (prepend u v) (prepend cs x) i 0 ++
        links p apiKey f (Diagram.stripFences (String.join cs)) v x (i + 1) k := by
  have hj : ∀ j, link p apiKey f diagram (prepend u v) (prepend cs x) (i + (j + 1)) (j + 1) =
      link p apiKey f (Diagram.stripFences (String.join cs)) v x (i + 1 + j) j := by
    intro j
    rw [link_prepend, Nat.add_right_comm i 1 j, Nat.add_assoc i j 1]
  rw [links, List.range_succ_eq_map, List.flatMap_cons, List.flatMap_map, links]
  simp only [Nat.succ_eq_add_one, hj, Nat.add_zero]

/-! ## Repairs are chains -/

namespace Run

theorem Generating.of_steady {r : TextRequest} {event : String → Event} {steps : List Step}
    {out : Except Halt String} (h : Generating r event steps out) (hp : p.team.IsSteady)
    (hg : ∀ s ∈ steps, p.team.Gives s) (ho : out ≠ .error (.failed .disconnected)) :
    ∃ cs, steps = .generate r (.ok ⟨cs, .finished⟩) :: increments event cs ∧
      out = .ok (String.join cs) := by
  cases h with
  | whole cs => exact ⟨cs, rfl, rfl⟩
  | unopened ha =>
    obtain ⟨cs, rfl⟩ := hp.text (hg _ (List.mem_singleton_self _))
    cases ha
  | cut hx =>
    obtain ⟨cs, hcs⟩ := hp.text (hg _ List.mem_cons_self)
    cases hcs
    cases hx
  | unheard _ => exact absurd rfl ho

theorem Round.of_steady {i : Nat} {u : Verdict} {steps : List Step}
    {out : Except Halt (String × Verdict)} (h : Round p apiKey f i diagram u steps out)
    (hp : p.team.IsSteady) (hg : ∀ s ∈ steps, p.team.Gives s)
    (ho : out ≠ .error (.failed .disconnected)) :
    ∃ cs u', out = .ok (Diagram.stripFences (String.join cs), u') ∧
      ∀ v x, v 0 = u' → steps = link p apiKey f diagram (prepend u v) (prepend cs x) i 0 := by
  cases h with
  | judged u' hm hs =>
    obtain ⟨cs, rfl, hout⟩ := hm.of_steady hp (fun s hs => hg s (by simp [hs])) (by simp)
    cases hout
    subst hs
    refine ⟨cs, u', rfl, ?_⟩
    rintro v x rfl
    simp only [link_eq, candidate, prepend, List.cons_append]
  | @unchecked steps answer repaired hm hs =>
    obtain ⟨u', hu⟩ := hp.verdict (d := repaired) (a := .panic) (hg _ (by simp))
    cases hu
  | unmended hm =>
    obtain ⟨cs, -, hout⟩ := hm.of_steady hp (fun s hs => hg s (by simp [hs])) (by simpa using ho)
    cases hout
  | unheard => exact absurd rfl ho
  | unheardAfter _ => exact absurd rfl ho

/-- **Attempts are links of a chain**, up to the first candidate that is accepted or the last one
that is allowed. -/
theorem Repairing.chain {i left : Nat} {u : Verdict} {steps : List Step}
    {out : Except Halt (String × Verdict)} (h : Repairing p apiKey f i diagram u left steps out)
    (hp : p.team.IsSteady) (hg : ∀ s ∈ steps, p.team.Gives s)
    (ho : out ≠ .error (.failed .disconnected)) :
    ∃ v x k, v 0 = u ∧ k ≤ left ∧ (∀ j < k, (v j).valid = false) ∧
      ((v k).valid = true ∨ k = left) ∧ steps = links p apiKey f diagram v x i k ∧
      out = .ok (candidate diagram x k, v k) := by
  induction h with
  | @rest i diagram u left hu =>
    refine ⟨fun _ => u, fun _ => [], 0, rfl, Nat.zero_le left, ?_, ?_, rfl, rfl⟩
    · intro j hj
      cases hj
    · exact hu.imp_right Eq.symm
  | halted _ hr =>
    obtain ⟨cs, u', hout, -⟩ := hr.of_steady hp hg (by simpa using ho)
    cases hout
  | @next i diagram u left steps more d out hu hr hm ih =>
    obtain ⟨cs, u', hd, hlink⟩ :=
      hr.of_steady hp (fun s hs => hg s (List.mem_append_left _ hs)) (by simp)
    have hd' : d = (Diagram.stripFences (String.join cs), u') := Except.ok.inj hd
    subst hd'
    obtain ⟨v, x, k, hv, hk, hrejected, hstops, rfl, hout⟩ :=
      ih (fun s hs => hg s (List.mem_append_right _ hs)) ho
    refine ⟨prepend u v, prepend cs x, k + 1, rfl, by omega, ?_, ?_, ?_, ?_⟩
    · rintro (_ | j) hj
      · exact hu
      · exact hrejected j (by omega)
    · exact hstops.imp_right (congrArg Nat.succ)
    · rw [links_prepend, hlink v x hv]
    · rw [hout, candidate_prepend, prepend]

theorem Ensuring.chain {steps : List Step} {out : Except Halt String}
    (h : Ensuring p apiKey f diagram steps out) (hp : p.team.IsSteady)
    (hg : ∀ s ∈ steps, p.team.Gives s) (ho : out ≠ .error (.failed .disconnected)) :
    ∃ v x k, Chain p apiKey f diagram v x k steps out := by
  cases h with
  | unchecked =>
    obtain ⟨u, hu⟩ := hp.verdict (d := diagram) (a := .panic) (hg _ (by simp))
    cases hu
  | @accepted u hu =>
    refine ⟨fun _ => u, fun _ => [], 0, Nat.zero_le _, by simp, Or.inl hu, ?_, ?_⟩
    · rw [chainSteps, if_pos hu]
    · rw [if_pos hu, candidate]
  | unheard _ => exact absurd rfl ho
  | halted _ hr =>
    obtain ⟨v, x, k, -, -, -, -, -, hout⟩ :=
      hr.chain hp (fun s hs => hg s (by simp [hs])) (by simpa using ho)
    cases hout
  | @unresolved u steps d hu hr hd =>
    obtain ⟨v, x, k, rfl, hk, hrejected, hstops, rfl, hout⟩ :=
      hr.chain hp (fun s hs => hg s (by simp [hs])) (by simp)
    have hd' : d = (candidate diagram x k, v k) := Except.ok.inj hout
    subst hd'
    have hlast : (v k).valid = false := hd
    refine ⟨v, x, k, hk, hrejected, hstops, ?_, ?_⟩
    · simp [chainSteps, hu, hlast, Verdict.fixingEvent]
    · simp [hlast]
  | unheardAfter _ _ _ => exact absurd rfl ho
  | @repaired u steps d hu hr hd =>
    obtain ⟨v, x, k, rfl, hk, hrejected, hstops, rfl, hout⟩ :=
      hr.chain hp (fun s hs => hg s (by simp [hs])) (by simp)
    have hd' : d = (candidate diagram x k, v k) := Except.ok.inj hout
    subst hd'
    have hlast : (v k).valid = true := hd
    refine ⟨v, x, k, hk, hrejected, hstops, ?_, ?_⟩
    · simp [chainSteps, hu, hlast, Verdict.fixingEvent, fixedEvent]
    · simp [hlast]

end Run

/-! ## What is asked for and what is checked -/

theorem generated_link (i j : Nat) : generated (link p apiKey f diagram v x i j) =
    [linkRequest p apiKey f diagram v x j] := by
  simp [generated, link]

theorem checked_link (i j : Nat) :
    checked (link p apiKey f diagram v x i j) = [candidate diagram x (j + 1)] := by
  simp [checked, link]

theorem generated_links (i k : Nat) : generated (links p apiKey f diagram v x i k) =
    (List.range k).map (linkRequest p apiKey f diagram v x) := by
  rw [generated, links, List.filterMap_flatMap, List.map_eq_flatMap]
  exact congrArg (List.range k).flatMap (funext fun j => generated_link (i + j) j)

theorem checked_links (i k : Nat) : checked (links p apiKey f diagram v x i k) =
    (List.range k).map fun j => candidate diagram x (j + 1) := by
  rw [checked, links, List.filterMap_flatMap, List.map_eq_flatMap]
  exact congrArg (List.range k).flatMap (funext fun j => checked_link (i + j) j)

theorem Chain.eq_zero (h : Chain p apiKey f diagram v x k steps out) (hv : (v 0).valid = true) :
    k = 0 := by
  rcases Nat.eq_zero_or_pos k with hk | hk
  · exact hk
  · rw [h.rejected 0 hk] at hv
    cases hv

/-- **One request for every candidate but the last**, with the feedback on this candidate. -/
theorem Chain.generated_eq (h : Chain p apiKey f diagram v x k steps out) :
    generated steps = (List.range k).map (linkRequest p apiKey f diagram v x) := by
  rw [h.steps_eq, ← generated_links 1 k]
  cases hv : (v 0).valid with
  | true =>
    rw [h.eq_zero hv]
    simp [chainSteps, hv, generated, links]
  | false => cases hk : (v k).valid <;> simp [chainSteps, hv, hk, generated]

/-- **One check for every candidate.** -/
theorem Chain.checked_eq (h : Chain p apiKey f diagram v x k steps out) :
    checked steps = (List.range (k + 1)).map (candidate diagram x) := by
  rw [h.steps_eq, List.range_succ_eq_map, List.map_cons, List.map_map]
  have hlinks : checked (links p apiKey f diagram v x 1 k) =
      (List.range k).map (candidate diagram x ∘ Nat.succ) := checked_links 1 k
  rw [← hlinks]
  cases hv : (v 0).valid with
  | true =>
    rw [h.eq_zero hv]
    simp [chainSteps, hv, checked, links, candidate]
  | false => cases hk : (v k).valid <;> simp [chainSteps, hv, hk, checked, candidate]

/-! ## The repair of a run -/

/-- **Every repair is a chain**, whose steps the collaborators really take: it sends one request for
every candidate but the last and checks each of them once.  It fails if and only if all that are
allowed are rejected, and then with the feedback on the last one. -/
theorem ensureValid_chain (p : Setting σ) (apiKey : Option String) (f : Findings)
    (diagram : String) (hp : p.team.IsSteady) (w : World σ) (hw : w.history.isOver = false) :
    ∃ (v : Nat → Verdict) (x : Nat → List String) (k : Nat) (steps : List Step),
      (Run.ensureValid p .loyal apiKey f diagram w).2.history = steps.reverse ++ w.history ∧
      (∀ s ∈ steps, p.team.Gives s) ∧
      Chain p apiKey f diagram v x k steps (Run.ensureValid p .loyal apiKey f diagram w).1 ∧
      generated steps = (List.range k).map (linkRequest p apiKey f diagram v x) ∧
      checked steps = (List.range (k + 1)).map (candidate diagram x) ∧
      ((∀ j ≤ p.maxRepairs, (v j).valid = false) → k = p.maxRepairs) ∧
      ∀ feedback, (Run.ensureValid p .loyal apiKey f diagram w).1 =
          .error (.failed (.unresolved feedback)) ↔
        (∀ j ≤ p.maxRepairs, (v j).valid = false) ∧ feedback = (v p.maxRepairs).feedback := by
  have hfollows : (Run.ensureValid p .loyal apiKey f diagram).Follows p.team .loyal _ :=
    Run.follows_ensureValid diagram
  obtain ⟨steps, hsteps, hcourse⟩ := hfollows w hw
  obtain ⟨v, x, k, hchain⟩ := hcourse.chain hp hsteps.given (hsteps.heard rfl)
  exact ⟨v, x, k, steps, hsteps.history, hsteps.given, hchain, hchain.generated_eq,
    hchain.checked_eq, hchain.eq_maxRepairs, hchain.unresolved_iff⟩

/-- A checker that rejects whatever it is given: the second request carries what came of the first
one. -/
theorem ensureValid_chain_rejected :
    let p : Setting Unit := ⟨.constant ⟨"main", "a.py", "b"⟩ 10 ⟨["flow", "chart"], .finished⟩
      (.rejected "no such shape"), .standard, "o4-mini", ⟨0⟩, 2⟩
    let w := (Run.ensureValid p .loyal none ⟨"one", "two"⟩ "graph" ⟨(), []⟩).2
    p.team.IsSteady ∧ (generated w.history.reverse).map (·.sections) =
        ["graph", "flowchart"].map (fun d => [⟨"mermaid_code", d⟩,
          ⟨"parser_error", "message: no such shape"⟩, ⟨"explanation", "one"⟩,
          ⟨"component_mapping", "two"⟩]) ∧
      ∃ v x, Chain p none ⟨"one", "two"⟩ "graph" v x 2 w.history.reverse
        (Run.ensureValid p .loyal none ⟨"one", "two"⟩ "graph" ⟨(), []⟩).1 := by
  intro p w
  have hp : p.team.IsSteady := Team.constant_isSteady _ _ _ _
  obtain ⟨v, x, k, steps, hsteps, -, hchain, hrequests, -⟩ :=
    ensureValid_chain p none ⟨"one", "two"⟩ "graph" hp ⟨(), []⟩ rfl
  have hw : w.history.reverse = steps := by
    rw [hsteps, List.append_nil, List.reverse_reverse]
  have hgenerated : (generated w.history.reverse).length = 2 := by decide +kernel
  have hk : k = 2 := by
    rw [hw, hrequests, List.length_map, List.length_range] at hgenerated
    exact hgenerated
  subst hk
  refine ⟨hp, by decide +kernel, v, x, ?_⟩
  rw [hw]
  exact hchain

end ArchDiagram
