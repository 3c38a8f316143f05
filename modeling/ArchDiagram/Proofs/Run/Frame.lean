import ArchDiagram.Proofs.Run.Parallel

/-!
# What a run does to its collaborators

A run touches the state of its collaborators only by asking them, and all its requests for a text or
a count carry the key of the request it was given.  A relation between states that every such
question keeps is therefore kept by the run (`execute_moves`).
-/

namespace ArchDiagram

variable {σ α β ε : Type} {t : Team σ} {apiKey : Option String} {R : σ → σ → Prop}

/-- Along the relation `R` the collaborators move their state when they are asked, for a text or a
count with the given key. -/
structure Team.Moves (t : Team σ) (apiKey : Option String) (R : σ → σ → Prop) : Prop where
  refl : ∀ s, R s s
  trans : ∀ {a b c}, R a b → R b c → R a c
  fetch : ∀ o r k s, R s (t.fetch o r k s).2
  count : ∀ q s, q.apiKey = apiKey → R s (t.count q s).2
  generate : ∀ q s, q.apiKey = apiKey → R s (t.generate q s).2
  check : ∀ d s, R s (t.check d s).2

namespace Run

/-- A computation moves the state of the collaborators along the relation `R`. -/
def Moves (R : σ → σ → Prop) (m : Run σ α) : Prop :=
  ∀ w, R w.state (m w).2.state

variable {l : Listener} {p : Setting σ}

theorem moves_pure (ht : t.Moves apiKey R) (a : α) : Moves R (pure a : Run σ α) :=
  fun w => ht.refl w.state

theorem moves_halt (ht : t.Moves apiKey R) (h : Halt) : Moves R (halt h : Run σ α) :=
  fun w => ht.refl w.state

theorem Moves.bind (ht : t.Moves apiKey R) {m : Run σ α} {f : α → Run σ β} (hm : Moves R m)
    (hf : ∀ a, Moves R (f a)) : Moves R (m >>= f) := by
  intro w
  have hw := hm w
  show R w.state (Run.bind m f w).2.state
  rw [Run.bind]
  rcases hmw : m w with ⟨h | a, w'⟩ <;> rw [hmw] at hw
  · exact hw
  · exact ht.trans hw (hf a w')

theorem moves_emit (ht : t.Moves apiKey R) (e : Event) : Moves R (emit l e : Run σ Unit) := by
  intro w
  rw [emit]
  split <;> exact ht.refl w.state

theorem moves_pause (ht : t.Moves apiKey R) (d : Duration) : Moves R (pause d : Run σ Unit) := by
  intro w
  rw [pause]
  split <;> exact ht.refl w.state

theorem moves_consult (step : Answer ε α → Step) {question : σ → Answer ε α × σ}
    (hq : ∀ s, R s (question s).2) : Moves R (consult step question) := by
  intro w
  have hw := hq w.state
  rw [consult]
  rcases hqw : question w.state with ⟨_ | _ | _, s⟩ <;> rw [hqw] at hw <;> exact hw

theorem moves_ask (ht : t.Moves apiKey R) (step : Answer ε α → Step)
    {question : σ → Answer ε α × σ} (failure : ε → Failure) (hq : ∀ s, R s (question s).2) :
    Moves R (ask step question failure) := by
  refine Moves.bind ht (moves_consult step hq) ?_
  rintro (e | a)
  · exact moves_halt ht _
  · exact moves_pure ht a

theorem moves_forward (ht : t.Moves apiKey R) (event : String → Event) (output : String)
    (cs : List String) : Moves R (forward l event output cs : Run σ String) := by
  induction cs generalizing output with
  | nil => exact moves_pure ht output
  | cons c cs ih =>
    rw [forward]
    split
    · exact ih output
    · exact Moves.bind ht (moves_emit ht _) fun _ => ih _

theorem moves_generate (ht : p.team.Moves apiKey R) {r : TextRequest} (hr : r.apiKey = apiKey)
    (event : String → Event) : Moves R (generate p l r event) := by
  refine Moves.bind ht (moves_ask ht _ _ fun s => ht.generate r s hr) fun stream => ?_
  refine Moves.bind ht (moves_forward ht event "" _) fun output => ?_
  split
  · exact moves_pure ht output
  · exact moves_halt ht _
  · exact moves_halt ht _
  · exact moves_halt ht _

theorem moves_check (ht : p.team.Moves apiKey R) (diagram : String) : Moves R (check p diagram) :=
  moves_ask ht _ _ (ht.check diagram)

theorem moves_measure (ht : p.team.Moves apiKey R) (s : Snapshot) :
    Moves R (measure p s apiKey) := by
  refine Moves.bind ht (moves_consult _ fun s => ht.count _ s rfl) ?_
  rintro (e | n)
  · exact moves_pure ht _
  · exact moves_pure ht n

theorem alongside_moves {r : DiagramRequest} (ht : p.team.Moves r.apiKey R) :
    Alongside p p.team l l r r.apiKey r.hostToken fun m _ => Moves R m where
  pure := moves_pure ht
  rejected _ := moves_halt ht _
  unresolved _ := moves_halt ht _
  bind := Moves.bind ht
  emit e _ := moves_emit ht e
  pause := moves_pause ht
  fetch := moves_ask ht _ _ (ht.fetch _ _ _)
  measure := moves_measure ht
  generate _ k _ hq := moves_generate ht hq k.chunk
  check := moves_check ht

end Run

/-- **A run moves the state of its collaborators along every relation along which they move when
they are asked with its key.** -/
theorem execute_moves {p : Setting σ} {r : DiagramRequest} (ht : p.team.Moves r.apiKey R)
    (l : Listener) (w : World σ) : R w.state (execute p l r w).state := by
  have hw := (Run.alongside_moves (l := l) ht).diagram rfl w
  rw [execute]
  rcases hd : Run.diagram p l r w with ⟨out, w'⟩
  rw [hd] at hw
  dsimp only
  split
  · split
    · exact hw
    · exact ht.trans hw (Run.moves_emit ht _ w')
  · exact hw

end ArchDiagram
