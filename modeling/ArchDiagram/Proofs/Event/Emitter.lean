import ArchDiagram.Event.Emitter

/-!
# What passes through a channel

The two ends of a channel act in any order: an event is offered, one is read, the receiver closes or
goes away.  What each act comes to is a turn, and the turns tell which events were accepted and which
were read.  What the channel holds is what lies between the two, and whether it is terminated can be
told from the events that were accepted.

* `Offering`, `Receiving`: what an act may come to, guards included.
* `Sound`: the state of a channel in terms of its turns.
* `Sound.turn`: one act more.
* `play_sound`: **whatever the two ends do**, nothing is lost or doubled while the receiver is there,
  and nothing is accepted after a terminal event.
-/

namespace ArchDiagram.Emitter

inductive Act where
  | emit (e : Event)
  | receive
  | close
  | leave
  deriving DecidableEq

/-- What was done, and what came of it. -/
inductive Turn where
  | emit (e : Event) (x : Emission)
  | receive (x : Reception)
  | close
  | leave
  deriving DecidableEq

def turn (m : Emitter) : Act → Turn × Emitter
  | .emit e => (.emit e (m.emit e).1, (m.emit e).2)
  | .receive => (.receive m.receive.1, m.receive.2)
  | .close => (.close, m.close)
  | .leave => (.leave, m.leave)

/-- One act after another, in whatever order the two ends act. -/
def play (m : Emitter) : List Act → List Turn × Emitter
  | [] => ([], m)
  | a :: acts => ((m.turn a).1 :: ((m.turn a).2.play acts).1, ((m.turn a).2.play acts).2)

def accepted (turns : List Turn) : List Event :=
  turns.filterMap fun
    | .emit e .accepted => some e
    | _ => none

def received (turns : List Turn) : List Event :=
  turns.filterMap fun
    | .receive (.event e) => some e
    | _ => none

/-! ## What an act may come to -/

/-- An event is offered: it comes too late, nobody takes it, it has to wait, or it is accepted. -/
inductive Offering (m : Emitter) (e : Event) : Emission → Emitter → Prop
  | late : m.terminated = true → Offering m e (.afterTerminal e.status) m
  | disconnected : m.terminated = false → m.receiver ≠ .listening → Offering m e .disconnected m
  | full : m.terminated = false → m.receiver = .listening → m.capacity ≤ m.buffer.length →
      Offering m e .full m
  | accepted : m.terminated = false → m.receiver = .listening → m.buffer.length < m.capacity →
      Offering m e .accepted { m with buffer := m.buffer ++ [e], terminated := e.isTerminal }

theorem offering_emit (m : Emitter) (e : Event) : Offering m e (m.emit e).1 (m.emit e).2 := by
  rw [emit]
  by_cases ht : m.terminated = true
  · rw [if_pos ht]
    exact .late ht
  · have ht' : m.terminated = false := by simpa using ht
    rw [if_neg ht]
    by_cases hc : m.isClosed = true
    · rw [if_pos hc]
      exact .disconnected ht' (by simpa [isClosed] using hc)
    · have hl : m.receiver = .listening := by simpa [isClosed] using hc
      rw [if_neg hc]
      by_cases hf : m.capacity ≤ m.buffer.length
      · rw [if_pos hf]
        exact .full ht' hl hf
      · rw [if_neg hf]
        exact .accepted ht' hl (Nat.lt_of_not_le hf)

/-- An event that is not accepted leaves the channel as it is. -/
theorem Offering.unchanged {m m' : Emitter} {e : Event} {x : Emission} (h : Offering m e x m')
    (hx : x ≠ .accepted) : m' = m := by
  cases h with
  | accepted _ _ _ => exact absurd rfl hx
  | _ => rfl

/-- The receiver looks for an event: it is gone, it finds none, or it reads the oldest one. -/
inductive Receiving (m : Emitter) : Reception → Emitter → Prop
  | gone : m.receiver = .gone → Receiving m .gone m
  | empty : m.receiver ≠ .gone → m.buffer = [] → Receiving m .empty m
  | event {e : Event} {es : List Event} : m.receiver ≠ .gone → m.buffer = e :: es →
      Receiving m (.event e) { m with buffer := es }

theorem receiving_receive (m : Emitter) : Receiving m m.receive.1 m.receive.2 := by
  rw [receive]
  by_cases hg : m.receiver = .gone
  · rw [if_pos hg]
    exact .gone hg
  · rw [if_neg hg]
    cases hb : m.buffer with
    | nil => exact .empty hg hb
    | cons e es => exact .event hg hb

/-! ## Turns -/

theorem accepted_append (a b : List Turn) : accepted (a ++ b) = accepted a ++ accepted b :=
  List.filterMap_append

theorem received_append (a b : List Turn) : received (a ++ b) = received a ++ received b :=
  List.filterMap_append

/-- What stands somewhere in a list with one element more is this element or stands in the list. -/
theorem split_concat {α : Type} {xs front back : List α} {x y : α}
    (h : xs ++ [x] = front ++ y :: back) :
    (xs = front ∧ x = y ∧ back = []) ∨ ∃ rest, xs = front ++ y :: rest := by
  rcases List.eq_nil_or_concat back with rfl | ⟨rest, last, rfl⟩
  · obtain ⟨hfront, hx⟩ := List.append_inj' h rfl
    exact Or.inl ⟨hfront, List.head_eq_of_cons_eq hx, rfl⟩
  · rw [List.concat_eq_append, ← List.cons_append, ← List.append_assoc] at h
    exact Or.inr ⟨rest, (List.append_inj' h rfl).1⟩

/-! ## Soundness -/

/-- A channel that was made to hold `n` events, after some turns. -/
structure Sound (n : Nat) (turns : List Turn) (m : Emitter) : Prop where
  capacity : m.capacity = max n 1
  room : m.buffer.length ≤ m.capacity
  /-- The receiver has read what was accepted, up to what is still in the channel. -/
  kept : m.receiver ≠ .gone → received turns ++ m.buffer = accepted turns
  inOrder : received turns <+: accepted turns
  terminated : m.terminated = true ↔ ∃ e ∈ accepted turns, e.isTerminal = true
  /-- Nothing is accepted after a terminal event. -/
  last : ∀ front e back, accepted turns = front ++ e :: back → e.isTerminal = true → back = []
  /-- An event comes too late if and only if a terminal one was accepted before. -/
  late : ∀ front e x back, turns = front ++ .emit e x :: back → ∀ s,
    x = .afterTerminal s ↔ s = e.status ∧ ∃ t ∈ accepted front, t.isTerminal = true

theorem sound_ofCapacity (n : Nat) : Sound n [] (ofCapacity n) where
  capacity := rfl
  room := Nat.zero_le _
  kept _ := rfl
  inOrder := List.nil_prefix
  terminated := by simp [ofCapacity, accepted]
  last := by simp [accepted]
  late := by simp

namespace Sound

variable {n : Nat} {turns : List Turn} {m : Emitter}

/-- A turn that comes too late if and only if the channel is terminated keeps to the rule. -/
theorem late_append (h : Sound n turns m) (t : Turn)
    (ht : ∀ e x, t = .emit e x → ∀ s,
      x = .afterTerminal s ↔ s = e.status ∧ m.terminated = true) :
    ∀ front e x back, turns ++ [t] = front ++ .emit e x :: back → ∀ s,
      x = .afterTerminal s ↔ s = e.status ∧ ∃ t ∈ accepted front, t.isTerminal = true := by
  intro front e x back hsplit
  rcases split_concat hsplit with ⟨rfl, hx, -⟩ | ⟨rest, hrest⟩
  · intro s
    rw [ht e x hx, h.terminated]
  · exact h.late front e x rest hrest

/-- A turn by which no event is accepted or read, and after which the receiver is no less gone. -/
theorem silent (h : Sound n turns m) {t : Turn} {m' : Emitter} (ha : accepted [t] = [])
    (hr : received [t] = []) (hc : m'.capacity = m.capacity) (hl : m'.buffer.length ≤ m.buffer.length)
    (hb : m'.receiver ≠ .gone → m.receiver ≠ .gone ∧ m'.buffer = m.buffer)
    (ht : m'.terminated = m.terminated)
    (hx : ∀ e x, t = .emit e x → ∀ s,
      x = .afterTerminal s ↔ s = e.status ∧ m.terminated = true) :
    Sound n (turns ++ [t]) m' := by
  have hacc : accepted (turns ++ [t]) = accepted turns := by
    rw [accepted_append, ha, List.append_nil]
  have hrec : received (turns ++ [t]) = received turns := by
    rw [received_append, hr, List.append_nil]
  refine ⟨hc.trans h.capacity, ?_, ?_, ?_, ?_, ?_, h.late_append t hx⟩
  · rw [hc]
    exact Nat.le_trans hl h.room
  · intro hg
    obtain ⟨hg', hb'⟩ := hb hg
    rw [hacc, hrec, hb']
    exact h.kept hg'
  · rw [hacc, hrec]
    exact h.inOrder
  · rw [hacc, ht]
    exact h.terminated
  · rw [hacc]
    exact h.last

theorem emit (h : Sound n turns m) {e : Event} {x : Emission} {m' : Emitter}
    (ho : Offering m e x m') : Sound n (turns ++ [.emit e x]) m' := by
  cases ho with
  | late ht =>
    refine h.silent rfl rfl rfl (Nat.le_refl _) (fun hg => ⟨hg, rfl⟩) rfl ?_
    rintro e' x' ⟨⟩ s
    simp [ht, eq_comm]
  | disconnected ht _ =>
    refine h.silent rfl rfl rfl (Nat.le_refl _) (fun hg => ⟨hg, rfl⟩) rfl ?_
    rintro e' x' ⟨⟩ s
    simp [ht]
  | full ht _ _ =>
    refine h.silent rfl rfl rfl (Nat.le_refl _) (fun hg => ⟨hg, rfl⟩) rfl ?_
    rintro e' x' ⟨⟩ s
    simp [ht]
  | accepted ht hl hroom =>
    have hacc : Emitter.accepted (turns ++ [.emit e .accepted]) = Emitter.accepted turns ++ [e] :=
      accepted_append _ _
    have hrec : received (turns ++ [.emit e .accepted]) = received turns := by
      rw [received_append]
      exact List.append_nil _
    have hopen : ∀ t ∈ Emitter.accepted turns, t.isTerminal = false := by
      intro t hmem
      cases hterm : t.isTerminal with
      | false => rfl
      | true =>
        rw [h.terminated.mpr ⟨t, hmem, hterm⟩] at ht
        cases ht
    have hgone : m.receiver ≠ .gone := by rw [hl]; decide
    refine ⟨h.capacity, ?_, ?_, ?_, ?_, ?_, ?_⟩
    · rw [List.length_append]
      exact hroom
    · intro _
      rw [hacc, hrec, ← h.kept hgone, List.append_assoc]
    · rw [hacc, hrec]
      exact h.inOrder.trans (List.prefix_append _ _)
    · rw [hacc]
      constructor
      · intro he
        exact ⟨e, List.mem_append_right _ (List.mem_singleton_self e), he⟩
      · rintro ⟨t, hmem, hterm⟩
        rcases List.mem_append.mp hmem with hmem | hmem
        · rw [hopen t hmem] at hterm
          cases hterm
        · rwa [List.mem_singleton.mp hmem] at hterm
    · rw [hacc]
      intro front t back hsplit hterm
      rcases split_concat hsplit with ⟨-, -, hback⟩ | ⟨rest, hrest⟩
      · exact hback
      · have hmem : t ∈ Emitter.accepted turns := by simp [hrest]
        rw [hopen t hmem] at hterm
        cases hterm
    · refine h.late_append _ ?_
      rintro e' x' ⟨⟩ s
      simp [ht]

theorem receive (h : Sound n turns m) {x : Reception} {m' : Emitter} (hr : Receiving m x m') :
    Sound n (turns ++ [.receive x]) m' := by
  cases hr with
  | gone _ => exact h.silent rfl rfl rfl (Nat.le_refl _) (fun hg => ⟨hg, rfl⟩) rfl nofun
  | empty _ _ => exact h.silent rfl rfl rfl (Nat.le_refl _) (fun hg => ⟨hg, rfl⟩) rfl nofun
  | @event e es hg hb =>
    have hacc : Emitter.accepted (turns ++ [.receive (.event e)]) = Emitter.accepted turns := by
      rw [accepted_append]
      exact List.append_nil _
    have hrec : received (turns ++ [.receive (.event e)]) = received turns ++ [e] :=
      received_append _ _
    have hkept : (received turns ++ [e]) ++ es = Emitter.accepted turns := by
      rw [← h.kept hg, hb, List.append_assoc]
      rfl
    refine ⟨h.capacity, ?_, ?_, ?_, ?_, ?_, h.late_append _ nofun⟩
    · have hroom := h.room
      rw [hb] at hroom
      exact Nat.le_of_succ_le hroom
    · intro _
      rw [hacc, hrec]
      exact hkept
    · rw [hacc, hrec]
      exact ⟨es, hkept⟩
    · rw [hacc]
      exact h.terminated
    · rw [hacc]
      exact h.last

/-- **One act more.** -/
theorem turn (h : Sound n turns m) (a : Act) : Sound n (turns ++ [(m.turn a).1]) (m.turn a).2 := by
  cases a with
  | emit e => exact h.emit (offering_emit m e)
  | receive => exact h.receive (receiving_receive m)
  | close =>
    have hclose : m.close.capacity = m.capacity ∧ m.close.buffer = m.buffer ∧
        m.close.terminated = m.terminated ∧ (m.close.receiver ≠ .gone → m.receiver ≠ .gone) := by
      rw [close]
      split
      · rename_i hl
        exact ⟨rfl, rfl, rfl, fun _ => by rw [hl]; decide⟩
      · exact ⟨rfl, rfl, rfl, fun hg => hg⟩
    obtain ⟨hc, hb, ht, hg⟩ := hclose
    exact h.silent rfl rfl hc (Nat.le_of_eq (congrArg _ hb)) (fun hn => ⟨hg hn, hb⟩) ht nofun
  | leave =>
    exact h.silent rfl rfl rfl (Nat.zero_le _) (fun hg => absurd rfl hg) rfl nofun

theorem play (h : Sound n turns m) (acts : List Act) :
    Sound n (turns ++ (m.play acts).1) (m.play acts).2 := by
  induction acts generalizing turns m with
  | nil => simpa [Emitter.play] using h
  | cons a acts ih => simpa [Emitter.play] using ih (h.turn a)

end Sound

/-- **Whatever the two ends of a channel do, and in whatever order.**  While the receiver is there,
the events that it has read and those that are buffered are the events that were accepted, in order.
The channel never holds more events than it was made for.  It is terminated if and only if a
terminal event was accepted, which is then the last one; exactly the events that are offered after
it come too late.  An event that is not accepted changes nothing. -/
theorem play_sound (n : Nat) (acts : List Act) :
    let (turns, m) := (ofCapacity n).play acts
    (m.receiver ≠ .gone → received turns ++ m.buffer = accepted turns) ∧
      received turns <+: accepted turns ∧
      m.buffer.length ≤ max n 1 ∧
      (m.terminated = true ↔ ∃ e ∈ accepted turns, e.isTerminal = true) ∧
      (∀ front e back, accepted turns = front ++ e :: back → e.isTerminal = true → back = []) ∧
      (∀ front e x back, turns = front ++ .emit e x :: back → ∀ s,
        x = .afterTerminal s ↔ s = e.status ∧ ∃ t ∈ accepted front, t.isTerminal = true) ∧
      (m.terminated = true → ∀ e, m.emit e = (.afterTerminal e.status, m)) ∧
      ∀ e, (m.emit e).1 ≠ .accepted → (m.emit e).2 = m := by
  have h : Sound n ((ofCapacity n).play acts).1 ((ofCapacity n).play acts).2 :=
    (sound_ofCapacity n).play acts
  refine ⟨h.kept, h.inOrder, ?_, h.terminated, h.last, h.late, ?_, ?_⟩
  · rw [← h.capacity]
    exact h.room
  · intro ht e
    rw [Emitter.emit, if_pos ht]
  · intro e he
    exact (offering_emit _ e).unchanged he

example :
    let started := Event.started "go"
    let failed := Event.error "x" .streamFailed none
    let acts := [.emit started, .emit failed, .receive, .emit failed, .leave, .emit started]
    ((ofCapacity 0).play acts).1 = [.emit started .accepted, .emit failed .full,
      .receive (.event started), .emit failed .accepted, .leave,
      .emit started (.afterTerminal "started")] := by
  decide

end ArchDiagram.Emitter
