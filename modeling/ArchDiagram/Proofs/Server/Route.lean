import ArchDiagram.Proofs.Run.Quote
import ArchDiagram.Proofs.Run.RepairChain
import ArchDiagram.Proofs.Server.Reply
import ArchDiagram.Service

/-!
# Two routes that accept the same bodies

The routes for runs and for quotes read the same request from a body.  If there is none, or if there
is something wrong with it, both say so and nobody is asked for anything.  Otherwise the one starts
a run, and what becomes of it is told by its events.  The other asks for a snapshot and a count, and
answers in any case; only a snapshot that cannot be had is a failure, and never one of the request.

* `DiagramRequest.fault?_eq_none_iff`: the requests without fault.
* `AsksProperly`: whatever is asked for, it is asked for with the names and the credentials that
  such a request has.
* `Server.routes_agree`: **both routes accept the same bodies**.
-/

namespace ArchDiagram

/-! ## Requests -/

namespace DiagramRequest

theorem fault?_eq_none_iff (r : DiagramRequest) : r.fault? = none ↔
    r.owner ≠ "" ∧ r.repo ≠ "" ∧ r.apiKey ≠ some "" ∧ r.hostToken ≠ some "" := by
  rw [fault?]
  split
  · simp_all
  split
  · simp_all
  split
  · simp_all
  split
  · simp_all
  · simp_all

/-- A body holds a request without fault, or it is refused for a reason. -/
theorem ofOctets_cases (body : List UInt8) :
    (∃ reason, ofOctets body = .error (.invalidRequest reason)) ∨
      ∃ r, ofOctets body = .ok r ∧ r.fault? = none := by
  rw [ofOctets]
  split
  · exact Or.inl ⟨_, rfl⟩
  · split
    · exact Or.inl ⟨_, rfl⟩
    · rename_i r _ _ hr
      exact Or.inr ⟨r, rfl, hr⟩

end DiagramRequest

/-! ## What is asked for -/

/-- Whatever the steps ask for, a repository is named by an owner and a name, and credentials are
absent or not empty. -/
structure AsksProperly (steps : List Step) : Prop where
  fetched : ∀ x ∈ fetched steps, x.1 ≠ "" ∧ x.2.1 ≠ "" ∧ x.2.2 ≠ some ""
  signed : ∀ q ∈ counted steps ++ generated steps, q.apiKey ≠ some ""

section

variable {σ : Type} {p : Setting σ} {r : DiagramRequest}

theorem asksProperly_nil : AsksProperly [] :=
  ⟨nofun, nofun⟩

/-- Steps ask properly if they ask for what a request without fault names. -/
theorem asksProperly_of_fault {steps : List Step} (hr : r.fault? = none)
    (hfetched : ∀ x ∈ fetched steps, x = (r.owner, r.repo, r.hostToken))
    (hsigned : ∀ q ∈ counted steps ++ generated steps, q.apiKey = r.apiKey) :
    AsksProperly steps := by
  obtain ⟨howner, hrepo, hkey, htoken⟩ := r.fault?_eq_none_iff.mp hr
  constructor
  · intro x hx
    rw [hfetched x hx]
    exact ⟨howner, hrepo, htoken⟩
  · intro q hq
    rw [hsigned q hq]
    exact hkey

theorem asksProperly_execute (p : Setting σ) (l : Listener) (s : σ) (hr : r.fault? = none) :
    AsksProperly (execute p l r ⟨s, []⟩).history.reverse := by
  have hx := executed_diagram p l r s
  have hturn := execute_inTurn p l r s
  rw [hx.all_eq] at hturn ⊢
  have hinputs := hx.course.inputs (hx.course.part_closing l) hturn
  refine asksProperly_of_fault hr ?_ ?_
  · intro x hx
    rw [hinputs.fetched] at hx
    exact List.mem_singleton.mp hx
  · intro q hq
    exact (hinputs.signed q hq).2

theorem Run.Reads.asksProperly {s : σ} {steps : List Step} {out : Except Halt (Snapshot × Nat)}
    (h : Run.Reads p r s steps out) (hr : r.fault? = none) : AsksProperly steps := by
  refine asksProperly_of_fault hr ?_ ?_
  · intro x hx
    cases h <;> exact List.mem_singleton.mp hx
  · intro q hq
    cases h with
    | unfetched _ _ => cases hq
    | unmeasured _ _ | measured _ _ _ =>
      rw [List.mem_singleton.mp hq]
      rfl

/-! ## Quotes -/

/-- Collaborators that do not break down when they are asked for a snapshot or a count. -/
structure Team.IsCalm (t : Team σ) : Prop where
  fetch : ∀ o r k s, (t.fetch o r k s).1 ≠ .panic
  count : ∀ q s, (t.count q s).1 ≠ .panic

theorem Team.constant_isCalm (s : Snapshot) (n : Nat) (x : TextStream) (v : Verdict) :
    (Team.constant s n x v).IsCalm := by
  constructor
  · intro _ _ _ _ h
    cases h
  · intro _ _ h
    cases h

theorem Settings.team_isCalm (s : Settings) (programs : Programs) : (s.team programs).IsCalm := by
  have hfetch : ∀ x : Except SnapshotError Snapshot, Answer.ofExcept x ≠ .panic := by
    rintro (e | a) h <;> cases h
  have hcount : ∀ (c : Provider.Client) q m, (c.count q m).1 ≠ .panic := by
    intro c q m h
    rw [Provider.Client.count] at h
    split at h
    · cases h
    split at h
    · cases h
    split at h
    · cases h
    split at h <;> cases h
  constructor
  · intro o r k v
    rw [team]
    dsimp only
    generalize s.hostClient.fetch o r k v.host = x
    exact hfetch x.1
  · intro q v
    have hanswer := hcount s.providerClient q v.provider
    rw [team]
    dsimp only
    generalize s.providerClient.count q v.provider = x at hanswer ⊢
    exact hanswer

/-- With such collaborators a reading fails only for want of a snapshot. -/
theorem Run.Reads.calm {s : σ} {steps : List Step} {out : Except Halt (Snapshot × Nat)}
    (h : Run.Reads p r s steps out) (hp : p.team.IsCalm) :
    (∃ e, out = .error (.failed (.snapshot e))) ∨ ∃ d, out = .ok d := by
  cases h with
  | @unfetched a _ hf ha =>
    cases a with
    | ok snap => cases ha
    | error e =>
      cases ha
      exact Or.inl ⟨e, rfl⟩
    | panic => exact absurd hf (hp.fetch _ _ _ _)
  | unmeasured _ hy => exact absurd hy (hp.count _ _)
  | measured _ _ _ => exact Or.inr ⟨_, rfl⟩

end

namespace Server

variable {σ : Type} {p : Setting σ} {body : List UInt8} {w : World σ}

def post (p : Setting σ) (route : Route) (body : List UInt8) (w : World σ) :
    Option Reply × World σ :=
  respond p ⟨"POST", route.path, body⟩ w

theorem ofTarget?_path (route : Route) : Route.ofTarget? route.path = some route := by
  cases route <;> decide +kernel

theorem post_eq {route : Route} (h : "POST" ∈ route.methods) :
    post p route body w = serve p route ⟨"POST", route.path, body⟩ w := by
  rw [post, respond, ofTarget?_path]
  exact if_pos h

theorem post_stream (hbody : body.length ≤ bodyLimit) :
    post p .stream body w = (some (respondStream p body w).1, (respondStream p body w).2) := by
  rw [post_eq (by decide)]
  exact if_neg (Nat.not_lt.mpr hbody)

theorem post_cost (hbody : body.length ≤ bodyLimit) :
    post p .cost body w = respondCost p body w := by
  rw [post_eq (by decide)]
  exact if_neg (Nat.not_lt.mpr hbody)

/-- An answer of the route for runs that refuses the body. -/
def Reply.IsRefusal (x : Reply) : Prop :=
  x.status = 400 ∧ x.errorCode? = some "VALIDATION_ERROR"

/-- An answer of the route for quotes to a request that there is nothing wrong with. -/
def Reply.IsQuoted (x : Reply) : Prop :=
  x.ok? = some true ∨ x.ok? = some false ∧ x.errorCode? = some "COST_ESTIMATION_FAILED"

theorem not_isRefusal_streamReply (events : List Event) : ¬ (streamReply events).IsRefusal := by
  rintro ⟨h, -⟩
  have hstatus : (200 : Nat) = 400 := h
  exact absurd hstatus (by decide)

theorem Reply.IsQuoted.not_invalid {x : Reply} (h : x.IsQuoted) :
    ¬ (x.ok? = some false ∧ x.errorCode? = some "VALIDATION_ERROR") := by
  rintro ⟨hok, hcode⟩
  rcases h with h | ⟨-, h⟩
  · rw [hok] at h
    cases h
  · rw [hcode] at h
    exact absurd h (by decide)

/-- What the route for quotes makes of a request without fault. -/
theorem respondCost_of_ok {r : DiagramRequest} (hrequest : DiagramRequest.ofOctets body = .ok r)
    (hr : r.fault? = none) (hp : p.team.IsCalm) (w : World σ) :
    ∃ b w' steps, respondCost p body w = (some b, w') ∧ b.status = 200 ∧ b.IsQuoted ∧
      w'.history = steps.reverse ++ w.history ∧ AsksProperly steps := by
  obtain ⟨steps, hsteps, hreads⟩ := Run.reads_from p r w
  have hquote := congrFun (Run.quote_eq (p := p) hr) w
  rw [Run.bind_apply] at hquote
  rcases hd : Run.reading p r w with ⟨out, w'⟩
  rw [hd] at hsteps hreads hquote
  have hproper := hreads.asksProperly hr
  -- a count that fails is replaced by an estimate, so only the snapshot may be missing
  rcases hreads.calm hp with ⟨e, rfl⟩ | ⟨d, rfl⟩
  · refine ⟨jsonReply 200 (Failure.snapshot e).quoteJson, w', steps, ?_, rfl, ?_, hsteps, hproper⟩
    · rw [respondCost, hrequest]
      dsimp only
      rw [hquote]
    · exact Or.inr (quoteJson_read (.snapshot e))
  · refine ⟨jsonReply 200 (Quote.ofBase p.model d.2).resultJson, w', steps, ?_, rfl, ?_, hsteps,
      hproper⟩
    · rw [respondCost, hrequest]
      dsimp only
      rw [hquote]
      rfl
    · exact Or.inl (resultJson_read p.model d.2)

/-- What the two routes answer to one body, and what they ask for on the way. -/
structure Agree (p : Setting σ) (body : List UInt8) (w : World σ) (a b : Reply) : Prop where
  stream_eq : (post p .stream body w).1 = some a
  cost_eq : (post p .cost body w).1 = some b
  cost_status : b.status = 200
  /-- The one route refuses a body if and only if the other says that it is not valid. -/
  refusal_iff : a.IsRefusal ↔ b.ok? = some false ∧ b.errorCode? = some "VALIDATION_ERROR"
  /-- Nobody is asked then. -/
  untouched : a.IsRefusal → (post p .stream body w).2 = w ∧ (post p .cost body w).2 = w
  /-- Of any other body a run is started, and the answer consists of its events. -/
  started : ¬ a.IsRefusal → a.status = 200 ∧ ∃ r, DiagramRequest.ofOctets body = .ok r ∧
    let run := execute p .loyal r ⟨w.state, []⟩
    a = streamReply (emitted run.history.reverse) ∧
      (post p .stream body w).2 = ⟨run.state, run.history ++ w.history⟩
  quoted : ¬ a.IsRefusal → b.IsQuoted
  /-- Whatever either route asks for, it is asked for properly. -/
  asked : ∀ route ∈ [Route.stream, Route.cost], ∃ steps,
    (post p route body w).2.history = steps.reverse ++ w.history ∧ AsksProperly steps

/-- A body without a proper request is refused by both routes, and nobody is asked. -/
theorem agree_of_invalid (hbody : body.length ≤ bodyLimit) {reason : String}
    (hrequest : DiagramRequest.ofOctets body = .error (.invalidRequest reason)) :
    Agree p body w (invalidReply (.invalidRequest reason))
      (jsonReply 200 (Failure.invalidRequest reason).quoteJson) := by
  have hstream : post p .stream body w = (some (invalidReply (.invalidRequest reason)), w) := by
    rw [post_stream hbody, respondStream, hrequest]
  have hcost : post p .cost body w =
      (some (jsonReply 200 (Failure.invalidRequest reason).quoteJson), w) := by
    rw [post_cost hbody, respondCost, hrequest]
  have hrefusal : (invalidReply (.invalidRequest reason)).IsRefusal := invalidReply_read _
  have hpost : ∀ route ∈ [Route.stream, Route.cost], (post p route body w).2 = w := by
    simp [hstream, hcost]
  constructor
  case stream_eq => rw [hstream]
  case cost_eq => rw [hcost]
  case cost_status => rfl
  case refusal_iff => exact ⟨fun _ => quoteJson_read _, fun _ => hrefusal⟩
  case untouched => exact fun _ => ⟨hpost _ (by decide), hpost _ (by decide)⟩
  case started => exact fun h => absurd hrefusal h
  case quoted => exact fun h => absurd hrefusal h
  case asked => exact fun route hroute => ⟨[], by rw [hpost route hroute]; rfl, asksProperly_nil⟩

/-- Of a body with a request without fault a run is started, and the other route gives a quote or
tells that it could not. -/
theorem agree_of_request (hp : p.team.IsCalm) (hbody : body.length ≤ bodyLimit)
    {r : DiagramRequest} (hrequest : DiagramRequest.ofOctets body = .ok r) (hr : r.fault? = none) :
    ∃ b, Agree p body w
      (streamReply (emitted (execute p .loyal r ⟨w.state, []⟩).history.reverse)) b := by
  obtain ⟨b, w', steps, hquote, hstatus, hquoted, hsteps, hproper⟩ :=
    respondCost_of_ok hrequest hr hp w
  have hstream : post p .stream body w =
      (some (streamReply (emitted (execute p .loyal r ⟨w.state, []⟩).history.reverse)),
        ⟨(execute p .loyal r ⟨w.state, []⟩).state,
          (execute p .loyal r ⟨w.state, []⟩).history ++ w.history⟩) := by
    rw [post_stream hbody, respondStream, hrequest]
  have hcost : post p .cost body w = (some b, w') := by
    rw [post_cost hbody, hquote]
  have hopen := not_isRefusal_streamReply
    (emitted (execute p .loyal r ⟨w.state, []⟩).history.reverse)
  refine ⟨b, ?_⟩
  constructor
  case stream_eq => rw [hstream]
  case cost_eq => rw [hcost]
  case cost_status => exact hstatus
  case refusal_iff => exact ⟨fun h => absurd h hopen, fun h => absurd h hquoted.not_invalid⟩
  case untouched => exact fun h => absurd h hopen
  case started =>
    refine fun _ => ⟨rfl, r, hrequest, rfl, ?_⟩
    rw [hstream]
  case quoted => exact fun _ => hquoted
  case asked =>
    intro route hroute
    simp only [List.mem_cons, List.not_mem_nil, or_false] at hroute
    rcases hroute with rfl | rfl
    · refine ⟨_, ?_, asksProperly_execute p .loyal w.state hr⟩
      rw [hstream, List.reverse_reverse]
    · refine ⟨steps, ?_, hproper⟩
      rw [hcost]
      exact hsteps

/-- **Both routes accept the same bodies.**  For every body within the limit, whatever has been
asked before and whatever the collaborators answer, if they do not break down. -/
theorem routes_agree (p : Setting σ) (hp : p.team.IsCalm) {body : List UInt8}
    (hbody : body.length ≤ bodyLimit) (w : World σ) : ∃ a b, Agree p body w a b := by
  rcases DiagramRequest.ofOctets_cases body with ⟨reason, hrequest⟩ | ⟨r, hrequest, hr⟩
  · exact ⟨_, _, agree_of_invalid hbody hrequest⟩
  · exact ⟨_, agree_of_request hp hbody hrequest hr⟩

theorem routes_agree_unnamed :
    let p : Setting Unit :=
      ⟨.constant ⟨"main", "a.py", "b"⟩ 7 ⟨["x"], .finished⟩ .accepted, .standard, "o4-mini", ⟨0⟩, 2⟩
    let body := Utf8.encode "[\"acme\",\"demo\"]"
    p.team.IsCalm ∧ body.length ≤ bodyLimit ∧ ∃ a b, Agree p body ⟨(), []⟩ a b := by
  intro p body
  have hp : p.team.IsCalm := Team.constant_isCalm _ _ _ _
  have hbody : body.length ≤ bodyLimit := by decide +kernel
  exact ⟨hp, hbody, routes_agree p hp hbody ⟨(), []⟩⟩

end Server

end ArchDiagram
