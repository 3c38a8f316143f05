import ArchDiagram.Proofs.Provider.Sent

/-!
# Repetitions of an exchange

A call is opened by an exchange that is repeated as long as it fails for a reason that may pass.
Every repetition sends the same request, so all that matters of a server is what comes of its next
exchanges (`Web.Remote.outcome`).  The last exchange is the first one that settles the call, or the
one after which no repetition is left (`IsLast`); the call comes to what this exchange comes to.

Whether a failure may pass is decided on the failure as it is reported.  `isTransient_iff` reads it
off the outcome of the exchange instead, so that the bodies of answers count nowhere.

* `attempts_eq`: what attempts come to, by induction on the number of those that are left.
* `post_eq`, `post_sends`: an exchange with its repetitions, and what it sends.
* `Client.opening`: a call up to its answer, be it for a text or for a count.
* `Client.generate_sends`, `Client.count_sends`: **whatever is asked for, the key of the request is
  sent**: the caller's, trimmed, or where nothing is left of it the configured one.
* `Client.retries`: **how often a call asks the provider, and what it comes to**.
* `Client.countsAsSent`: **a count is asked for with the body and the key of the text**.
-/

namespace ArchDiagram

namespace Web.Remote

/-! ## A server that is asked again and again -/

/-- What comes of an exchange after `i` others for the same request.  One that cannot be built
reaches nobody. -/
def outcome (m : Remote) (q? : Option Request) (i : Nat) : Outcome :=
  match q? with
  | none => .error .unsendable
  | some _ => m.outcomes[i]?.getD m.later

/-- A server after `n` exchanges for the same request. -/
def after (m : Remote) (q? : Option Request) (n : Nat) : Remote :=
  match q? with
  | none => m
  | some q => ⟨m.outcomes.drop n, m.later, List.replicate n q ++ m.sent⟩

theorem send_eq (q : Request) (m : Remote) :
    m.send q = (m.outcome (some q) 0, m.after (some q) 1) := by
  rw [send]
  cases h : m.outcomes <;> simp [outcome, after, h]

theorem outcome_after (m : Remote) (q? : Option Request) (n i : Nat) :
    (m.after q? n).outcome q? i = m.outcome q? (n + i) := by
  cases q? with
  | none => rfl
  | some q => simp [outcome, after]

theorem after_after (m : Remote) (q? : Option Request) (n n' : Nat) :
    (m.after q? n).after q? n' = m.after q? (n + n') := by
  cases q? with
  | none => rfl
  | some q =>
    have hsent : List.replicate n' q ++ (List.replicate n q ++ m.sent) =
        List.replicate (n + n') q ++ m.sent := by
      rw [← List.append_assoc, List.replicate_append_replicate, Nat.add_comm n' n]
    simp [after, hsent]

end Web.Remote

namespace Provider

/-! ## One exchange -/

/-- The request that carries a key and a body, none if it cannot be built. -/
def request? (url key : String) (body : Json) : Option Web.Request :=
  Web.buildRequest? "POST" url
    [("authorization", "Bearer " ++ key), ("content-type", "application/json")] (some body)

def Carries (key : String) (body : Json) (q : Web.Request) : Prop :=
  q.CarriesKey key ∧ q.body = some body

theorem carries_of_request {url key : String} {body : Json} {q : Web.Request}
    (h : request? url key body = some q) : Carries key body q := by
  obtain ⟨hheaders, hbody⟩ := Web.eq_of_buildRequest h
  refine ⟨?_, hbody⟩
  rw [Web.Request.CarriesKey, hheaders]
  rfl

/-- What an exchange comes to for whoever asked: the answer, or the failure as it is reported. -/
def Client.resultOf (c : Client) : Web.Outcome → Except ProviderError Web.Response
  | .ok r => if r.isSuccess then .ok r else .error (errorOf r)
  | .error f => .error (transportError c.timeout f)

theorem postOnce_eq (c : Client) (url key : String) (body : Json) (m : Web.Remote) :
    postOnce c url key body m =
      (c.resultOf (m.outcome (request? url key body) 0), m.after (request? url key body) 1) := by
  have hrequest : Web.buildRequest? "POST" url [("authorization", "Bearer " ++ key),
      ("content-type", "application/json")] (some body) = request? url key body := rfl
  simp only [postOnce, hrequest]
  cases request? url key body with
  | none => rfl
  | some q =>
    dsimp only
    rw [Web.Remote.send_eq]
    cases m.outcome (some q) 0 <;> rfl

/-! ## Failures that may pass -/

/-- An exchange failed for a reason that may pass: too many requests, a failure of the server,
silence, or no connection. -/
def IsTransient : Web.Outcome → Prop
  | .ok r => r.status = 429 ∨ 500 ≤ r.status
  | .error f => f = .timedOut ∨ f = .unreachable

/-- An exchange after which there is nothing to repeat: a success, or a failure that will not
pass. -/
def Settles (o : Web.Outcome) : Prop :=
  (∃ r, o = .ok r ∧ 200 ≤ r.status ∧ r.status < 300) ∨ ¬ IsTransient o

theorem isTransient_errorOf (r : Web.Response) :
    (errorOf r).isTransient = true ↔ r.status = 429 ∨ 500 ≤ r.status := by
  unfold errorOf
  by_cases h429 : r.status = 429
  · simp [h429, ProviderError.isTransient]
  by_cases h400 : r.status = 400
  · simp [h400, ProviderError.isTransient]
  · simp [h429, h400, ProviderError.isTransient]

/-- A failure is transient as reported if and only if the exchange failed for a reason that may
pass. -/
theorem isTransient_iff {c : Client} {o : Web.Outcome} {e : ProviderError}
    (h : c.resultOf o = .error e) : e.isTransient = true ↔ IsTransient o := by
  cases o with
  | error f =>
    cases h
    cases f <;> simp [IsTransient, transportError, ProviderError.isTransient, Web.Fault.isTransient]
  | ok r =>
    rw [Client.resultOf] at h
    split at h
    · cases h
    · cases h
      exact isTransient_errorOf r

theorem settles_of_ok {c : Client} {o : Web.Outcome} {r : Web.Response}
    (h : c.resultOf o = .ok r) : Settles o := by
  cases o with
  | error f => cases h
  | ok r' =>
    rw [Client.resultOf] at h
    split at h
    · rename_i hs
      exact Or.inl ⟨r', rfl, by simpa [Web.Response.isSuccess] using hs⟩
    · cases h

theorem settles_iff_of_error {c : Client} {o : Web.Outcome} {e : ProviderError}
    (h : c.resultOf o = .error e) : Settles o ↔ ¬ IsTransient o := by
  constructor
  · rintro (⟨r, rfl, hs⟩ | ho)
    · have hsuccess : r.isSuccess = true := by simpa [Web.Response.isSuccess] using hs
      rw [Client.resultOf, if_pos hsuccess] at h
      cases h
    · exact ho
  · exact Or.inr

/-! ## Attempts -/

/-- Of exchanges with these outcomes number `k` is the last, if they are repeated at most `retries`
times: no earlier one settles anything, and it does or is the last repetition. -/
structure IsLast (retries : Nat) (o : Nat → Web.Outcome) (k : Nat) : Prop where
  le : k ≤ retries
  before : ∀ i < k, ¬ Settles (o i)
  stops : Settles (o k) ∨ k = retries

theorem IsLast.succ {retries k : Nat} {o : Nat → Web.Outcome} (h0 : ¬ Settles (o 0))
    (h : IsLast retries (fun i => o (1 + i)) k) : IsLast (retries + 1) o (k + 1) := by
  refine ⟨Nat.succ_le_succ h.le, ?_, ?_⟩
  · intro i hi
    cases i with
    | zero => exact h0
    | succ i =>
      have hi' := h.before i (by omega)
      rwa [Nat.add_comm] at hi'
  · rcases h.stops with hs | hk
    · rw [Nat.add_comm] at hs
      exact Or.inl hs
    · exact Or.inr (by omega)

theorem IsLast.unique {retries k k' : Nat} {o : Nat → Web.Outcome} (h : IsLast retries o k)
    (h' : IsLast retries o k') : k = k' := by
  have hle := h.le
  have hle' := h'.le
  rcases Nat.lt_trichotomy k k' with hlt | heq | hgt
  · rcases h.stops with hs | hk
    · exact absurd hs (h'.before k hlt)
    · omega
  · exact heq
  · rcases h'.stops with hs | hk
    · exact absurd hs (h.before k' hgt)
    · omega

/-- **What attempts come to**, where number `n + left` is the last that may be made.  None of them
falls back on what is reported when the attempts are spent. -/
theorem attempts_eq (c : Client) (url key : String) (body : Json) {last : Nat}
    (spent : Option ProviderError → ProviderError) (left n : Nat) (failure : Option ProviderError)
    (m : Web.Remote) (hlast : n + left = last) :
    ∃ k, IsLast left (m.outcome (request? url key body)) k ∧
      attempts c url key body last spent (left + 1) n failure m =
        (c.resultOf (m.outcome (request? url key body) k),
          m.after (request? url key body) (k + 1)) := by
  -- an attempt that does not end the call is followed by one less of them, on the server that it
  -- leaves; the number of the attempt says whether one is left
  generalize hq : request? url key body = q?
  induction left generalizing n failure m with
  | zero =>
    refine ⟨0, ⟨Nat.le_refl 0, fun i hi => absurd hi (Nat.not_lt_zero i), Or.inr rfl⟩, ?_⟩
    rw [attempts, postOnce_eq, hq]
    cases hr : c.resultOf (m.outcome q? 0) with
    | ok r => rfl
    | error e =>
      dsimp only
      rw [if_neg (by omega)]
  | succ left ih =>
    rw [attempts, postOnce_eq, hq]
    cases hr : c.resultOf (m.outcome q? 0) with
    | ok r =>
      refine ⟨0, ⟨Nat.zero_le _, fun i hi => absurd hi (Nat.not_lt_zero i), ?_⟩, ?_⟩
      · exact Or.inl (settles_of_ok hr)
      · rw [hr]
    | error e =>
      have hsettles := settles_iff_of_error hr
      by_cases he : e.isTransient = true
      · have h0 : ¬ Settles (m.outcome q? 0) := fun hs =>
          hsettles.mp hs ((isTransient_iff hr).mp he)
        obtain ⟨k, hk, heq⟩ := ih (n + 1) (some e) (m.after q? 1) (by omega)
        have houtcome : (m.after q? 1).outcome q? = fun i => m.outcome q? (1 + i) :=
          funext fun i => m.outcome_after q? 1 i
        rw [houtcome] at hk
        refine ⟨k + 1, hk.succ h0, ?_⟩
        dsimp only
        rw [if_pos ⟨he, by omega⟩, heq, Web.Remote.outcome_after, Web.Remote.after_after,
          Nat.add_comm 1 k, Nat.add_comm 1 (k + 1)]
      · refine ⟨0, ⟨Nat.zero_le _, fun i hi => absurd hi (Nat.not_lt_zero i), ?_⟩, ?_⟩
        · exact Or.inl (hsettles.mpr fun ho => he ((isTransient_iff hr).mpr ho))
        · dsimp only
          rw [if_neg fun h => he h.1, hr]

theorem post_eq (c : Client) (url key : String) (body : Json) (retries : Nat) (m : Web.Remote) :
    ∃ k, IsLast retries (m.outcome (request? url key body)) k ∧
      post c url key body retries m =
        (c.resultOf (m.outcome (request? url key body) k),
          m.after (request? url key body) (k + 1)) :=
  attempts_eq c url key body spentError retries 0 none m (Nat.zero_add retries)

theorem post_sends (c : Client) (url key : String) (body : Json) (retries : Nat) (m : Web.Remote) :
    Web.Remote.Sends (Carries key body) m (post c url key body retries m).2 := by
  obtain ⟨k, -, hpost⟩ := post_eq c url key body retries m
  rw [hpost]
  cases hq : request? url key body with
  | none => exact .refl _ m
  | some q =>
    refine ⟨List.replicate (k + 1) q, rfl, ?_⟩
    intro q' hq'
    rw [List.eq_of_mem_replicate hq']
    exact carries_of_request hq

/-- What is reported when the attempts are spent counts nowhere. -/
theorem attempts_eq_post (c : Client) (url key : String) (body : Json) (retries : Nat)
    (spent : Option ProviderError → ProviderError) (m : Web.Remote) :
    attempts c url key body retries spent (retries + 1) 0 none m =
      post c url key body retries m := by
  obtain ⟨k, hk, hspent⟩ :=
    attempts_eq c url key body spent retries 0 none m (Nat.zero_add retries)
  obtain ⟨k', hk', hpost⟩ := post_eq c url key body retries m
  rw [hspent, hpost, hk.unique hk']

/-! ## Calls -/

def Client.address (c : Client) (stream : Bool) : String :=
  c.baseUrl ++ if stream then "/responses" else "/responses/input_tokens"

/-- The opening of a call for a text or a count. -/
def Client.opening (c : Client) (r : TextRequest) (stream : Bool) (m : Web.Remote) :
    Except ProviderError Web.Response × Web.Remote :=
  match c.prepare r with
  | .error e => (.error e, m)
  | .ok key => post c (c.address stream) key (r.toJson stream) c.maxRetries m

def Client.tokens (c : Client) (a : Web.Response) : Answer ProviderError Nat :=
  match gather c.timeout a.fault 0 [] a.pieces with
  | .error e => .error e
  | .ok body =>
    match tokensOf body with
    | .error e => .error e
    | .ok n => .ok n

/-- The answer to a call whose opening came to `x`, where `read` reads the answer. -/
def answered {α : Type} (read : Web.Response → Answer ProviderError α) :
    Except ProviderError Web.Response → Answer ProviderError α
  | .error e => .error e
  | .ok a => read a

theorem Client.generate_eq (c : Client) (r : TextRequest) (m : Web.Remote) :
    c.generate r m = (answered (fun a => .ok (textStream c.timeout a)) (c.opening r true m).1,
      (c.opening r true m).2) := by
  rw [generate, opening]
  cases c.prepare r with
  | error e => rfl
  | ok key =>
    have haddress : c.baseUrl ++ "/responses" = c.address true := rfl
    dsimp only
    rw [haddress]
    rcases post c (c.address true) key (r.toJson true) c.maxRetries m with ⟨e | a, m'⟩ <;> rfl

theorem Client.count_eq (c : Client) (r : TextRequest) (m : Web.Remote) :
    c.count r m = (answered c.tokens (c.opening r false m).1, (c.opening r false m).2) := by
  rw [count, opening]
  cases c.prepare r with
  | error e => rfl
  | ok key =>
    have haddress : c.baseUrl ++ "/responses/input_tokens" = c.address false := rfl
    dsimp only
    rw [haddress]
    rcases post c (c.address false) key (r.toJson false) c.maxRetries m with ⟨e | a, m'⟩
    · rfl
    · simp only [answered, Client.tokens]
      cases gather c.timeout a.fault 0 [] a.pieces with
      | error e => rfl
      | ok body =>
        dsimp only
        cases tokensOf body <;> rfl

/-! ## What is found before anything is sent -/

theorem Client.key?_of_prepare {c : Client} {r : TextRequest} {key : String}
    (h : c.prepare r = .ok key) : c.key? r = some key := by
  rw [Client.prepare] at h
  split at h
  · cases h
  · cases hk : c.key? r with
    | none => simp [hk] at h
    | some k => simpa [hk] using h

theorem Client.prepare_error {c : Client} {r : TextRequest}
    (h : inputLimit < inputSize r ∨ c.key? r = none) : ∃ e, c.prepare r = .error e := by
  by_cases hsize : inputLimit < inputSize r
  · exact ⟨_, by rw [prepare, if_pos hsize]⟩
  · have hkey : c.key? r = none := h.resolve_left hsize
    exact ⟨_, by rw [prepare, if_neg hsize, hkey]⟩

theorem Client.prepare_ok {c : Client} {r : TextRequest} {key : String}
    (hsize : inputSize r ≤ inputLimit) (hkey : c.key? r = some key) :
    c.prepare r = .ok key := by
  rw [prepare, if_neg (Nat.not_lt.mpr hsize), hkey]

/-! ## The key of a call -/

/-- A request to the provider is paid for with the caller's key or else the configured one. -/
def Client.Pays (c : Client) (apiKey : Option String) (q : Web.Request) : Prop :=
  ∃ key, (credential apiKey).or c.defaultKey = some key ∧ q.CarriesKey key

/-- Whatever opens a call is paid for with the key of its request. -/
theorem Client.opening_sends (c : Client) (r : TextRequest) (stream : Bool) (m : Web.Remote) :
    Web.Remote.Sends (c.Pays r.apiKey) m (c.opening r stream m).2 := by
  rw [opening]
  cases hp : c.prepare r with
  | error e => exact .refl _ m
  | ok key =>
    have hkey : c.key? r = some key := Client.key?_of_prepare hp
    have hsends := post_sends c (c.address stream) key (r.toJson stream) c.maxRetries m
    exact hsends.mono fun q hq => ⟨key, hkey, hq.1⟩

theorem Client.generate_sends (c : Client) (r : TextRequest) (m : Web.Remote) :
    Web.Remote.Sends (c.Pays r.apiKey) m (c.generate r m).2 := by
  rw [generate_eq]
  exact c.opening_sends r true m

theorem Client.count_sends (c : Client) (r : TextRequest) (m : Web.Remote) :
    Web.Remote.Sends (c.Pays r.apiKey) m (c.count r m).2 := by
  rw [count_eq]
  exact c.opening_sends r false m

/-! ## Requests that can be built -/

/-- Whether a request can be built depends on its address and its key alone: something can be sent
to the one, and the other may stand in a header. -/
theorem exists_request?_iff (url key : String) (body : Json) :
    (∃ q, request? url key body = some q) ↔
      (∃ u, Web.Url.parse? url = some u ∧ u.isSendable = true) ∧
        ∀ ch ∈ key.toList, ch = '\t' ∨ 0x20 ≤ ch.toNat ∧ ch.toNat ≠ 0x7F := by
  have hbearer : Web.isHeaderValue "Bearer " = true := by decide
  have hplain : Web.isHeaderValue "application/json" = true := by decide
  have hheaders : Web.isHeaderValue ("Bearer " ++ key) = true ↔
      ∀ ch ∈ key.toList, ch = '\t' ∨ 0x20 ≤ ch.toNat ∧ ch.toNat ≠ 0x7F := by
    rw [Web.isHeaderValue] at hbearer
    rw [Web.isHeaderValue, String.toList_append, List.all_append, hbearer, Bool.true_and]
    simp only [List.all_eq_true, Bool.or_eq_true, Bool.and_eq_true, beq_iff_eq,
      decide_eq_true_eq]
  rw [request?, Web.buildRequest?, ← hheaders]
  cases Web.Url.parse? url with
  | none => simp
  | some u => by_cases hu : u.isSendable = true <;> simp [hu, hplain]

theorem exists_request?_congr (url key : String) (body body' : Json) :
    (∃ q, request? url key body = some q) ↔ ∃ q, request? url key body' = some q := by
  rw [exists_request?_iff, exists_request?_iff]

/-- Where no request can be built none is sent. -/
theorem post_of_request?_eq_none {c : Client} {url key : String} {body : Json}
    (h : request? url key body = none) (retries : Nat) (m : Web.Remote) :
    post c url key body retries m = (.error (.transport .unsendable), m) := by
  obtain ⟨k, -, hpost⟩ := post_eq c url key body retries m
  rw [hpost, h]
  rfl

/-! ## Openings -/

/-- A call whose request can be built is opened by exchanges up to the last one. -/
theorem Client.opening_repeats {c : Client} {r : TextRequest} {key : String} {stream : Bool}
    {q : Web.Request} (hsize : inputSize r ≤ inputLimit) (hkey : c.key? r = some key)
    (hq : request? (c.address stream) key (r.toJson stream) = some q) (m : Web.Remote) :
    ∃ k, IsLast c.maxRetries (m.outcome (some q)) k ∧
      c.opening r stream m = (c.resultOf (m.outcome (some q) k), m.after (some q) (k + 1)) := by
  obtain ⟨k, hk, hpost⟩ := post_eq c (c.address stream) key (r.toJson stream) c.maxRetries m
  rw [hq] at hk hpost
  refine ⟨k, hk, ?_⟩
  rw [opening, Client.prepare_ok hsize hkey]
  exact hpost

/-- How often a client asks the provider for one call, and what the call comes to. -/
structure Client.Retries (c : Client) (r : TextRequest) (m : Web.Remote) : Prop where
  /-- Where the input is too large or there is no key, nothing is sent. -/
  refused : inputLimit < inputSize r ∨ c.key? r = none →
    ∀ stream, ∃ e, c.opening r stream m = (.error e, m)
  /-- Nor is anything where no request can be built. -/
  unsendable : inputSize r ≤ inputLimit → ∀ key, c.key? r = some key →
    ∀ stream, request? (c.address stream) key (r.toJson stream) = none →
      c.opening r stream m = (.error (.transport .unsendable), m)
  /-- One can if something can be sent to its address and the key has no control character. -/
  sendable_iff : ∀ key stream,
    (∃ q, request? (c.address stream) key (r.toJson stream) = some q) ↔
      (∃ u, Web.Url.parse? (c.address stream) = some u ∧ u.isSendable = true) ∧
        ∀ ch ∈ key.toList, ch = '\t' ∨ 0x20 ≤ ch.toNat ∧ ch.toNat ≠ 0x7F
  /-- Else exchanges are made up to the last one, number `k`, all of them for the same request, and
  the call comes to what the last one comes to. -/
  repeated : inputSize r ≤ inputLimit → ∀ key, c.key? r = some key →
    ∀ stream q, request? (c.address stream) key (r.toJson stream) = some q →
      (q.CarriesKey key ∧ q.body = some (r.toJson stream)) ∧
      ∃ k, IsLast c.maxRetries (m.outcome (some q)) k ∧
        c.opening r stream m =
          (c.resultOf (m.outcome (some q) k), m.after (some q) (k + 1))
  /-- A failure is reported as transient where the exchange failed for a reason that may pass, and
  nowhere else. -/
  transient : ∀ o e, c.resultOf o = .error e → (e.isTransient = true ↔ IsTransient o)
  /-- It does not count what is reported when the attempts are spent. -/
  spent : ∀ key stream spent,
    attempts c (c.address stream) key (r.toJson stream) c.maxRetries spent (c.maxRetries + 1) 0
      none m = post c (c.address stream) key (r.toJson stream) c.maxRetries m
  /-- Nothing is sent once a text is open, however it ends. -/
  generate_eq : c.generate r m =
    (answered (fun a => .ok (textStream c.timeout a)) (c.opening r true m).1,
      (c.opening r true m).2)
  /-- Nor once a count is. -/
  count_eq : c.count r m = (answered c.tokens (c.opening r false m).1, (c.opening r false m).2)

/-- **A call is opened by one exchange and its repetitions**, or by none if its request cannot be
built. -/
theorem Client.retries (c : Client) (r : TextRequest) (m : Web.Remote) : c.Retries r m where
  refused h stream := by
    obtain ⟨e, he⟩ := Client.prepare_error h
    exact ⟨e, by rw [opening, he]⟩
  unsendable hsize key hkey stream hq := by
    rw [opening, Client.prepare_ok hsize hkey]
    exact post_of_request?_eq_none hq c.maxRetries m
  sendable_iff key stream := exists_request?_iff (c.address stream) key (r.toJson stream)
  repeated hsize _ hkey _ _ hq := ⟨carries_of_request hq, opening_repeats hsize hkey hq m⟩
  transient _ _ := isTransient_iff
  spent key stream spent := attempts_eq_post c _ key _ c.maxRetries spent m
  generate_eq := c.generate_eq r m
  count_eq := c.count_eq r m

/-- A client with a key, for a provider on the machine itself. -/
def Client.loopback : Client :=
  .of (some "sk-test") "http://[::1]" ⟨0⟩ standardRetries

theorem exists_request?_loopback (stream : Bool) (body : Json) :
    ∃ q, request? (Client.loopback.address stream) "sk-test" body = some q := by
  have hnull : ∀ stream,
      (request? (Client.loopback.address stream) "sk-test" .null).isSome = true := by
    decide +kernel
  exact (exists_request?_congr _ _ body .null).mpr (Option.isSome_iff_exists.mp (hnull stream))

/-- A server that fails once is asked again, and then no more. -/
theorem Client.retries_once :
    let r : TextRequest := ⟨"gpt-5.2", "explain", [], none, none, none, "explanation"⟩
    let m : Web.Remote := .ofOutcomes [.ok ⟨500, [], [], none⟩, .ok ⟨200, [], [], none⟩]
    loopback.Retries r m ∧ ∃ q, q.CarriesKey "sk-test" ∧ q.body = some (r.toJson true) ∧
      loopback.opening r true m =
        (.ok ⟨200, [], [], none⟩, ⟨[], .ok .blank, [q, q]⟩) := by
  intro r m
  have hretries : loopback.Retries r m := Client.retries loopback r m
  have hsize : inputSize r ≤ inputLimit := by decide +kernel
  have hkey : loopback.key? r = some "sk-test" := by decide +kernel
  obtain ⟨q, hq⟩ := exists_request?_loopback true (r.toJson true)
  obtain ⟨hcarries, k, hk, hopening⟩ := hretries.repeated hsize _ hkey true q hq
  have hlast : IsLast loopback.maxRetries (m.outcome (some q)) 1 := by
    refine ⟨by decide, ?_, Or.inl (Or.inl ⟨_, rfl, by decide⟩)⟩
    intro i hi
    obtain rfl : i = 0 := by omega
    rintro (⟨a, ha, hsuccess⟩ | hsettles)
    · cases ha
      simp at hsuccess
    · exact hsettles (Or.inr (Nat.le_refl _))
  obtain rfl : k = 1 := hk.unique hlast
  exact ⟨hretries, q, hcarries.1, hcarries.2, hopening⟩

/-- A key with a control character may not stand in a header, so that nothing is sent, although the
first answer would be a success. -/
theorem Client.opening_unsendable :
    let r : TextRequest := ⟨"gpt-5.2", "explain", [], none, some "a\x01b", none, "explanation"⟩
    let m : Web.Remote := .ofOutcomes [.ok .blank]
    inputSize r ≤ inputLimit ∧ loopback.key? r = some "a\x01b" ∧ Settles (.ok .blank) ∧
      ∀ stream, loopback.opening r stream m = (.error (.transport .unsendable), m) ∧
        m.sent = [] := by
  intro r m
  have hsize : inputSize r ≤ inputLimit := by decide +kernel
  have hkey : loopback.key? r = some "a\x01b" := by decide +kernel
  refine ⟨hsize, hkey, Or.inl ⟨_, rfl, by decide⟩, fun stream => ⟨?_, rfl⟩⟩
  have hnone : request? (loopback.address stream) "a\x01b" (r.toJson stream) = none := by
    rw [Option.eq_none_iff_forall_ne_some]
    intro q hq
    have hkey := ((exists_request?_iff _ _ _).mp ⟨q, hq⟩).2 '\x01' (by decide)
    revert hkey
    decide
  rw [opening, Client.prepare_ok hsize hkey]
  exact post_of_request?_eq_none hnone _ m

/-! ## A text and its count -/

/-- A server after a call for a text or for its count. -/
def Client.afterCall (c : Client) (r : TextRequest) (stream : Bool) (m : Web.Remote) :
    Web.Remote :=
  if stream then (c.generate r m).2 else (c.count r m).2

theorem Client.afterCall_eq (c : Client) (r : TextRequest) (stream : Bool) (m : Web.Remote) :
    c.afterCall r stream m = (c.opening r stream m).2 := by
  cases stream with
  | true => rw [afterCall, if_pos rfl, c.generate_eq]
  | false => rw [afterCall, if_neg nofun, c.count_eq]

/-- A call for the count of a text sends what a call for the text does: the same body, but for the
mark of a stream, with the same key. -/
structure Client.CountsAsSent (c : Client) (r : TextRequest) : Prop where
  /-- Where the input is too large or there is no key, neither sends anything. -/
  refused : inputLimit < inputSize r ∨ (credential r.apiKey).or c.defaultKey = none →
    ∀ stream m, c.afterCall r stream m = m
  /-- Nor does a call whose request cannot be built. -/
  unsendable : ∀ key, (credential r.apiKey).or c.defaultKey = some key →
    ∀ stream, request? (c.address stream) key (r.bodyOf stream) = none →
      ∀ m, c.afterCall r stream m = m
  /-- Else each sends its own body once at least, and nothing else. -/
  sends : inputSize r ≤ inputLimit → ∀ key, (credential r.apiKey).or c.defaultKey = some key →
    ∀ stream q, request? (c.address stream) key (r.bodyOf stream) = some q →
      (q.CarriesKey key ∧ q.body = some (r.bodyOf stream)) ∧
        ∀ m, ∃ n, (c.afterCall r stream m).sent = List.replicate (n + 1) q ++ m.sent

/-- **A count is asked for with the body and the key of the text**, where the text is not
limited. -/
theorem Client.countsAsSent (c : Client) {r : TextRequest} (h : r.maxOutputTokens = none) :
    c.CountsAsSent r where
  refused hr stream m := by
    obtain ⟨e, he⟩ := Client.prepare_error hr
    rw [afterCall_eq, opening, he]
  unsendable key hkey stream hq m := by
    rw [afterCall_eq, opening]
    by_cases hsize : inputSize r ≤ inputLimit
    · rw [Client.prepare_ok hsize hkey, TextRequest.toJson_eq_bodyOf h]
      exact congrArg Prod.snd (post_of_request?_eq_none hq c.maxRetries m)
    · obtain ⟨e, he⟩ := Client.prepare_error (c := c) (Or.inl (Nat.not_le.mp hsize))
      rw [he]
  sends hsize key hkey stream q hq := by
    refine ⟨carries_of_request hq, fun m => ?_⟩
    rw [← TextRequest.toJson_eq_bodyOf h] at hq
    obtain ⟨k, -, hopening⟩ := opening_repeats hsize hkey hq m
    exact ⟨k, by rw [afterCall_eq, hopening]; rfl⟩

end Provider

end ArchDiagram
