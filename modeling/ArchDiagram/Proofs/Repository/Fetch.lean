import ArchDiagram.Proofs.Provider.Retry
import ArchDiagram.Proofs.Repository.Answer

/-!
# How a snapshot is fetched

The host is asked for the repository, for the tree of the branch that this answer names, and for the
README, in this order.  The first question that fails ends the attempt with its failure, and nothing
more is sent; a snapshot is the three answers.  Each question is one exchange: where it is redirected,
what counts is the answer that the exchange ends with.

* `Host.comesTo`: what a question comes to.
* `Host.Course`: the questions of an attempt, and what it comes to.
* `Host.fetch_course`: **an attempt takes its course**.
* `Authorizes`: whose token a request carries.
* `Host.of_fetches`: **how a snapshot is fetched, and what fails it**.
-/

namespace ArchDiagram

namespace Web

theorem url_of_buildRequest {method url : String} {headers : List (String × String)}
    {body : Option Json} {r : Request} (h : buildRequest? method url headers body = some r) :
    r.method = method ∧ Url.parse? url = some r.url := by
  simp only [buildRequest?, Option.bind_eq_bind, Option.bind_eq_some_iff] at h
  obtain ⟨u, hu, h⟩ := h
  split at h
  · cases h
    exact ⟨rfl, hu⟩
  · cases h

namespace Remote

def afterAll (m : Remote) (qs : List Request) : Remote :=
  ⟨m.outcomes.drop qs.length, m.later, qs.reverse ++ m.sent⟩

theorem afterAll_nil (m : Remote) : m.afterAll [] = m :=
  rfl

theorem outcome_afterAll (m : Remote) (qs : List Request) (q? : Option Request) :
    (m.afterAll qs).outcome q? 0 = m.outcome q? qs.length := by
  cases q? with
  | none => rfl
  | some q => simp [afterAll, outcome]

theorem after_afterAll (m : Remote) (qs : List Request) (q? : Option Request) :
    (m.afterAll qs).after q? 1 = m.afterAll (qs ++ q?.toList) := by
  cases q? with
  | none => simp [afterAll, after]
  | some q => simp [afterAll, after]

end Remote

end Web

namespace Repository

/-! ## Whose token a request carries -/

/-- Nothing is left of a token once it is trimmed, if there is one at all. -/
def IsSpent (token : Option String) : Prop :=
  ∀ t, token = some t → Text.trim t = ""

/-- The token that authorizes a request: the caller's, or else the configured one, or else none. -/
inductive Authorizes (configured credential : Option String) : Option String → Prop
  | caller {t : String} (h : credential = some t) (hne : Text.trim t ≠ "") :
      Authorizes configured credential (some (Text.trim t))
  | configured {t : String} (hspent : IsSpent credential) (h : configured = some t)
      (hne : Text.trim t ≠ "") : Authorizes configured credential (some (Text.trim t))
  | nobody (hspent : IsSpent credential) (hconfigured : IsSpent configured) :
      Authorizes configured credential none

theorem usableToken_eq_none_iff {token : Option String} :
    usableToken token = none ↔ IsSpent token := by
  cases token <;> simp [usableToken, IsSpent, Option.filter]

theorem usableToken_eq_some_iff {token : Option String} {t : String} :
    usableToken token = some t ↔ ∃ s, token = some s ∧ Text.trim s ≠ "" ∧ t = Text.trim s := by
  cases token with
  | none => simp [usableToken]
  | some s =>
    by_cases hs : Text.trim s = ""
    · simp [usableToken, Option.filter, hs]
    · rw [usableToken, Option.map_some, Option.filter_some_pos (by simpa using hs)]
      constructor
      · rintro ⟨⟩
        exact ⟨s, rfl, hs, rfl⟩
      · rintro ⟨_, ⟨⟩, -, rfl⟩
        rfl

/-- **The token of a request** is the caller's, or else the configured one. -/
theorem Host.authorizes_tokenFor (token : Option String) (apiUrl : String)
    (credential : Option String) :
    Authorizes token credential ((Host.of token apiUrl).tokenFor credential) := by
  have hconfigured : (Host.of token apiUrl).token = usableToken token := rfl
  rw [tokenFor, hconfigured]
  cases hc : usableToken credential with
  | some t =>
    obtain ⟨s, hs, hne, rfl⟩ := usableToken_eq_some_iff.mp hc
    exact .caller hs hne
  | none =>
    have hspent := usableToken_eq_none_iff.mp hc
    cases ht : usableToken token with
    | some t =>
      obtain ⟨s, hs, hne, rfl⟩ := usableToken_eq_some_iff.mp ht
      exact .configured hspent hs hne
    | none => exact .nobody hspent (usableToken_eq_none_iff.mp ht)

theorem lookup_headers (token : Option String) :
    (headers token).lookup "authorization" = token.map ("token " ++ ·) := by
  cases token <;> rfl

section Attempt

variable (h : Host) (owner repo : String) (credential : Option String) (m : Web.Remote)

/-! ## Questions -/

def Host.address : Question → String
  | .repository => h.apiUrl ++ "/repos/" ++ owner ++ "/" ++ repo
  | .tree branch =>
    h.apiUrl ++ "/repos/" ++ owner ++ "/" ++ repo ++ "/git/trees/" ++ branch ++ "?recursive=1"
  | .readme => h.apiUrl ++ "/repos/" ++ owner ++ "/" ++ repo ++ "/readme"

/-- The request for a question, none if it cannot be built. -/
def Host.request? (q : Question) : Option Web.Request :=
  Web.buildRequest? "GET" (h.address owner repo q) (headers (h.tokenFor credential)) none

/-- What a question comes to that is asked after `i` others. -/
def Host.comesTo (i : Nat) (q : Question) : Except SnapshotError String :=
  q.judge (m.outcome (h.request? owner repo credential q) i)

def Host.ask (q : Question) : Except SnapshotError String × Web.Remote :=
  match q with
  | .repository => h.branch owner repo (h.tokenFor credential) m
  | .tree branch => h.tree owner repo branch (h.tokenFor credential) m
  | .readme => h.readme owner repo (h.tokenFor credential) m

theorem getJson_eq {α : Type} (read : Json → Option α) (url : String) (token : Option String)
    (missing : String) {q? : Option Web.Request}
    (hq : Web.buildRequest? "GET" url (headers token) none = q?) :
    getJson read url token missing m =
      (readAnswer read missing (m.outcome q? 0), m.after q? 1) := by
  rw [getJson, hq]
  cases q? with
  | none => rfl
  | some q =>
    dsimp only
    rw [Web.Remote.send_eq]
    cases m.outcome (some q) 0 with
    | error f => rfl
    | ok r =>
      simp only [readAnswer, payload?]
      split
      · rfl
      · split
        · rfl
        · cases (r.octets?.bind Json.ofOctets?).bind read <;> rfl

theorem Host.ask_eq (q : Question) : h.ask owner repo credential m q =
    (h.comesTo owner repo credential m 0 q, m.after (h.request? owner repo credential q) 1) := by
  rw [comesTo]
  generalize hq : h.request? owner repo credential q = q?
  rw [request?] at hq
  cases q with
  | repository =>
    rw [address] at hq
    rw [ask, branch, getJson_eq m branchOf? _ _ _ hq, Question.judge_repository_eq]
    rfl
  | tree b =>
    rw [address] at hq
    rw [ask, tree, getJson_eq m pathsOf? _ _ _ hq, Question.judge_tree_eq, Question.absent]
    cases readAnswer pathsOf? "Could not fetch repository file tree." (m.outcome q? 0) <;> rfl
  | readme =>
    have habsent : SnapshotError.missingReadme.message = Question.readme.absent := rfl
    rw [address] at hq
    rw [ask, readme, getJson_eq m readmeOf? _ _ _ hq, Question.judge_readme_eq, habsent]
    cases readAnswer readmeOf? Question.readme.absent (m.outcome q? 0) <;> rfl

theorem Host.request?_of_ok {i : Nat} {q : Question} {s : String}
    (hs : h.comesTo owner repo credential m i q = .ok s) :
    ∃ request, h.request? owner repo credential q = some request := by
  cases hq : h.request? owner repo credential q with
  | some request => exact ⟨request, rfl⟩
  | none =>
    rw [comesTo, hq] at hs
    cases hs

/-! ## Attempts -/

/-- The questions of an attempt in their order, and what the attempt comes to: its last question is
the first that fails, or the README. -/
inductive Host.Course : List Question → Except SnapshotError Snapshot → Prop
  | repository {e : SnapshotError}
      (he : h.comesTo owner repo credential m 0 .repository = .error e) :
      Course [.repository] (.error e)
  | tree {branch : String} {e : SnapshotError}
      (hbranch : h.comesTo owner repo credential m 0 .repository = .ok branch)
      (he : h.comesTo owner repo credential m 1 (.tree branch) = .error e) :
      Course [.repository, .tree branch] (.error e)
  | readme {branch files : String} {e : SnapshotError}
      (hbranch : h.comesTo owner repo credential m 0 .repository = .ok branch)
      (hfiles : h.comesTo owner repo credential m 1 (.tree branch) = .ok files)
      (he : h.comesTo owner repo credential m 2 .readme = .error e) :
      Course [.repository, .tree branch, .readme] (.error e)
  | snapshot {branch files text : String}
      (hbranch : h.comesTo owner repo credential m 0 .repository = .ok branch)
      (hfiles : h.comesTo owner repo credential m 1 (.tree branch) = .ok files)
      (htext : h.comesTo owner repo credential m 2 .readme = .ok text) :
      Course [.repository, .tree branch, .readme] (.ok ⟨branch, files, text⟩)

def Host.afterAsking (asked : List Question) : Web.Remote :=
  m.afterAll (asked.filterMap (h.request? owner repo credential))

/-- A question that is asked after others, all of which were sent. -/
theorem Host.ask_afterAsking (asked : List Question)
    (hsent : ∀ q ∈ asked, ∃ request, h.request? owner repo credential q = some request)
    (q : Question) :
    h.ask owner repo credential (h.afterAsking owner repo credential m asked) q =
      (h.comesTo owner repo credential m asked.length q,
        h.afterAsking owner repo credential m (asked ++ [q])) := by
  have hlength : (asked.filterMap (h.request? owner repo credential)).length = asked.length := by
    rw [List.filterMap_length_eq_length]
    exact fun q hq => Option.isSome_iff_exists.mpr (hsent q hq)
  have hlast : [q].filterMap (h.request? owner repo credential) =
      (h.request? owner repo credential q).toList := by
    cases hq : h.request? owner repo credential q <;> simp [hq]
  rw [ask_eq, comesTo, comesTo, afterAsking, afterAsking, Web.Remote.outcome_afterAll,
    Web.Remote.after_afterAll, hlength, List.filterMap_append, hlast]

/-- **An attempt takes its course**, and only the questions of its course are sent. -/
theorem Host.fetch_course : ∃ asked,
    h.Course owner repo credential m asked (h.fetch owner repo credential m).1 ∧
      (h.fetch owner repo credential m).2 = h.afterAsking owner repo credential m asked := by
  have hfirst := h.ask_afterAsking owner repo credential m [] (by simp) .repository
  rw [ask, afterAsking, List.filterMap_nil, Web.Remote.afterAll_nil] at hfirst
  rw [fetch, hfirst]
  cases hbranch : h.comesTo owner repo credential m 0 .repository with
  | error e =>
    dsimp only
    exact ⟨_, .repository hbranch, rfl⟩
  | ok branch =>
    have hsent₀ := h.request?_of_ok owner repo credential m hbranch
    have hsecond := h.ask_afterAsking owner repo credential m [.repository]
      (by simpa using hsent₀) (.tree branch)
    rw [ask] at hsecond
    simp only [List.nil_append, hsecond]
    cases hfiles : h.comesTo owner repo credential m 1 (.tree branch) with
    | error e =>
      dsimp only
      exact ⟨_, .tree hbranch hfiles, rfl⟩
    | ok files =>
      have hsent₁ := h.request?_of_ok owner repo credential m hfiles
      have hthird := h.ask_afterAsking owner repo credential m [.repository, .tree branch]
        (by simpa using ⟨hsent₀, hsent₁⟩) .readme
      rw [ask] at hthird
      simp only [List.singleton_append, hthird]
      cases htext : h.comesTo owner repo credential m 2 .readme with
      | error e =>
        dsimp only
        exact ⟨_, .readme hbranch hfiles htext, rfl⟩
      | ok text =>
        dsimp only
        exact ⟨_, .snapshot hbranch hfiles htext, rfl⟩

variable {h owner repo credential m}

theorem Host.Course.nodup {asked : List Question} {result : Except SnapshotError Snapshot}
    (hc : h.Course owner repo credential m asked result) : asked.Nodup := by
  cases hc <;> simp

theorem Host.Course.unique {asked asked' : List Question}
    {result result' : Except SnapshotError Snapshot}
    (hc : h.Course owner repo credential m asked result)
    (hc' : h.Course owner repo credential m asked' result') :
    asked = asked' ∧ result = result' := by
  cases hc <;> cases hc' <;> simp_all

/-- An attempt is what any course makes of it. -/
theorem Host.Course.fetch_eq {asked : List Question} {result : Except SnapshotError Snapshot}
    (hc : h.Course owner repo credential m asked result) :
    h.fetch owner repo credential m = (result, h.afterAsking owner repo credential m asked) := by
  obtain ⟨asked', hcourse, hsent⟩ := h.fetch_course owner repo credential m
  obtain ⟨rfl, hresult⟩ := hc.unique hcourse
  rw [hresult, ← hsent]

theorem Host.Course.eq_ok_iff {asked : List Question} {result : Except SnapshotError Snapshot}
    (hc : h.Course owner repo credential m asked result) (s : Snapshot) : result = .ok s ↔
      h.comesTo owner repo credential m 0 .repository = .ok s.branch ∧
        h.comesTo owner repo credential m 1 (.tree s.branch) = .ok s.fileTree ∧
          h.comesTo owner repo credential m 2 .readme = .ok s.readme := by
  constructor
  · rintro rfl
    cases hc with
    | snapshot hbranch hfiles htext => exact ⟨hbranch, hfiles, htext⟩
  · rintro ⟨hb, hf, ht⟩
    exact (hc.unique (.snapshot hb hf ht)).2

end Attempt

/-! ## What fails an attempt -/

/-- How a snapshot is fetched from a host for which a token is configured. -/
structure Host.Fetches (h : Host) (configured : Option String) (owner repo : String)
    (credential : Option String) (m : Web.Remote) : Prop where
  /-- The questions are asked in their order and none of them twice, up to the first that fails.
  The attempt comes to its failure, and nothing else is sent. -/
  course : ∃ asked, asked.Nodup ∧
    h.Course owner repo credential m asked (h.fetch owner repo credential m).1 ∧
      (h.fetch owner repo credential m).2 = h.afterAsking owner repo credential m asked
  /-- A snapshot is the three answers. -/
  snapshot : ∀ s, (h.fetch owner repo credential m).1 = .ok s ↔
    h.comesTo owner repo credential m 0 .repository = .ok s.branch ∧
      h.comesTo owner repo credential m 1 (.tree s.branch) = .ok s.fileTree ∧
        h.comesTo owner repo credential m 2 .readme = .ok s.readme
  /-- All requests are authorized alike: by the caller's token, or else by the configured one. -/
  authorized : ∃ key, Authorizes configured credential key ∧
    ∀ q request, h.request? owner repo credential q = some request →
      request.headers.lookup "authorization" = key.map ("token " ++ ·)
  /-- The tree that is asked for is that of the branch that is named, and of `main` if none is. -/
  branch : ∀ i b, h.comesTo owner repo credential m i .repository = .ok b →
    ∃ r j, m.outcome (h.request? owner repo credential .repository) i = .ok r ∧
      payload? r = some j ∧ (NamesBranch j b ∨ (∀ b', ¬ NamesBranch j b') ∧ b = "main")
  /-- The host knows nothing of what it is asked if and only if the status says so. -/
  notFound : ∀ i q message,
    h.comesTo owner repo credential m i q = .error (.notFound message) ↔
      message = q.absent ∧
        ∃ r, m.outcome (h.request? owner repo credential q) i = .ok r ∧ r.status = 404
  /-- Any other status that is no success is reported with the body. -/
  unsuccessful : ∀ i q status body,
    h.comesTo owner repo credential m i q = .error (.unsuccessful status body) ↔
      ∃ r, m.outcome (h.request? owner repo credential q) i = .ok r ∧
        r.status = status ∧ r.text = body ∧ status ≠ 404 ∧ ¬ IsSuccess status
  /-- A question has no answer if and only if its request cannot be built or its exchange fails. -/
  unanswered : ∀ i q f, h.comesTo owner repo credential m i q = .error (.transport f) ↔
    m.outcome (h.request? owner repo credential q) i = .error f
  /-- A success fails a question only if it cannot be read, lists nothing or has no README. -/
  rejected : ∀ i q r, m.outcome (h.request? owner repo credential q) i = .ok r →
    IsSuccess r.status →
      ∀ e, h.comesTo owner repo credential m i q = .error e ↔ q.Rejects r e

/-- **How a snapshot is fetched, and what fails it.** -/
theorem Host.of_fetches (token : Option String) (apiUrl owner repo : String)
    (credential : Option String) (m : Web.Remote) :
    (Host.of token apiUrl).Fetches token owner repo credential m where
  course := by
    obtain ⟨asked, hcourse, hsent⟩ := (Host.of token apiUrl).fetch_course owner repo credential m
    exact ⟨asked, hcourse.nodup, hcourse, hsent⟩
  snapshot s := by
    obtain ⟨asked, hcourse, -⟩ := (Host.of token apiUrl).fetch_course owner repo credential m
    exact hcourse.eq_ok_iff s
  authorized := by
    refine ⟨_, Host.authorizes_tokenFor token apiUrl credential, ?_⟩
    intro q request hq
    rw [(Web.eq_of_buildRequest hq).1, lookup_headers]
  branch _ _ h := Question.judge_repository h
  notFound _ _ _ := Question.judge_eq_notFound_iff
  unsuccessful _ _ _ _ := Question.judge_eq_unsuccessful_iff
  unanswered _ _ _ := Question.judge_eq_transport_iff
  rejected i q r hr hs e := by
    rw [Host.comesTo, hr]
    exact Question.judge_eq_error_iff hs e

/-! ## Requests that cannot be built -/

/-- No request carries a token that may not stand in a header. -/
theorem Host.request?_eq_none {h : Host} {owner repo : String} {credential : Option String}
    {t : String} (ht : h.tokenFor credential = some t)
    (hheader : Web.isHeaderValue ("token " ++ t) = false) (q : Question) :
    h.request? owner repo credential q = none := by
  rw [request?, Web.buildRequest?, ht]
  simp [headers, hheader]

/-- Whoever hands over such a token has no answer, and nothing is sent. -/
theorem Host.fetch_of_request?_eq_none {h : Host} {owner repo : String} {credential : Option String}
    {m : Web.Remote} (hq : h.request? owner repo credential .repository = none) :
    h.fetch owner repo credential m = (.error (.transport .unsendable), m) := by
  have hask := h.ask_eq owner repo credential m .repository
  rw [ask, comesTo, hq] at hask
  rw [fetch, hask]
  rfl

def goodAnswers : List Web.Response :=
  ["\x7b\"default_branch\":\"main\"\x7d", "\x7b\"tree\":[\x7b\"path\":\"src/main.rs\"\x7d]\x7d",
    "\x7b\"content\":\"IyBoaQ==\",\"encoding\":\"base64\"\x7d"].map fun body =>
      ⟨200, [], [Utf8.encode body], none⟩

/-- A token with a control character fails the first question, although every answer is good. -/
theorem Host.fetch_unsendable :
    (Host.of none "https://api.github.com").fetch "acme" "demo" (some "a\x01b")
        (.ofOutcomes (goodAnswers.map .ok)) =
      (.error (.transport .unsendable), .ofOutcomes (goodAnswers.map .ok)) ∧
    List.zipWith Question.judge [.repository, .tree "main", .readme] (goodAnswers.map .ok) =
      [.ok "main", .ok "src/main.rs", .ok "# hi"] := by
  constructor
  · have htoken : (Host.of none "https://api.github.com").tokenFor (some "a\x01b") =
        some "a\x01b" := by
      decide +kernel
    exact fetch_of_request?_eq_none (request?_eq_none htoken (by decide) _)
  · rfl

/-! ## Requests that can be built -/

def Host.loopback : Host :=
  .of none "http://[::1]"

theorem Host.request?_loopback : ∀ q ∈ [.repository, .tree "main", .readme],
    ∃ request, loopback.request? "acme" "demo" none q = some request := by
  have hsent : ∀ q ∈ [.repository, .tree "main", .readme],
      (loopback.request? "acme" "demo" none q).isSome = true := by
    decide +kernel
  exact fun q hq => Option.isSome_iff_exists.mp (hsent q hq)

end Repository

end ArchDiagram
