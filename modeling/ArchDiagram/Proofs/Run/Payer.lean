import ArchDiagram.Proofs.Provider.Retry
import ArchDiagram.Proofs.Run.Frame
import ArchDiagram.Proofs.Run.View
import ArchDiagram.Service

/-!
# Who pays for a run

Between its two limits the gate only lets runs pass that bring a key, and the provider is asked with
the key of the run.  The gate takes any text for a key, though, and the provider's client trims it
and falls back to the configured one where nothing is left.  So the caller pays for a run of this
size if and only if the key is not blank.

* `Team.Asks`: whatever is counted or generated, the provider is asked for it by a client.
* `estimate?`: the estimate that the gate decides on.
* `Run.Drawing.gate_of_generated`: a run that asks for a text has passed the gate.
* `execute_payer`: **which key the requests of a run carry**.
-/

namespace ArchDiagram

variable {σ : Type}

/-! ## The provider among the collaborators -/

/-- The provider, a server within the state of the collaborators, is sent what the client `c` sends
when it is asked for a count or a text, and nothing else. -/
structure Team.Asks (t : Team σ) (c : Provider.Client) (provider : σ → Web.Remote) : Prop where
  fetch : ∀ o r k s, provider (t.fetch o r k s).2 = provider s
  count : ∀ q s, provider (t.count q s).2 = (c.count q (provider s)).2
  generate : ∀ q s, provider (t.generate q s).2 = (c.generate q (provider s)).2
  check : ∀ d s, provider (t.check d s).2 = provider s

theorem Settings.team_asks (s : Settings) (programs : Programs) :
    (s.team programs).Asks s.providerClient Services.provider where
  fetch _ _ _ _ := by rw [team]
  count _ _ := by rw [team]
  generate _ _ := by rw [team]
  check _ _ := rfl

/-- The provider as a client asks it, beside a given snapshot and a checker that accepts whatever it
is given. -/
def Team.ofClient (s : Snapshot) (c : Provider.Client) : Team Web.Remote where
  fetch _ _ _ m := (.ok s, m)
  count := c.count
  generate := c.generate
  check _ m := (.ok .accepted, m)

theorem Team.ofClient_asks (s : Snapshot) (c : Provider.Client) :
    (Team.ofClient s c).Asks c fun m => m :=
  ⟨fun _ _ _ _ => rfl, fun _ _ => rfl, fun _ _ => rfl, fun _ _ => rfl⟩

/-- Whatever the collaborators are asked, requests are sent that are paid for with the key. -/
theorem Team.Asks.moves {t : Team σ} {c : Provider.Client} {provider : σ → Web.Remote}
    (ht : t.Asks c provider) (apiKey : Option String) :
    t.Moves apiKey fun s s' => Web.Remote.Sends (c.Pays apiKey) (provider s) (provider s') where
  refl s := .refl _ _
  trans h h' := h.trans h'
  fetch o r k s := by
    rw [ht.fetch]
    exact .refl _ _
  count q s hq := by
    rw [ht.count, ← hq]
    exact c.count_sends q (provider s)
  generate q s hq := by
    rw [ht.generate, ← hq]
    exact c.generate_sends q (provider s)
  check d s := by
    rw [ht.check]
    exact .refl _ _

/-! ## The gate -/

/-- The estimate that the gate of a run decides on, read off its steps. -/
def estimate? : List Step → Option Nat
  | .fetch _ _ _ (.ok _) :: .count _ (.ok n) :: _ => some n
  | .fetch _ _ _ (.ok s) :: .count _ (.error _) :: _ =>
    some (Gate.estimateOf (s.fileTree ++ "\n" ++ s.readme))
  | _ => none

theorem Run.Measuring.estimate_eq {p : Setting σ} {s : Snapshot} {apiKey : Option String}
    {steps : List Step} {n : Nat} (h : Run.Measuring p s apiKey steps (.ok n)) (o r : String)
    (k : Option String) (rest : List Step) :
    estimate? (.fetch o r k (.ok s) :: (steps ++ rest)) = some n := by
  cases h <;> rfl

/-- A run that asks for a text has passed the gate. -/
theorem Run.Drawing.gate_of_generated {p : Setting σ} {r : DiagramRequest} {steps : List Step}
    {out : Except Halt Event} (h : Run.Drawing p r steps out) (hg : generated steps ≠ [])
    (rest : List Step) :
    ∃ n, estimate? (steps ++ rest) = some n ∧ Gate.decide p.policy n r.apiKey.isSome = none := by
  cases h with
  | unfetched _ => exact absurd rfl hg
  | unmeasured hm => exact absurd hm.generated_eq hg
  | unheard hm => exact absurd hm.generated_eq hg
  | @rejected s m n x hm hd =>
    have hm' := hm.generated_eq
    refine absurd ?_ hg
    show generated (m ++ [.emit startedEvent]) = []
    rw [generated_append, hm']
    rfl
  | @passed s m steps n out hm hd _ =>
    refine ⟨n, ?_, hd⟩
    rw [List.cons_append, List.append_assoc]
    exact hm.estimate_eq _ _ _ _

/-- Between its limits the gate lets nobody pass without a key. -/
theorem Gate.isSome_of_decide {policy : Policy} {n : Nat} {hasKey : Bool}
    (hd : Gate.decide policy n hasKey = none) (hlow : policy.threshold < n)
    (hhigh : n < policy.limit) : hasKey = true := by
  cases hasKey with
  | true => rfl
  | false =>
    rw [Gate.decide, if_neg (by omega), if_pos ⟨hlow, hhigh, rfl⟩] at hd
    cases hd

/-! ## The key -/

theorem Provider.ne_empty_of_credential {s : Option String} {key : String}
    (h : Provider.credential s = some key) : key ≠ "" := by
  have hkey := (Option.filter_eq_some_iff.mp h).2
  simpa using hkey

theorem Provider.credential_some (k : String) :
    Provider.credential (some k) = if Text.trim k = "" then none else some (Text.trim k) := by
  by_cases hk : Text.trim k = "" <;> simp [Provider.credential, hk]

/-- What is paid for with a given key is paid for by the caller if and only if the key is not blank,
and with another key that is configured if and only if it is. -/
theorem carriesKey_of_pays {configured : Option String} {baseUrl : String} {timeout : Duration}
    {retries : Nat} {k : String} {q : Web.Request}
    (h : (Provider.Client.of configured baseUrl timeout retries).Pays (some k) q) :
    (q.CarriesKey (Text.trim k) ↔ Text.trim k ≠ "") ∧
      ∀ d, Provider.credential configured = some d → d ≠ Text.trim k →
        (q.CarriesKey d ↔ Text.trim k = "") := by
  obtain ⟨key, hkey, hq⟩ := h
  rw [Provider.credential_some] at hkey
  by_cases hk : Text.trim k = ""
  · rw [if_pos hk, Option.none_or] at hkey
    have hne : key ≠ "" := Provider.ne_empty_of_credential hkey
    refine ⟨⟨fun hc => ?_, fun hc => absurd hk hc⟩, ?_⟩
    · rw [hk] at hc
      exact absurd (hq.unique hc) hne
    · intro d hd _
      have hdk : d = key := Option.some.inj (hd.symm.trans hkey)
      exact ⟨fun _ => hk, fun _ => hdk ▸ hq⟩
  · rw [if_neg hk, Option.some_or] at hkey
    have hkk : Text.trim k = key := Option.some.inj hkey
    subst hkk
    refine ⟨⟨fun _ => hk, fun _ => hq⟩, ?_⟩
    intro d _ hdk
    exact ⟨fun hc => absurd (hc.unique hq) hdk, fun hc => absurd hc hk⟩

/-! ## Whole runs -/

theorem DiagramRequest.ne_empty_of_fault {r : DiagramRequest} {k : String} (hr : r.fault? = none)
    (hk : r.apiKey = some k) : k ≠ "" := by
  rintro rfl
  by_cases ho : r.owner = ""
  · simp [fault?, ho] at hr
  · by_cases hp : r.repo = "" <;> simp [fault?, hk, ho, hp] at hr

/-- **Who pays for a run between the two limits of the gate.**  A run that asks for a text brought a
key.  Whatever it sends to the provider, for the count and for the texts, carries this key, trimmed,
if and only if the key is not blank, and a configured one that differs from it if and only if it
is. -/
theorem execute_payer (p : Setting σ) (l : Listener) (r : DiagramRequest) (s : σ)
    {configured : Option String} {baseUrl : String} {timeout : Duration} {retries : Nat}
    {provider : σ → Web.Remote}
    (hp : p.team.Asks (.of configured baseUrl timeout retries) provider) (hr : r.fault? = none)
    {n : Nat} (hn : estimate? (execute p l r ⟨s, []⟩).history.reverse = some n)
    (hlow : p.policy.threshold < n) (hhigh : n < p.policy.limit)
    (hg : generated (execute p l r ⟨s, []⟩).history.reverse ≠ []) :
    ∃ k new, r.apiKey = some k ∧ k ≠ "" ∧
      (provider (execute p l r ⟨s, []⟩).state).sent = new ++ (provider s).sent ∧
      ∀ q ∈ new, (q.CarriesKey (Text.trim k) ↔ Text.trim k ≠ "") ∧
        ∀ d, Provider.credential configured = some d → d ≠ Text.trim k →
          (q.CarriesKey d ↔ Text.trim k = "") := by
  obtain ⟨steps, out, hx⟩ := executed p l r s
  rw [hx.all_eq] at hn hg
  rw [generated_append, generated_closing, List.append_nil] at hg
  obtain ⟨n', hn', hd⟩ := hx.course.gate_of_generated hg (closing l steps out)
  have hnn : n' = n := Option.some.inj (hn'.symm.trans hn)
  subst hnn
  obtain ⟨k, hk⟩ := Option.isSome_iff_exists.mp (Gate.isSome_of_decide hd hlow hhigh)
  have hsends := execute_moves (hp.moves r.apiKey) l ⟨s, []⟩
  obtain ⟨new, hnew, hpaid⟩ := hsends
  refine ⟨k, new, hk, DiagramRequest.ne_empty_of_fault hr hk, hnew, ?_⟩
  intro q hq
  rw [hk] at hpaid
  exact carriesKey_of_pays (hpaid q hq)

theorem execute_payer_own :
    let c := Provider.Client.of (some "sk-default") "http://[::1]" ⟨0⟩ 0
    let p : Setting Web.Remote :=
      ⟨.ofClient ⟨"main", "a.py", "b"⟩ c, ⟨1, 1000⟩, "o4-mini", ⟨0⟩, 3⟩
    let r : DiagramRequest := ⟨"octo", "demo", some " sk-own ", none⟩
    r.fault? = none ∧
      estimate? (execute p .loyal r ⟨.unreachable, []⟩).history.reverse = some 2 ∧
      generated (execute p .loyal r ⟨.unreachable, []⟩).history.reverse ≠ [] ∧
      ∃ new, (execute p .loyal r ⟨.unreachable, []⟩).state.sent = new ∧
        ∀ q ∈ new, q.CarriesKey "sk-own" ∧ ¬ q.CarriesKey "sk-default" := by
  intro c p r
  have hr : r.fault? = none := by decide
  have hrun : estimate? (execute p .loyal r ⟨.unreachable, []⟩).history.reverse = some 2 ∧
      generated (execute p .loyal r ⟨.unreachable, []⟩).history.reverse ≠ [] := by
    decide +kernel
  obtain ⟨k, new, hk, -, hnew, hkeys⟩ := execute_payer p .loyal r .unreachable
    (Team.ofClient_asks _ _) hr hrun.1 (by decide) (by decide) hrun.2
  cases hk
  have htrim : Text.trim " sk-own " = "sk-own" := by decide +kernel
  have hdefault : Provider.credential (some "sk-default") = some "sk-default" := by decide +kernel
  rw [htrim] at hkeys
  refine ⟨hr, hrun.1, hrun.2, new, hnew.trans (List.append_nil new), fun q hq => ?_⟩
  refine ⟨(hkeys q hq).1.mpr (by decide), ?_⟩
  intro hc
  exact absurd (((hkeys q hq).2 _ hdefault (by decide)).mp hc) (by decide)

theorem execute_payer_blank :
    let c := Provider.Client.of (some "sk-default") "http://[::1]" ⟨0⟩ 0
    let p : Setting Web.Remote :=
      ⟨.ofClient ⟨"main", "a.py", "b"⟩ c, ⟨1, 1000⟩, "o4-mini", ⟨0⟩, 3⟩
    let r : DiagramRequest := ⟨"octo", "demo", some " ", none⟩
    let w := execute p .loyal r ⟨.unreachable, []⟩
    r.fault? = none ∧ estimate? w.history.reverse = some 2 ∧ generated w.history.reverse ≠ [] ∧
      ∃ q ∈ w.state.sent, q.url.target = "/responses" ∧ q.CarriesKey "sk-default" ∧
        ¬ q.CarriesKey (Text.trim " ") := by
  decide +kernel

end ArchDiagram
