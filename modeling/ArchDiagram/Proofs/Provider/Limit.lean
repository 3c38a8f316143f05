import ArchDiagram.Proofs.Provider.Retry
import Mathlib.Data.String.Basic

/-!
# The greatest input of a request

A call whose input is too large is refused on the spot, with nothing sent.  The limit is one on the
octets of the input, while it is reported as one on its characters.  Both count alike where all
characters are ASCII; otherwise a character is up to four octets, so an input with too many octets
may have few enough characters.

* `inputChars`, `inputChars_le`, `inputSize_le`: characters and octets of an input.
* `IsRefused`, `IsSent`: calls that are refused on the spot, and calls that are made.
* `Client.limits`: **which calls are refused, and for which the characters would decide alike**.
* `Client.refuses_accented`: an input with few enough characters that is refused.
-/

namespace ArchDiagram

namespace Text

/-! ## Octets and characters -/

theorem length_le_utf8Len (cs : List Char) : cs.length ≤ String.utf8Len cs := by
  induction cs with
  | nil => exact Nat.le_refl 0
  | cons c cs ih =>
    have hpos := c.utf8Size_pos
    rw [List.length_cons, String.utf8Len_cons]
    omega

theorem utf8Len_le (cs : List Char) : String.utf8Len cs ≤ 4 * cs.length := by
  induction cs with
  | nil => exact Nat.le_refl 0
  | cons c cs ih =>
    have hfour := c.utf8Size_le_four
    rw [List.length_cons, String.utf8Len_cons]
    omega

/-- It is one octet if it is ASCII, and only then. -/
theorem utf8Len_eq_length_iff (cs : List Char) :
    String.utf8Len cs = cs.length ↔ ∀ c ∈ cs, c.val ≤ 127 := by
  induction cs with
  | nil => simp
  | cons c cs ih =>
    have hpos := c.utf8Size_pos
    have hle := length_le_utf8Len cs
    rw [List.forall_mem_cons, ← ih, ← Char.utf8Size_eq_one_iff, List.length_cons,
      String.utf8Len_cons]
    omega

theorem utf8Len_replicate (c : Char) (n : Nat) :
    String.utf8Len (List.replicate n c) = n * c.utf8Size := by
  induction n with
  | zero => simp
  | succ n ih => rw [List.replicate_succ, String.utf8Len_cons, ih, Nat.succ_mul]

end Text

namespace Provider

/-! ## The input of a request -/

def inputText (r : TextRequest) : List Char :=
  r.instructions.toList ++ r.sections.flatMap (·.value.toList)

def inputChars (r : TextRequest) : Nat :=
  (inputText r).length

theorem foldl_utf8ByteSize (n : Nat) (ss : List Section) :
    ss.foldl (fun n s => n + s.value.utf8ByteSize) n =
      n + String.utf8Len (ss.flatMap (·.value.toList)) := by
  induction ss generalizing n with
  | nil => rfl
  | cons s ss ih =>
    rw [List.foldl_cons, ih, List.flatMap_cons, String.utf8Len_append, String.utf8Len_toList,
      Nat.add_assoc]

theorem inputSize_eq (r : TextRequest) : inputSize r = String.utf8Len (inputText r) := by
  rw [inputSize, foldl_utf8ByteSize, inputText, String.utf8Len_append, String.utf8Len_toList]

theorem inputChars_le (r : TextRequest) : inputChars r ≤ inputSize r := by
  rw [inputSize_eq]
  exact Text.length_le_utf8Len (inputText r)

theorem inputSize_le (r : TextRequest) : inputSize r ≤ 4 * inputChars r := by
  rw [inputSize_eq]
  exact Text.utf8Len_le (inputText r)

/-- The octets of an input are as many as its characters if and only if all of these are ASCII. -/
theorem inputSize_eq_inputChars_iff (r : TextRequest) :
    inputSize r = inputChars r ↔ ∀ c ∈ inputText r, c.val ≤ 127 := by
  rw [inputSize_eq]
  exact Text.utf8Len_eq_length_iff (inputText r)

/-! ## Calls -/

section Calls

variable {α : Type}

/-- A call is refused on the spot: the request is called invalid, and nothing is sent. -/
def IsRefused (m : Web.Remote) (x : Answer ProviderError α × Web.Remote) : Prop :=
  (∃ message context, x.1 = .error (.invalidRequest message context)) ∧ x.2.sent = m.sent

/-- A call is made: a request with this body is sent, once or repeatedly. -/
def IsSent (body : Json) (m : Web.Remote) (x : Answer ProviderError α × Web.Remote) : Prop :=
  ∃ q n, q.body = some body ∧ x.2.sent = List.replicate (n + 1) q ++ m.sent

/-- A call is refused on the spot if and only if the input has more characters than the limit, and
it is made otherwise. -/
structure CountsChars (r : TextRequest) (body : Json) (m : Web.Remote)
    (x : Answer ProviderError α × Web.Remote) : Prop where
  refused : IsRefused m x ↔ inputLimit < inputChars r
  sent : inputChars r ≤ inputLimit → IsSent body m x

/-- What becomes of a call with the key `key`. -/
structure Client.CountsOctets (c : Client) (r : TextRequest) (key : String) (stream : Bool)
    (m : Web.Remote) (x : Answer ProviderError α × Web.Remote) : Prop where
  /-- It is refused on the spot if and only if the input has more octets than the limit. -/
  refused : IsRefused m x ↔ inputLimit < inputSize r
  /-- It is made if and only if the input has no more, and a request can be built. -/
  sent : IsSent (r.toJson stream) m x ↔ inputSize r ≤ inputLimit ∧
    ∃ q, request? (c.address stream) key (r.toJson stream) = some q
  /-- So the characters decide alike where the octets are few enough as well, or the characters are
  too many themselves, and nowhere else. -/
  alike : CountsChars r (r.toJson stream) m x ↔ inputLimit < inputChars r ∨
    inputSize r ≤ inputLimit ∧ ∃ q, request? (c.address stream) key (r.toJson stream) = some q

theorem IsSent.sent_ne {body : Json} {m : Web.Remote} {x : Answer ProviderError α × Web.Remote}
    (h : IsSent body m x) : x.2.sent ≠ m.sent := by
  obtain ⟨q, n, -, hsent⟩ := h
  intro hnone
  rw [hnone] at hsent
  have hlength := congrArg List.length hsent
  rw [List.length_append, List.length_replicate] at hlength
  omega

theorem IsSent.not_isRefused {body : Json} {m : Web.Remote}
    {x : Answer ProviderError α × Web.Remote} (h : IsSent body m x) : ¬ IsRefused m x :=
  fun hrefused => h.sent_ne hrefused.2

variable {c : Client} {r : TextRequest}

/-- A call whose input is too large ends before anything is sent. -/
theorem Client.opening_of_large (hsize : inputLimit < inputSize r) (stream : Bool)
    (m : Web.Remote) :
    ∃ message, c.opening r stream m = (.error (.invalidRequest message none), m) :=
  ⟨_, by rw [opening, prepare, if_pos hsize]⟩

/-- Otherwise it comes to what the last of its exchanges comes to. -/
theorem Client.opening_of_small {key : String} (hsize : inputSize r ≤ inputLimit)
    (hkey : c.key? r = some key) (stream : Bool) (m : Web.Remote) :
    ∃ k, c.opening r stream m =
      (c.resultOf (m.outcome (request? (c.address stream) key (r.toJson stream)) k),
        m.after (request? (c.address stream) key (r.toJson stream)) (k + 1)) := by
  obtain ⟨k, -, hpost⟩ := post_eq c (c.address stream) key (r.toJson stream) c.maxRetries m
  refine ⟨k, ?_⟩
  rw [opening, prepare_ok hsize hkey]
  exact hpost

theorem Client.isRefused_of_large (hsize : inputLimit < inputSize r) (stream : Bool)
    (m : Web.Remote) (read : Web.Response → Answer ProviderError α) :
    IsRefused m (answered read (c.opening r stream m).1, (c.opening r stream m).2) := by
  obtain ⟨message, hopening⟩ := c.opening_of_large hsize stream m
  rw [hopening]
  exact ⟨⟨message, none, rfl⟩, rfl⟩

/-- A call whose input is not too large is made if a request can be built for it, and neither made
nor called invalid if none can. -/
theorem Client.call_of_small {key : String} (hsize : inputSize r ≤ inputLimit)
    (hkey : c.key? r = some key) (stream : Bool) (m : Web.Remote)
    (read : Web.Response → Answer ProviderError α) :
    (¬ IsRefused m (answered read (c.opening r stream m).1, (c.opening r stream m).2)) ∧
      (IsSent (r.toJson stream) m
          (answered read (c.opening r stream m).1, (c.opening r stream m).2) ↔
        ∃ q, request? (c.address stream) key (r.toJson stream) = some q) := by
  obtain ⟨k, hopening⟩ := c.opening_of_small hsize hkey stream m
  rw [hopening]
  cases hq : request? (c.address stream) key (r.toJson stream) with
  | none =>
    constructor
    · rintro ⟨⟨message, context, he⟩, -⟩
      cases he
    · exact iff_of_false (fun h => h.sent_ne rfl) nofun
  | some q =>
    have hsent : IsSent (r.toJson stream) m
        (answered read (c.resultOf (m.outcome (some q) k)), m.after (some q) (k + 1)) :=
      ⟨q, k, (carries_of_request hq).2, rfl⟩
    exact ⟨hsent.not_isRefused, iff_of_true hsent ⟨q, rfl⟩⟩

/-- Where the octets decide on a call, the characters decide alike unless they are few enough and
the octets are not. -/
theorem countsChars_iff {body : Json} {m : Web.Remote} {x : Answer ProviderError α × Web.Remote}
    {built : Prop} (hrefused : IsRefused m x ↔ inputLimit < inputSize r)
    (hsent : IsSent body m x ↔ inputSize r ≤ inputLimit ∧ built) :
    CountsChars r body m x ↔
      inputLimit < inputChars r ∨ inputSize r ≤ inputLimit ∧ built := by
  have hle := inputChars_le r
  constructor
  · intro h
    by_cases hchars : inputLimit < inputChars r
    · exact Or.inl hchars
    · exact Or.inr (hsent.mp (h.sent (Nat.not_lt.mp hchars)))
  · rintro (hchars | hmade)
    · refine ⟨?_, fun h => absurd hchars (Nat.not_lt.mpr h)⟩
      rw [hrefused]
      omega
    · refine ⟨?_, fun _ => hsent.mpr hmade⟩
      have hsize := hmade.1
      rw [hrefused]
      omega

/-- **What becomes of a call**, however its answer is read. -/
theorem Client.countsOctets {key : String} (hkey : c.key? r = some key) (stream : Bool)
    (m : Web.Remote) (read : Web.Response → Answer ProviderError α) :
    c.CountsOctets r key stream m
      (answered read (c.opening r stream m).1, (c.opening r stream m).2) := by
  generalize hx : (answered read (c.opening r stream m).1, (c.opening r stream m).2) = x
  have hlarge : inputLimit < inputSize r → IsRefused m x := by
    intro hsize
    rw [← hx]
    exact Client.isRefused_of_large hsize stream m read
  have hsmall : inputSize r ≤ inputLimit → ¬ IsRefused m x ∧ (IsSent (r.toJson stream) m x ↔
      ∃ q, request? (c.address stream) key (r.toJson stream) = some q) := by
    intro hsize
    rw [← hx]
    exact Client.call_of_small hsize hkey stream m read
  have hrefused : IsRefused m x ↔ inputLimit < inputSize r := by
    by_cases hsize : inputLimit < inputSize r
    · exact iff_of_true (hlarge hsize) hsize
    · exact iff_of_false (hsmall (Nat.not_lt.mp hsize)).1 hsize
  have hsent : IsSent (r.toJson stream) m x ↔ inputSize r ≤ inputLimit ∧
      ∃ q, request? (c.address stream) key (r.toJson stream) = some q := by
    by_cases hsize : inputLimit < inputSize r
    · exact iff_of_false (fun h => h.not_isRefused (hlarge hsize))
        fun h => Nat.not_lt.mpr h.1 hsize
    · rw [(hsmall (Nat.not_lt.mp hsize)).2, and_iff_right (Nat.not_lt.mp hsize)]
  exact ⟨hrefused, hsent, countsChars_iff hrefused hsent⟩

end Calls

/-- Which calls are refused for the size of their input. -/
structure Client.Limits (c : Client) (r : TextRequest) (key : String) (m : Web.Remote) : Prop where
  /-- A text is asked for unless the input has too many octets. -/
  generate : c.CountsOctets r key true m (c.generate r m)
  /-- And so is a count. -/
  count : c.CountsOctets r key false m (c.count r m)
  /-- An input has as many octets as characters at least. -/
  le : inputChars r ≤ inputSize r
  /-- It has four times as many at most. -/
  size_le : inputSize r ≤ 4 * inputChars r
  /-- And it has as many if and only if all characters are ASCII. -/
  ascii : inputSize r = inputChars r ↔ ∀ c ∈ inputText r, c.val ≤ 127

/-- **Which calls are refused for the size of their input.** -/
theorem Client.limits {c : Client} {r : TextRequest} {key : String} (hkey : c.key? r = some key)
    (m : Web.Remote) : c.Limits r key m where
  generate := by
    rw [c.generate_eq]
    exact Client.countsOctets hkey true m _
  count := by
    rw [c.count_eq]
    exact Client.countsOctets hkey false m _
  le := inputChars_le r
  size_le := inputSize_le r
  ascii := inputSize_eq_inputChars_iff r

/-! ### An input with accents -/

def accented (n : Nat) : TextRequest :=
  ⟨"gpt-5.2", "explain", [⟨"files", String.ofList (List.replicate n 'é')⟩], none, none, none,
    "explanation"⟩

theorem key?_accented (n : Nat) : Client.loopback.key? (accented n) = some "sk-test" := by
  have hkey : credential (some "sk-test") = some "sk-test" := by decide +kernel
  exact hkey

theorem inputText_accented (n : Nat) :
    inputText (accented n) = "explain".toList ++ List.replicate n 'é' := by
  simp [inputText, accented]

theorem inputChars_accented (n : Nat) : inputChars (accented n) = 7 + n := by
  rw [inputChars, inputText_accented, List.length_append, List.length_replicate]
  rfl

theorem inputSize_accented (n : Nat) : inputSize (accented n) = 7 + n * 2 := by
  rw [inputSize_eq, inputText_accented, String.utf8Len_append, Text.utf8Len_replicate]
  rfl

/-- Three accented letters. -/
theorem Client.limits_accented :
    Client.loopback.key? (accented 3) = some "sk-test" ∧
      Client.loopback.Limits (accented 3) "sk-test" .unreachable :=
  ⟨key?_accented 3, Client.limits (key?_accented 3) .unreachable⟩

/-- A million of them are refused although they are few enough, and a request could be built. -/
theorem Client.refuses_accented :
    inputChars (accented 1000000) ≤ inputLimit ∧
    Client.loopback.key? (accented 1000000) = some "sk-test" ∧
    (∀ stream, ∃ q, request? (Client.loopback.address stream) "sk-test"
      ((accented 1000000).toJson stream) = some q) ∧
    IsRefused .unreachable (Client.loopback.generate (accented 1000000) .unreachable) ∧
    IsRefused .unreachable (Client.loopback.count (accented 1000000) .unreachable) := by
  have hchars : inputChars (accented 1000000) ≤ inputLimit := by
    rw [inputChars_accented, inputLimit]
    omega
  have hsize : inputLimit < inputSize (accented 1000000) := by
    rw [inputSize_accented, inputLimit]
    omega
  refine ⟨hchars, key?_accented _, fun stream => exists_request?_loopback stream _, ?_, ?_⟩
  · rw [Client.generate_eq]
    exact Client.isRefused_of_large hsize true _ _
  · rw [Client.count_eq]
    exact Client.isRefused_of_large hsize false _ _

end Provider

end ArchDiagram
