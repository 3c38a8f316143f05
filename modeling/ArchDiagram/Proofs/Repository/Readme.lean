import ArchDiagram.Proofs.Repository.Fetch
import ArchDiagram.Proofs.Text.Base64
import ArchDiagram.Proofs.Text.Strict

/-!
# The README of a repository

A README comes in base64, wrapped by white space wherever the host likes.  The white space is taken
out, and what is left is read if and only if it is what writing the octets of a text in base64
gives: there is one such text then, and every other content is a failure.  A README in no encoding,
or in another one, is the text that is sought.

* `IsSpaced`: a text into which white space was put.
* `base64Text_eq_ok_iff`: **a content in base64 and the text of it**.
* `HasReadme`: what an answer tells of a README.
* `Host.readme_decodes`: **what the question for the README comes to**.
-/

namespace ArchDiagram

namespace Text

/-! ## White space put in and taken out -/

def unspaced (cs : List Char) : List Char :=
  cs.filter fun c => !isBlank c

/-- The second text is the first one with white space put in anywhere. -/
inductive IsSpaced : List Char → List Char → Prop
  | nil : IsSpaced [] []
  | char (c : Char) {cs ds : List Char} : IsSpaced cs ds → IsSpaced (c :: cs) (c :: ds)
  | blank {c : Char} (hc : isBlank c = true) {cs ds : List Char} :
      IsSpaced cs ds → IsSpaced cs (c :: ds)

theorem unspaced_of_forall {cs : List Char} (h : ∀ c ∈ cs, isBlank c = false) :
    unspaced cs = cs := by
  rw [unspaced, List.filter_eq_self]
  intro c hc
  rw [h c hc]
  rfl

theorem unspaced_cons (c : Char) (cs : List Char) :
    unspaced (c :: cs) = if isBlank c then unspaced cs else c :: unspaced cs := by
  rw [unspaced, List.filter_cons]
  by_cases hc : isBlank c = true
  · simp [hc, unspaced]
  · simp [hc, unspaced]

theorem IsSpaced.unspaced_eq {cs ds : List Char} (h : IsSpaced cs ds) :
    unspaced ds = unspaced cs := by
  induction h with
  | nil => rfl
  | char c _ ih => rw [unspaced_cons, unspaced_cons, ih]
  | blank hc _ ih => rw [unspaced_cons, if_pos hc, ih]

end Text

namespace Base64

theorem isBlank_symbol : ∀ n < 64, Text.isBlank (symbol n) = false := by
  decide

/-- No symbol is white space, and the padding is none either. -/
theorem isBlank_of_mem_encode {bs : List UInt8} : ∀ c ∈ encode bs, Text.isBlank c = false := by
  have hpad : Text.isBlank '=' = false := by decide
  fun_induction encode bs with
  | case1 => simp
  | case2 a =>
    have ha := a.toNat_lt
    simp only [List.forall_mem_cons, List.not_mem_nil, false_imp_iff, implies_true, and_true, hpad]
    exact ⟨isBlank_symbol _ (by omega), isBlank_symbol _ (by omega)⟩
  | case3 a b n =>
    have ha := a.toNat_lt
    have hb := b.toNat_lt
    simp only [List.forall_mem_cons, List.not_mem_nil, false_imp_iff, implies_true, and_true, hpad]
    exact ⟨isBlank_symbol _ (by omega), isBlank_symbol _ (by omega), isBlank_symbol _ (by omega)⟩
  | case4 a b c rest n ih =>
    have ha := a.toNat_lt
    have hb := b.toNat_lt
    have hc := c.toNat_lt
    simp only [List.forall_mem_cons]
    exact ⟨isBlank_symbol _ (by omega), isBlank_symbol _ (by omega), isBlank_symbol _ (by omega),
      isBlank_symbol _ (by omega), ih⟩

end Base64

namespace Repository

/-! ## Contents -/

/-- **A content in base64 is read as the text whose octets are written so**, white space apart. -/
theorem base64Text_eq_ok_iff {content t : String} : base64Text content = .ok t ↔
    Text.unspaced content.toList = Base64.encode (Utf8.encode t) := by
  have hsymbols : (content.toList.filter fun c => !Text.isBlank c) =
      Text.unspaced content.toList := rfl
  rw [← Base64.decode?_eq_some_iff]
  simp only [base64Text, hsymbols]
  cases Base64.decode? (Text.unspaced content.toList) with
  | none => simp
  | some bs =>
    rw [Option.some.injEq, ← Utf8.decode?_eq_some_iff]
    dsimp only
    cases Utf8.decode? bs with
    | none => simp
    | some s => simp

/-- A content in base64 that was wrapped is read as the text that was written. -/
theorem base64Text_of_isSpaced {content t : String}
    (h : Text.IsSpaced (Base64.encode (Utf8.encode t)) content.toList) :
    base64Text content = .ok t := by
  rw [base64Text_eq_ok_iff, h.unspaced_eq]
  exact Text.unspaced_of_forall Base64.isBlank_of_mem_encode

/-! ## Answers -/

/-- What an answer tells of a README: it is a success with this content, which is not empty, and
with this encoding, if any. -/
structure HasReadme (o : Web.Outcome) (content : String) (encoding : Option String) : Prop where
  answered : ∃ r j, o = .ok r ∧ IsSuccess r.status ∧ payload? r = some j ∧
    j.IsRecord readmeFields ∧ GivesReadme j "content" content ∧
      ∀ e, GivesReadme j "encoding" e ↔ encoding = some e
  ne_empty : content ≠ ""

theorem HasReadme.judge_eq {o : Web.Outcome} {content : String} {encoding : Option String}
    (h : HasReadme o content encoding) :
    Question.readme.judge o =
      if encoding = some "base64" then base64Text content else .ok content := by
  obtain ⟨r, j, rfl, hs, hj, hrecord, hcontent, hencoding⟩ := h.answered
  obtain ⟨⟨c, e⟩, hread⟩ := (readmeOf?_isSome_iff j).mp hrecord
  have hc : c = some content := (givesReadme_iff hread content).1.mp hcontent
  have he : e = encoding := by
    apply Option.ext
    intro t
    rw [← hencoding]
    exact (givesReadme_iff hread t).2.symm
  rw [Question.judge_of_isSuccess _ hs, hj, Option.bind_some, Question.read?, hread, hc, he,
    Option.map_some, Option.getD_some, readmeText]
  simp [Option.filter, h.ne_empty]

/-- What is read of the body of a success is what the answer tells. -/
theorem hasReadme_of_readmeOf? {r : Web.Response} {j : Json} {content : String}
    {encoding : Option String} (hs : IsSuccess r.status) (hj : payload? r = some j)
    (hread : readmeOf? j = some (some content, encoding)) (hne : content ≠ "") :
    HasReadme (.ok r) content encoding := by
  refine ⟨⟨r, j, rfl, hs, hj, (readmeOf?_isSome_iff j).mpr ⟨_, hread⟩, ?_, ?_⟩, hne⟩
  · exact (givesReadme_iff hread content).1.mpr rfl
  · exact fun e => (givesReadme_iff hread e).2

section Step

variable (h : Host) (owner repo : String) (credential : Option String)

theorem Host.readme_eq (m : Web.Remote) :
    (h.readme owner repo (h.tokenFor credential) m).1 =
      Question.readme.judge (m.outcome (h.request? owner repo credential .readme) 0) := by
  have hask := h.ask_eq owner repo credential m .readme
  rw [ask, comesTo] at hask
  rw [hask]

/-- What the question for a README comes to, of which the answer tells a content and possibly an
encoding. -/
structure Host.ReadsReadme (m : Web.Remote) (content : String) (encoding : Option String) :
    Prop where
  /-- A content in base64 is read as a text if and only if what is left of it without white space is
  what the octets of the text are written as. -/
  decoded : encoding = some "base64" → ∀ t,
    (h.readme owner repo (h.tokenFor credential) m).1 = .ok t ↔
      Text.unspaced content.toList = Base64.encode (Utf8.encode t)
  /-- Any other content that is said to be in base64 is reported as one that cannot be read. -/
  garbled : encoding = some "base64" →
    (∀ t, Text.unspaced content.toList ≠ Base64.encode (Utf8.encode t)) →
      ∃ d, (h.readme owner repo (h.tokenFor credential) m).1 = .error (.decode d)
  /-- So it does not matter where the host wraps a content. -/
  spaced : encoding = some "base64" → ∀ t,
    Text.IsSpaced (Base64.encode (Utf8.encode t)) content.toList →
      (h.readme owner repo (h.tokenFor credential) m).1 = .ok t
  /-- And contents that are read as the same text differ in their white space only. -/
  alike : encoding = some "base64" → ∀ m' content',
    HasReadme (m'.outcome (h.request? owner repo credential .readme) 0) content'
      (some "base64") → ∀ t,
      (h.readme owner repo (h.tokenFor credential) m).1 = .ok t →
      (h.readme owner repo (h.tokenFor credential) m').1 = .ok t →
        Text.unspaced content.toList = Text.unspaced content'.toList
  /-- A content in no encoding, or in another one, is taken as it is. -/
  verbatim : encoding ≠ some "base64" →
    (h.readme owner repo (h.tokenFor credential) m).1 = .ok content

/-- **What the question for the README comes to.** -/
theorem Host.readme_decodes {m : Web.Remote} {content : String} {encoding : Option String}
    (hm : HasReadme (m.outcome (h.request? owner repo credential .readme) 0) content encoding) :
    h.ReadsReadme owner repo credential m content encoding := by
  have hanswer := h.readme_eq owner repo credential m
  rw [hm.judge_eq] at hanswer
  have hbase64 : encoding = some "base64" →
      (h.readme owner repo (h.tokenFor credential) m).1 = base64Text content := by
    intro he
    rw [hanswer, if_pos he]
  refine ⟨?_, ?_, ?_, ?_, ?_⟩
  · intro he t
    rw [hbase64 he]
    exact base64Text_eq_ok_iff
  · intro he hnone
    rw [hbase64 he]
    cases hread : base64Text content with
    | ok t => exact absurd (base64Text_eq_ok_iff.mp hread) (hnone t)
    | error e =>
      obtain ⟨d, rfl⟩ := base64Text_error hread
      exact ⟨d, rfl⟩
  · intro he t ht
    rw [hbase64 he]
    exact base64Text_of_isSpaced ht
  · intro he m' content' hm' t ht ht'
    rw [hbase64 he, base64Text_eq_ok_iff] at ht
    rw [h.readme_eq, hm'.judge_eq, if_pos rfl, base64Text_eq_ok_iff] at ht'
    rw [ht, ht']
  · intro he
    rw [hanswer, if_neg he]

end Step

/-- A content that is wrapped by line ends and a blank in the middle of groups of four symbols. -/
def wrappedContent : String :=
  "IyDDvG\nJlcg\xA0o=\n"

def wrappingRemote : Web.Remote :=
  .ofOutcomes [.ok ⟨200, [], [Utf8.encode
    "\x7b\"encoding\":\"base64\",\"content\":\"IyDDvG\\nJlcg\\u00a0o=\\n\"\x7d"], none⟩]

/-- The text is read as it was written. -/
theorem Host.readme_wrapped :
    HasReadme (wrappingRemote.outcome (loopback.request? "acme" "demo" none .readme) 0)
      wrappedContent (some "base64") ∧
    loopback.ReadsReadme "acme" "demo" none wrappingRemote wrappedContent (some "base64") ∧
    Text.unspaced wrappedContent.toList = Base64.encode (Utf8.encode "# über\n") := by
  have hreadme : HasReadme (wrappingRemote.outcome
      (loopback.request? "acme" "demo" none .readme) 0) wrappedContent (some "base64") := by
    obtain ⟨q, hq⟩ := request?_loopback .readme (by simp)
    rw [hq]
    exact hasReadme_of_readmeOf? ⟨by decide, by decide⟩ rfl rfl (by decide)
  exact ⟨hreadme, Host.readme_decodes _ _ _ _ hreadme, by decide +kernel⟩

end Repository

end ArchDiagram
