import ArchDiagram.Proofs.Repository.Fetch
import ArchDiagram.Proofs.Web.Below
import ArchDiagram.Run.Request

/-!
# Where the host of a repository is asked

The names of the owner, of the repository and of the branch are written into the addresses of the
requests as they are.  An address leads to what the names name if and only if each of them, or each
part of the branch between slashes, is a segment: it has no delimiter, is no dot segment and holds
no percent-encoded octet.  At the end of an address blanks and control characters are dropped too.
Other names are accepted all the same, and lead elsewhere.

* `Question.names`, `Question.query?`: where the answer to a question is found.
* `Host.Reaches`: addresses that lead there.
* `Host.addresses`: **which names lead to what they name**, and that no two repositories share an
  address that does.
* `Host.address_astray`: names that lead to another endpoint.
-/

namespace ArchDiagram.Repository

open Web

/-! ## Where answers are found -/

/-- The names on the way to an answer, below the address of the host. -/
def Question.names (owner repo : String) : Question → List (List Char)
  | repository => ["repos".toList, owner.toList, repo.toList]
  | tree branch =>
    ["repos".toList, owner.toList, repo.toList, "git".toList, "trees".toList] ++
      branch.toList.splitOn '/'
  | readme => ["repos".toList, owner.toList, repo.toList, "readme".toList]

def Question.query? : Question → Option String
  | tree _ => some "recursive=1"
  | repository | readme => none

/-- The address of a question leads to its answer. -/
def Host.Reaches (h : Host) (base : Url) (owner repo : String) (q : Question) (u : Url) : Prop :=
  Url.parse? (h.address owner repo q) = some u ∧ u.IsBelow base (q.names owner repo) q.query?

/-- What is written behind the address of the host and a slash. -/
def Question.tail (owner repo : String) (q : Question) : String :=
  String.ofList (Url.joined (q.names owner repo) ++ Url.queryText q.query?)

theorem Host.address_eq (h : Host) (owner repo : String) (q : Question) :
    h.address owner repo q = h.apiUrl ++ "/" ++ q.tail owner repo := by
  have hbranch : ∀ branch : String, Url.joined (branch.toList.splitOn '/') = branch.toList :=
    fun branch => List.intercalate_splitOn '/'
  rw [← String.toList_inj, Question.tail]
  cases q with
  | repository =>
    simp [address, Question.names, Question.query?, Url.queryText, Url.joined_cons_cons,
      Url.joined_singleton]
  | tree branch =>
    have hne : branch.toList.splitOn '/' ≠ [] := by
      rw [List.splitOn_eq_splitOnP]
      exact List.splitOnP_ne_nil _ _
    obtain ⟨piece, pieces, hpieces⟩ := List.exists_cons_of_ne_nil hne
    have hjoined := hbranch branch
    rw [hpieces] at hjoined
    simp [address, Question.names, Question.query?, Url.queryText, hpieces, Url.joined_cons_cons,
      hjoined]
  | readme =>
    simp [address, Question.names, Question.query?, Url.queryText, Url.joined_cons_cons,
      Url.joined_singleton]

theorem Question.isPlainQuery (q : Question) : Url.IsPlainQuery q.query? := by
  intro query hquery c hc
  cases q with
  | tree branch =>
    cases hquery
    have hall : "recursive=1".toList.all (fun c => !Url.encodedInQuery c) = true := by decide
    simpa using List.all_eq_true.mp hall c hc
  | repository | readme => cases hquery

theorem Question.names_ne_nil (owner repo : String) (q : Question) : q.names owner repo ≠ [] := by
  cases q <;> simp [names]

/-! ## Names that lead to what they name -/

theorem isSegment_of_isAlpha {name : List Char} (h : name.all Char.isAlpha = true) :
    Url.IsSegment name := by
  rw [List.all_eq_true] at h
  refine ⟨?_, ?_, ?_, ?_⟩
  · intro c hc hmem
    simp only [Url.delimiters, List.mem_cons, List.not_mem_nil, or_false] at hmem
    rcases hmem with rfl | rfl | rfl | rfl | rfl | rfl | rfl <;> exact absurd (h _ hc) (by decide)
  · rintro rfl
    exact absurd (h '.' (by simp)) (by decide)
  · rintro rfl
    exact absurd (h '.' (by simp)) (by decide)
  · rintro ⟨a, b, -, -, front, back, rfl⟩
    exact absurd (h '%' (by simp)) (by decide)

/-- The names on the way to an answer are segments if those are that are written into it. -/
theorem Question.isSegment_names_iff {owner repo : String} {q : Question} :
    (∀ name ∈ q.names owner repo, Url.IsSegment name) ↔
      Url.IsSegment owner.toList ∧ Url.IsSegment repo.toList ∧
        ∀ branch, q = .tree branch → ∀ piece ∈ branch.toList.splitOn '/', Url.IsSegment piece := by
  have hrepos : Url.IsSegment "repos".toList := isSegment_of_isAlpha (by decide)
  have hgit : Url.IsSegment "git".toList := isSegment_of_isAlpha (by decide)
  have htrees : Url.IsSegment "trees".toList := isSegment_of_isAlpha (by decide)
  have hreadme : Url.IsSegment "readme".toList := isSegment_of_isAlpha (by decide)
  cases q with
  | repository =>
    simp only [names, List.forall_mem_cons, hrepos, true_and]
    simp
  | tree branch =>
    simp only [names, List.cons_append, List.nil_append, List.forall_mem_cons, hrepos, hgit,
      htrees, true_and]
    simp
  | readme =>
    simp only [names, List.forall_mem_cons, hrepos, hreadme, true_and]
    simp

/-- Something is dropped at the end of an address only if the name of the repository ends it. -/
theorem Question.trimEnd_joined_iff {owner repo : String} {q : Question} :
    (q.query? = none → Url.trimEnd (Url.joined (q.names owner repo)) =
      Url.joined (q.names owner repo)) ↔
        (q = .repository → Url.trimEnd repo.toList = repo.toList) := by
  have hslash : Url.isEdge '/' = false := by decide
  cases q with
  | repository =>
    rw [names, Url.joined_cons_cons, Url.joined_cons_cons, Url.joined_singleton,
      Url.trimEnd_append_cons hslash, Url.trimEnd_append_cons hslash]
    simp [query?]
  | tree branch => simp [query?]
  | readme =>
    have hreadme : Url.trimEnd "readme".toList = "readme".toList := by decide
    rw [names, Url.joined_cons_cons, Url.joined_cons_cons, Url.joined_cons_cons,
      Url.joined_singleton, Url.trimEnd_append_cons hslash, Url.trimEnd_append_cons hslash,
      Url.trimEnd_append_cons hslash, hreadme]
    simp

/-- **An address leads to the answer if and only if the names are segments.** -/
theorem Host.exists_reaches_iff {h : Host} {base : Url} (hbase : Url.IsBase h.apiUrl base)
    (owner repo : String) (q : Question) : (∃ u, h.Reaches base owner repo q u) ↔
      Url.IsSegment owner.toList ∧ Url.IsSegment repo.toList ∧
        (∀ branch, q = .tree branch →
          ∀ piece ∈ branch.toList.splitOn '/', Url.IsSegment piece) ∧
        (q = .repository → Url.trimEnd repo.toList = repo.toList) := by
  have htail : (q.tail owner repo).toList =
      Url.joined (q.names owner repo) ++ Url.queryText q.query? := by
    rw [Question.tail, String.toList_ofList]
  have hiff := Url.isBelow_iff hbase (q.names_ne_nil owner repo) q.isPlainQuery htail
  rw [Question.isSegment_names_iff, Question.trimEnd_joined_iff, ← h.address_eq] at hiff
  rw [← and_assoc, ← and_assoc, and_assoc (a := Url.IsSegment owner.toList)]
  simpa only [Reaches] using hiff

/-! ## Repositories apart -/

/-- The names of the owner and the repository stand in all addresses at the same places. -/
theorem Question.owner_eq_of_names {owner repo owner' repo' : String} {q q' : Question}
    (h : q.names owner repo = q'.names owner' repo') : owner = owner' ∧ repo = repo' := by
  have hfront : ∀ (q : Question) (owner repo : String),
      ((q.names owner repo).drop 1).take 2 = [owner.toList, repo.toList] := by
    intro q owner repo
    cases q <;> rfl
  have heq := hfront q owner repo
  rw [h, hfront] at heq
  simp only [List.cons.injEq, String.toList_inj, and_true] at heq
  exact ⟨heq.1.symm, heq.2.symm⟩

/-- Two repositories share no address that leads to an answer. -/
theorem Host.Reaches.owner_eq {h : Host} {base u : Url} {owner repo owner' repo' : String}
    {q q' : Question} (hu : h.Reaches base owner repo q u)
    (hu' : h.Reaches base owner' repo' q' u) : owner = owner' ∧ repo = repo' :=
  Question.owner_eq_of_names (hu.2.unique hu'.2)

/-! ## What is sent -/

/-- All that is sent for a snapshot are questions. -/
theorem Host.fetch_sends (h : Host) (owner repo : String) (credential : Option String)
    (m : Web.Remote) : m.Sends (fun r => r.method = "GET" ∧
      ∃ q : Question, Url.parse? (h.address owner repo q) = some r.url)
        (h.fetch owner repo credential m).2 := by
  obtain ⟨asked, -, hsent⟩ := h.fetch_course owner repo credential m
  refine ⟨(asked.filterMap (h.request? owner repo credential)).reverse, by rw [hsent]; rfl, ?_⟩
  intro r hr
  obtain ⟨q, -, hq⟩ := List.mem_filterMap.mp (List.mem_reverse.mp hr)
  obtain ⟨hmethod, hurl⟩ := Web.url_of_buildRequest hq
  exact ⟨hmethod, q, hurl⟩

/-! ## Which names lead to what they name -/

/-- Where a host is asked for a repository whose names are written into the addresses. -/
structure Host.Addresses (h : Host) (base : Url) (owner repo : String) : Prop where
  /-- The address of a question leads to the answer if and only if the names in it are segments, and
  nothing is dropped at the end of the one that ends it. -/
  reaches_iff : ∀ q, (∃ u, h.Reaches base owner repo q u) ↔
    Url.IsSegment owner.toList ∧ Url.IsSegment repo.toList ∧
      (∀ branch, q = .tree branch → ∀ piece ∈ branch.toList.splitOn '/', Url.IsSegment piece) ∧
      (q = .repository → Url.trimEnd repo.toList = repo.toList)
  /-- So the names for which all three questions of an attempt do are these. -/
  all_reach_iff : ∀ branch,
    (∀ q ∈ [.repository, .tree branch, .readme], ∃ u, h.Reaches base owner repo q u) ↔
      Url.IsSegment owner.toList ∧ Url.IsSegment repo.toList ∧
        Url.trimEnd repo.toList = repo.toList ∧
        ∀ piece ∈ branch.toList.splitOn '/', Url.IsSegment piece
  /-- Nothing but questions is sent. -/
  sent : ∀ credential (m : Web.Remote), m.Sends (fun r => r.method = "GET" ∧
    ∃ q : Question, Url.parse? (h.address owner repo q) = some r.url)
      (h.fetch owner repo credential m).2
  /-- An address that leads to an answer leads to one about no other repository. -/
  apart : ∀ owner' repo' q q' u, h.Reaches base owner repo q u →
    h.Reaches base owner' repo' q' u → owner = owner' ∧ repo = repo'

/-- **Which names lead to what they name**, below the address of the host. -/
theorem Host.addresses {h : Host} {base : Url} (hbase : Url.IsBase h.apiUrl base)
    (owner repo : String) : h.Addresses base owner repo where
  reaches_iff := h.exists_reaches_iff hbase owner repo
  all_reach_iff branch := by
    constructor
    · intro hall
      have hrepository := (h.exists_reaches_iff hbase owner repo _).mp (hall .repository (by simp))
      have htree := (h.exists_reaches_iff hbase owner repo _).mp (hall (.tree branch) (by simp))
      obtain ⟨howner, hrepo, -, hend⟩ := hrepository
      exact ⟨howner, hrepo, hend rfl, htree.2.2.1 branch rfl⟩
    · rintro ⟨howner, hrepo, hend, hbranch⟩ q hq
      refine (h.exists_reaches_iff hbase owner repo q).mpr ⟨howner, hrepo, ?_, fun _ => hend⟩
      rintro b rfl
      obtain rfl : b = branch := by simpa using hq
      exact hbranch
  sent := h.fetch_sends owner repo
  apart _ _ _ _ _ hu hu' := hu.owner_eq hu'

/-- The address of a host without a path of its own. -/
def root : Url :=
  ⟨"https", .name "api.github.com", none, [""], none, none⟩

theorem isBase_root : Url.IsBase (Host.of none "https://api.github.com").apiUrl root :=
  ⟨by decide +kernel, rfl, rfl⟩

/-- Names that lead to what they name. -/
theorem Host.addresses_root :
    Url.IsBase (Host.of none "https://api.github.com").apiUrl root ∧
      (Host.of none "https://api.github.com").Addresses root "acme" "demo" :=
  ⟨isBase_root, Host.addresses isBase_root "acme" "demo"⟩

/-- Names without fault that lead all questions to one endpoint of another kind, and another
repository whose questions are asked at the same addresses. -/
theorem Host.address_astray :
    (⟨"acme", "demo/actions/secrets#", none, none⟩ : DiagramRequest).fault? = none ∧
    (⟨"acme/demo", "actions/secrets#", none, none⟩ : DiagramRequest).fault? = none ∧
    ∀ q ∈ [.repository, .tree "main", .readme],
      (Url.parse? ((Host.of none "https://api.github.com").address "acme" "demo/actions/secrets#"
        q)).map Url.target = some "/repos/acme/demo/actions/secrets" ∧
      (Host.of none "https://api.github.com").address "acme" "demo/actions/secrets#" q =
        (Host.of none "https://api.github.com").address "acme/demo" "actions/secrets#" q := by
  have hparts : ∀ q ∈ [.repository, .tree "main", .readme],
      (Url.resolve [] (Text.splitBy Url.isSlash (Url.pathPart (Url.kept
        (Question.tail "acme" "demo/actions/secrets#" q).toList)))).map Url.sentSegment =
          ["repos", "acme", "demo", "actions", "secrets"] ∧
      Url.queryPart (Url.kept (Question.tail "acme" "demo/actions/secrets#" q).toList) = none := by
    decide +kernel
  have hsame : ∀ q ∈ [.repository, .tree "main", .readme],
      (Host.of none "https://api.github.com").address "acme" "demo/actions/secrets#" q =
        (Host.of none "https://api.github.com").address "acme/demo" "actions/secrets#" q := by
    decide +kernel
  obtain ⟨done, hdone, hbelow⟩ := Url.parse?_below isBase_root
  have hlevels : done = [] := by
    simpa [root] using congrArg List.length hdone
  refine ⟨by decide, by decide, fun q hq => ⟨?_, hsame q hq⟩⟩
  obtain ⟨fragment, hparse⟩ := hbelow (q.tail "acme" "demo/actions/secrets#")
  obtain ⟨hpath, hquery⟩ := hparts q hq
  rw [hlevels, hpath, hquery] at hparse
  rw [Host.address_eq, hparse]
  rfl

end ArchDiagram.Repository
