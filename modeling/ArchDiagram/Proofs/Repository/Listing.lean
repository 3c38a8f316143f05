import ArchDiagram.Proofs.Repository.Fetch
import ArchDiagram.Proofs.Text.Lowercase
import ArchDiagram.Proofs.Text.Scan
import Mathlib.Data.List.DropRight

/-!
# What is listed of a repository

The listing is what is left of the paths of a tree once those are taken out whose lowercase contains
an excluded fragment.  The others stay as they are, in their order, in their spelling and as often
as they are in the tree, and only what is left decides whether there is a listing at all.

Every entry is looked for as it is written, also the one that is written as a pattern, `*.log`.  So
a log file is listed unless some entry happens to stand in its path.

* `HasPaths`: the paths of a tree, in their order.
* `IsKept`: a path whose lowercase contains no excluded fragment.
* `Host.fetch_lists`: **the listing is the list of the paths that are kept**.
* `IsNamed`: a path that an excluded entry names, be the entry a fragment or a pattern.
* `Host.fetch_omits`: **what is listed although an entry names it**.
* `Host.fetch_log`: a log file that is listed.
-/

namespace ArchDiagram

namespace Repository

/-! ## The paths of a tree -/

/-- The paths of entries, in their order.  An entry without a path has none in the list. -/
inductive HavePaths : List Json → List String → Prop
  | nil : HavePaths [] []
  | path {e : Json} {es : List Json} {p : String} {ps : List String}
      (h : e.HasField (entryFields.map (·.1)) "path" (.text p)) :
      HavePaths es ps → HavePaths (e :: es) (p :: ps)
  | pathless {e : Json} {es : List Json} {ps : List String}
      (h : ∀ p, ¬ e.HasField (entryFields.map (·.1)) "path" (.text p)) :
      HavePaths es ps → HavePaths (e :: es) ps

inductive HasPaths (j : Json) : List String → Prop
  | entries {es : List Json} {ps : List String}
      (h : j.HasField (treeFields.map (·.1)) "tree" (.array es)) : HavePaths es ps → HasPaths j ps
  | none (h : ∀ es, ¬ j.HasField (treeFields.map (·.1)) "tree" (.array es)) : HasPaths j []

theorem havePaths_iff {es : List Json} {xs : List (Option String)}
    (h : es.mapM pathOf? = some xs) (ps : List String) :
    HavePaths es ps ↔ ps = xs.filterMap id := by
  rw [mapM_pathOf?_eq_some_iff] at h
  induction h generalizing ps with
  | nil =>
    constructor
    · rintro ⟨⟩
      rfl
    · rintro rfl
      exact .nil
  | @cons e x es xs hx _ ih =>
    have hpath := pathOf?_eq_some_iff hx
    cases x with
    | none =>
      rw [List.filterMap_cons_none rfl, ← ih]
      constructor
      · intro hps
        cases hps with
        | path h _ => cases (hpath _).mpr h
        | pathless _ hrest => exact hrest
      · intro hps
        exact .pathless (fun p hp => nomatch (hpath p).mpr hp) hps
    | some p =>
      rw [List.filterMap_cons, id_eq]
      constructor
      · intro hps
        cases hps with
        | path h hrest =>
          obtain rfl := Option.some.inj ((hpath _).mpr h)
          rw [(ih _).mp hrest]
        | pathless h _ => exact absurd ((hpath p).mp rfl) (h p)
      · rintro rfl
        exact .path ((hpath p).mp rfl) ((ih _).mpr rfl)

theorem hasPaths_iff {j : Json} {ps : List String} (h : pathsOf? j = some ps) (qs : List String) :
    HasPaths j qs ↔ qs = ps := by
  obtain ⟨s, xs, hs, hxs, rfl⟩ := pathsOf?_eq_some_iff.mp h
  have htree := hasField_tree_iff hs
  by_cases hentries : ∃ es, s = .given (.array es)
  · obtain ⟨es, rfl⟩ := hentries
    have hread : es.mapM pathOf? = some xs := hxs
    rw [← havePaths_iff hread]
    constructor
    · intro hqs
      cases hqs with
      | entries h hrest =>
        cases (htree _).mp h
        exact hrest
      | none h => exact absurd ((htree _).mpr rfl) (h es)
    · intro hqs
      exact .entries ((htree _).mpr rfl) hqs
  · have hnone : ∀ es, ¬ j.HasField (treeFields.map (·.1)) "tree" (.array es) := by
      intro es hes
      exact hentries ⟨es, (htree _).mp hes⟩
    have hempty : xs = [] := by
      cases s with
      | given v =>
        cases v <;> first | cases hxs | exact absurd ⟨_, rfl⟩ hentries
      | unnamed | beyond =>
        cases hxs
        rfl
    rw [hempty]
    constructor
    · intro hqs
      cases hqs with
      | entries h _ => exact absurd h (hnone _)
      | none _ => rfl
    · rintro rfl
      exact .none hnone

/-! ## Paths that are kept -/

/-- A path is kept if its lowercase contains no excluded fragment. -/
def IsKept (path : String) : Prop :=
  ∀ ls, Text.IsLowercase path.toList ls → ∀ e ∈ excluded, ¬ e.toList <:+: ls

/-- No excluded entry has a letter whose form depends on where it stands. -/
theorem sigmaless_excluded : ∀ e ∈ excluded, 'σ' ∉ e.toList ∧ 'ς' ∉ e.toList := by
  decide +kernel

theorem excluded_infix_iff {e : String} (he : e ∈ excluded) {cs ls : List Char}
    (h : Text.IsLowercase cs ls) : e.toList <:+: Text.lowercase cs ↔ e.toList <:+: ls := by
  obtain ⟨hsmall, hfinal⟩ := sigmaless_excluded e he
  exact Text.infix_iff_of_resembles h.resembles hsmall hfinal

theorem isListed_iff (path : String) : isListed path = true ↔
    ∀ e ∈ excluded, ¬ e.toList <:+: Text.lowercase path.toList := by
  simp [isListed, ← Text.contains_iff]

/-- Whichever lowercase of a path is taken, it decides whether the path is kept. -/
theorem isKept_iff {path : String} {ls : List Char} (h : Text.IsLowercase path.toList ls) :
    IsKept path ↔ ∀ e ∈ excluded, ¬ e.toList <:+: ls := by
  constructor
  · intro hkept
    exact hkept ls h
  · intro hls ls' h' e he
    rw [← excluded_infix_iff he h', excluded_infix_iff he h]
    exact hls e he

theorem isKept_iff_isListed (path : String) : IsKept path ↔ isListed path = true := by
  rw [isKept_iff (Text.isLowercase_lowercase _), isListed_iff]

instance : DecidablePred IsKept := fun path =>
  decidable_of_iff _ (isKept_iff_isListed path).symm

theorem filter_isListed (ps : List String) : ps.filter isListed = ps.filter IsKept := by
  refine List.filter_congr fun p _ => ?_
  rw [Bool.eq_iff_iff, decide_eq_true_iff, isKept_iff_isListed]

theorem listing_eq (ps : List String) : listing ps =
    if ps.filter IsKept = [] then .error .emptyListing
    else .ok ("\n".intercalate (ps.filter IsKept)) := by
  rw [listing, filter_isListed]
  cases ps.filter IsKept <;> simp

/-- The lines of a listing are its paths. -/
theorem splitOn_intercalate_paths {ps : List String} (hps : ps ≠ [])
    (h : ∀ p ∈ ps, '\n' ∉ p.toList) :
    ("\n".intercalate ps).toList.splitOn '\n' = ps.map String.toList := by
  have hnewline : "\n".toList = ['\n'] := rfl
  rw [String.toList_intercalate, hnewline]
  refine List.splitOn_intercalate _ ?_ (by simpa using hps)
  intro l hl
  obtain ⟨p, hp, rfl⟩ := List.mem_map.mp hl
  exact h p hp

/-! ## The listing of a snapshot -/

section Attempt

variable (h : Host) (owner repo : String) (credential : Option String) (m : Web.Remote)

/-- The host names the branch, and the tree of it, as the value `j`. -/
structure Host.GivesTree (branch : String) (j : Json) : Prop where
  named : h.comesTo owner repo credential m 0 .repository = .ok branch
  answered : ∃ r, m.outcome (h.request? owner repo credential (.tree branch)) 1 = .ok r ∧
    IsSuccess r.status ∧ payload? r = some j
  tree : IsTree j

/-- What is listed of the paths of a tree. -/
structure Host.Lists (branch : String) (ps : List String) : Prop where
  /-- Whichever lowercase of a path is taken, it decides whether the path is kept. -/
  lowercase : ∀ p ls, Text.IsLowercase p.toList ls →
    (IsKept p ↔ ∀ e ∈ excluded, ¬ e.toList <:+: ls)
  /-- If a path is kept, then the listing is the list of the kept ones, the README is asked for as
  well, and a snapshot has this listing. -/
  shown : (∃ p ∈ ps, IsKept p) → ∃ files : String,
    ((∀ p ∈ ps, '\n' ∉ p.toList) →
      files.toList.splitOn '\n' = (ps.filter IsKept).map String.toList) ∧
    (h.fetch owner repo credential m).1 =
      (h.comesTo owner repo credential m 2 .readme).map (⟨branch, files, ·⟩) ∧
    (h.fetch owner repo credential m).2 =
      h.afterAsking owner repo credential m [.repository, .tree branch, .readme]
  /-- If none is, then the attempt fails, and the README is not asked for. -/
  empty : (∀ p ∈ ps, ¬ IsKept p) →
    (h.fetch owner repo credential m).1 = .error .emptyListing ∧
    (h.fetch owner repo credential m).2 =
      h.afterAsking owner repo credential m [.repository, .tree branch]

variable {h owner repo credential m}

theorem Host.GivesTree.comesTo_eq {branch : String} {j : Json} {ps : List String}
    (hj : h.GivesTree owner repo credential m branch j) (hps : pathsOf? j = some ps) :
    h.comesTo owner repo credential m 1 (.tree branch) = listing ps := by
  obtain ⟨r, hr, hs, hpayload⟩ := hj.answered
  rw [comesTo, hr, Question.judge_of_isSuccess _ hs, hpayload, Option.bind_some, Question.read?,
    hps]
  rfl

/-- **The listing is the list of the paths that are kept.** -/
theorem Host.fetch_lists {branch : String} {j : Json}
    (hj : h.GivesTree owner repo credential m branch j) :
    ∃ ps, (∀ qs, HasPaths j qs ↔ qs = ps) ∧ h.Lists owner repo credential m branch ps := by
  obtain ⟨ps, hps⟩ := (pathsOf?_isSome_iff j).mp hj.tree
  have htree := hj.comesTo_eq hps
  rw [listing_eq] at htree
  refine ⟨ps, hasPaths_iff hps, fun _ _ => isKept_iff, ?_, ?_⟩
  · rintro ⟨p, hp, hkept⟩
    have hne : ps.filter IsKept ≠ [] :=
      List.ne_nil_of_mem (List.mem_filter.mpr ⟨hp, decide_eq_true hkept⟩)
    rw [if_neg hne] at htree
    have hlines : (∀ q ∈ ps, '\n' ∉ q.toList) →
        ("\n".intercalate (ps.filter IsKept)).toList.splitOn '\n' =
          (ps.filter IsKept).map String.toList := by
      intro hline
      exact splitOn_intercalate_paths hne fun q hq => hline q (List.mem_of_mem_filter hq)
    refine ⟨_, hlines, ?_⟩
    cases htext : h.comesTo owner repo credential m 2 .readme with
    | error e =>
      rw [(Host.Course.readme hj.named htree htext).fetch_eq]
      exact ⟨rfl, rfl⟩
    | ok text =>
      rw [(Host.Course.snapshot hj.named htree htext).fetch_eq]
      exact ⟨rfl, rfl⟩
  · intro hnone
    have hnil : ps.filter IsKept = [] := by
      rw [List.filter_eq_nil_iff]
      intro p hp
      rw [decide_eq_true_iff]
      exact hnone p hp
    rw [if_pos hnil] at htree
    rw [(Host.Course.tree hj.named htree).fetch_eq]
    exact ⟨rfl, rfl⟩

end Attempt

/-! ### A tree with a path twice -/

/-- A host whose second answer is this body, and the other two are good. -/
def remoteWithTree (body : String) : Web.Remote :=
  .ofOutcomes (["\x7b\"default_branch\":\"main\"\x7d", body,
    "\x7b\"content\":\"IyBoaQ==\",\"encoding\":\"base64\"\x7d"].map fun body =>
      .ok ⟨200, [], [Utf8.encode body], none⟩)

/-- What the questions come to when they are put to such a host. -/
theorem Host.comesTo_remoteWithTree (body : String) :
    loopback.comesTo "acme" "demo" none (remoteWithTree body) 0 .repository = .ok "main" ∧
    loopback.comesTo "acme" "demo" none (remoteWithTree body) 2 .readme = .ok "# hi" ∧
    (remoteWithTree body).outcome (loopback.request? "acme" "demo" none (.tree "main")) 1 =
      .ok ⟨200, [], [Utf8.encode body], none⟩ := by
  obtain ⟨q₀, h₀⟩ := Host.request?_loopback .repository (by simp)
  obtain ⟨q₁, h₁⟩ := Host.request?_loopback (.tree "main") (by simp)
  obtain ⟨q₂, h₂⟩ := Host.request?_loopback .readme (by simp)
  rw [comesTo, comesTo, h₀, h₁, h₂]
  exact ⟨rfl, rfl, rfl⟩

theorem Host.givesTree_remoteWithTree {body : String} {j : Json} {ps : List String}
    (hj : payload? ⟨200, [], [Utf8.encode body], none⟩ = some j) (hps : pathsOf? j = some ps) :
    loopback.GivesTree "acme" "demo" none (remoteWithTree body) "main" j := by
  obtain ⟨hbranch, -, htree⟩ := Host.comesTo_remoteWithTree body
  have hsuccess : IsSuccess 200 := ⟨by decide, by decide⟩
  exact ⟨hbranch, ⟨_, htree, hsuccess, hj⟩, (pathsOf?_isSome_iff j).mpr ⟨ps, hps⟩⟩

/-- A tree with a path twice, an entry without one, and fragments in capitals, one of which is made
with the sign for kelvins. -/
def mixedTree : String :=
  "\x7b\"tree\":[\x7b\"path\":\"src/B.rs\"\x7d,\x7b\"path\":\"poetry.loc\\u212a\"\x7d," ++
    "\x7b\"mode\":\"1\"\x7d,\x7b\"path\":\"LOGO.PNG\"\x7d,\x7b\"path\":\"a.rs\"\x7d," ++
    "\x7b\"path\":\"src/B.rs\"\x7d]\x7d"

/-- Three lines are left of it. -/
theorem Host.fetch_lists_mixed : ∃ j ps,
    loopback.GivesTree "acme" "demo" none (remoteWithTree mixedTree) "main" j ∧
    HasPaths j ps ∧ ps.filter IsKept = ["src/B.rs", "a.rs", "src/B.rs"] ∧
    loopback.Lists "acme" "demo" none (remoteWithTree mixedTree) "main" ps := by
  have hread : ((payload? ⟨200, [], [Utf8.encode mixedTree], none⟩).bind pathsOf?).map
      (List.filter isListed) = some ["src/B.rs", "a.rs", "src/B.rs"] := by
    decide +kernel
  obtain ⟨ps, hbind, hlisted⟩ := Option.map_eq_some_iff.mp hread
  obtain ⟨j, hj, hps⟩ := Option.bind_eq_some_iff.mp hbind
  have hgives := Host.givesTree_remoteWithTree hj hps
  obtain ⟨qs, hqs, hlists⟩ := Host.fetch_lists hgives
  have hpaths : HasPaths j ps := (hasPaths_iff hps ps).mpr rfl
  obtain rfl := (hqs ps).mp hpaths
  rw [filter_isListed] at hlisted
  exact ⟨j, ps, hgives, hpaths, hlisted, hlists⟩

/-! ## Paths that an entry names -/

/-- The name of a file is what follows the last slash of its path. -/
def fileName (path : List Char) : List Char :=
  path.rtakeWhile (· != '/')

/-- What an excluded entry names in lower case.  An entry with an asterisk at its front is a pattern
of file names, and one without any is a fragment of paths. -/
inductive Names : List Char → List Char → Prop
  | fragment {e path : List Char} (hplain : '*' ∉ e) (h : e <:+: path) : Names e path
  | pattern {ending path : List Char} (h : ending <:+ fileName path) : Names ('*' :: ending) path

def IsNamed (path : String) : Prop :=
  ∃ ls, Text.IsLowercase path.toList ls ∧ ∃ e ∈ excluded, Names e.toList ls

/-- A path that ends as the one of a log file. -/
def IsLog (path : String) : Prop :=
  ∃ ls, Text.IsLowercase path.toList ls ∧ ".log".toList <:+ ls

/-- An ending without a slash is the end of the file name if it is the end of the path. -/
theorem suffix_fileName_iff {ending path : List Char} (h : '/' ∉ ending) :
    ending <:+ fileName path ↔ ending <:+ path := by
  have hending : ∀ c ∈ ending.reverse, (c != '/') = true := by
    intro c hc
    rw [bne_iff_ne]
    rintro rfl
    exact h (List.mem_reverse.mp hc)
  rw [fileName, List.rtakeWhile, ← List.reverse_prefix, List.reverse_reverse]
  constructor
  · intro hfront
    exact List.reverse_prefix.mp (hfront.trans (List.takeWhile_prefix _))
  · intro hsuffix
    obtain ⟨rest, hrest⟩ := List.reverse_prefix.mpr hsuffix
    rw [← hrest, List.takeWhile_append_of_pos hending]
    exact List.prefix_append _ _

/-- One entry is a pattern, and it is one of log files. -/
theorem excluded_cases : ∀ e ∈ excluded, '*' ∉ e.toList ∨ e = "*.log" := by
  decide +kernel

theorem log_mem_excluded : "*.log" ∈ excluded := by
  decide

theorem toList_log : "*.log".toList = '*' :: ".log".toList :=
  rfl

theorem names_log_iff {ls : List Char} : Names "*.log".toList ls ↔ ".log".toList <:+ ls := by
  rw [toList_log]
  constructor
  · intro h
    cases h with
    | fragment hplain _ => exact absurd List.mem_cons_self hplain
    | pattern h => exact (suffix_fileName_iff (by decide)).mp h
  · intro h
    exact .pattern ((suffix_fileName_iff (by decide)).mpr h)

/-- Any other entry names the paths that it stands in. -/
theorem names_plain_iff {e ls : List Char} (hplain : '*' ∉ e) : Names e ls ↔ e <:+: ls := by
  constructor
  · intro h
    cases h with
    | fragment _ h => exact h
    | pattern _ => exact absurd List.mem_cons_self hplain
  · exact .fragment hplain

/-- **Which of the kept paths an entry names**: those of log files. -/
theorem IsKept.isNamed_iff {path : String} (hkept : IsKept path) : IsNamed path ↔ IsLog path := by
  constructor
  · rintro ⟨ls, hls, e, he, hnames⟩
    rcases excluded_cases e he with hplain | rfl
    · exact absurd ((names_plain_iff hplain).mp hnames) (hkept ls hls e he)
    · exact ⟨ls, hls, names_log_iff.mp hnames⟩
  · rintro ⟨ls, hls, hlog⟩
    exact ⟨ls, hls, _, log_mem_excluded, names_log_iff.mpr hlog⟩

/-- What of the paths of a tree is listed, and what of it an entry names all the same. -/
structure Omits (ps : List String) (files : String) : Prop where
  /-- The listing is the list of the kept paths. -/
  listed : files = "\n".intercalate (ps.filter IsKept)
  /-- A path that a fragment names is not listed. -/
  fragments : ∀ p ∈ ps.filter IsKept, ∀ ls, Text.IsLowercase p.toList ls →
    ∀ e ∈ excluded, '*' ∉ e.toList → ¬ Names e.toList ls
  /-- A path that is listed although an entry names it is the one of a log file. -/
  logs : ∀ p ∈ ps.filter IsKept, IsNamed p ↔ IsLog p
  /-- So every entry excludes what it names if and only if some entry stands as it is written in
  each of the paths of log files. -/
  exactly : (∀ p ∈ ps.filter IsKept, ¬ IsNamed p) ↔
    ∀ p ∈ ps, IsLog p → ∃ ls, Text.IsLowercase p.toList ls ∧ ∃ e ∈ excluded, e.toList <:+: ls

theorem not_isKept_iff (path : String) : ¬ IsKept path ↔
    ∃ ls, Text.IsLowercase path.toList ls ∧ ∃ e ∈ excluded, e.toList <:+: ls := by
  simp [IsKept]

theorem omits_of_listed {ps : List String} {files : String}
    (h : files = "\n".intercalate (ps.filter IsKept)) : Omits ps files := by
  have hlogs : ∀ p ∈ ps.filter IsKept, IsNamed p ↔ IsLog p := by
    intro p hp
    exact IsKept.isNamed_iff (of_decide_eq_true (List.mem_filter.mp hp).2)
  refine ⟨h, ?_, hlogs, ?_⟩
  · intro p hp ls hls e he hplain hnames
    have hkept : IsKept p := of_decide_eq_true (List.mem_filter.mp hp).2
    exact hkept ls hls e he ((names_plain_iff hplain).mp hnames)
  · simp only [← not_isKept_iff]
    constructor
    · intro hnone p hp hlog hkept
      have hmem : p ∈ ps.filter IsKept := List.mem_filter.mpr ⟨hp, decide_eq_true hkept⟩
      exact hnone p hmem ((hlogs p hmem).mpr hlog)
    · intro hall p hp hnamed
      obtain ⟨hmem, hkept⟩ := List.mem_filter.mp hp
      exact hall p hmem ((hlogs p hp).mp hnamed) (of_decide_eq_true hkept)

/-- **What is listed although an entry names it.** -/
theorem Host.fetch_omits {h : Host} {owner repo : String} {credential : Option String}
    {m : Web.Remote} {s : Snapshot} (hs : (h.fetch owner repo credential m).1 = .ok s) :
    ∃ j ps, h.GivesTree owner repo credential m s.branch j ∧ (∀ qs, HasPaths j qs ↔ qs = ps) ∧
      Omits ps s.fileTree := by
  obtain ⟨asked, hcourse, -⟩ := h.fetch_course owner repo credential m
  obtain ⟨hbranch, hfiles, -⟩ := (hcourse.eq_ok_iff s).mp hs
  obtain ⟨r, j, hr, hsuccess, hj, hread⟩ := Question.read_of_judge hfiles
  obtain ⟨ps, hps, hlisting⟩ := Option.map_eq_some_iff.mp hread
  have hgives : h.GivesTree owner repo credential m s.branch j :=
    ⟨hbranch, ⟨r, hr, hsuccess, hj⟩, (pathsOf?_isSome_iff j).mpr ⟨ps, hps⟩⟩
  rw [listing_eq] at hlisting
  split at hlisting
  · cases hlisting
  · have hlisted := (Except.ok.inj hlisting).symm
    exact ⟨j, ps, hgives, hasPaths_iff hps, omits_of_listed hlisted⟩

/-- A snapshot of which the listing is known. -/
theorem Host.fetch_remoteWithTree {body files : String}
    (h : (Question.tree "main").judge (.ok ⟨200, [], [Utf8.encode body], none⟩) = .ok files) :
    (loopback.fetch "acme" "demo" none (remoteWithTree body)).1 =
      .ok ⟨"main", files, "# hi"⟩ := by
  obtain ⟨hbranch, htext, htree⟩ := Host.comesTo_remoteWithTree body
  have hfiles : loopback.comesTo "acme" "demo" none (remoteWithTree body) 1 (.tree "main") =
      .ok files := by
    rw [comesTo, htree, h]
  rw [(Host.Course.snapshot hbranch hfiles htext).fetch_eq]

/-- A log file in a directory that is left out. -/
def buildTree : String :=
  "\x7b\"tree\":[\x7b\"path\":\"src/main.rs\"\x7d," ++
    "\x7b\"path\":\"Vendor/build.LOG\"\x7d]\x7d"

/-- It is not listed, for it stands below a directory that is left out. -/
theorem Host.fetch_omits_build :
    (loopback.fetch "acme" "demo" none (remoteWithTree buildTree)).1 =
      .ok ⟨"main", "src/main.rs", "# hi"⟩ ∧
    ∃ j ps, loopback.GivesTree "acme" "demo" none (remoteWithTree buildTree) "main" j ∧
      (∀ qs, HasPaths j qs ↔ qs = ps) ∧ Omits ps "src/main.rs" := by
  have hlisting : (Question.tree "main").judge (.ok ⟨200, [], [Utf8.encode buildTree], none⟩) =
      .ok "src/main.rs" := by
    decide +kernel
  have hs := Host.fetch_remoteWithTree hlisting
  exact ⟨hs, Host.fetch_omits hs⟩

/-- A log file in a directory of its own. -/
def serverTree : String :=
  "\x7b\"tree\":[\x7b\"path\":\"src/main.rs\"\x7d," ++
    "\x7b\"path\":\"logs/server.log\"\x7d]\x7d"

/-- It is listed, although an entry names it. -/
theorem Host.fetch_log :
    (loopback.fetch "acme" "demo" none (remoteWithTree serverTree)).1 =
      .ok ⟨"main", "src/main.rs\nlogs/server.log", "# hi"⟩ ∧
    "*.log" ∈ excluded ∧ Names "*.log".toList "logs/server.log".toList ∧
      IsNamed "logs/server.log" := by
  have hlower : Text.IsLowercase "logs/server.log".toList "logs/server.log".toList :=
    Text.isLowercase_lowercase "logs/server.log".toList
  have hnames : Names "*.log".toList "logs/server.log".toList :=
    .pattern (by decide)
  have hlisting : (Question.tree "main").judge (.ok ⟨200, [], [Utf8.encode serverTree], none⟩) =
      .ok "src/main.rs\nlogs/server.log" := by
    decide +kernel
  exact ⟨Host.fetch_remoteWithTree hlisting, log_mem_excluded, hnames,
    ⟨_, hlower, _, log_mem_excluded, hnames⟩⟩

end Repository

end ArchDiagram
