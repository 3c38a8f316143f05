import ArchDiagram.Proofs.Json.Record
import ArchDiagram.Repository.Host

/-!
# What the answers of the host tell

The host is asked three questions, and each is answered with a record of optional fields.  A status
that is no success fails the question whatever the body is; a success fails it only if the body is
not such a record, or if there is nothing in it that a snapshot could be made of.

* `Question.IsReadable`: the bodies that an answer can be read from.
* `Question.judge`: what an exchange comes to for whoever asked.
* `Question.judge_eq_notFound_iff`, `Question.judge_eq_unsuccessful_iff`,
  `Question.judge_eq_transport_iff`: the failures that the status and the exchange decide.
* `Question.judge_eq_error_iff`: **what fails a question in spite of a success**.
* `Question.judge_repository`: the branch that an answer names.
-/

namespace ArchDiagram

namespace Repository

/-! ## Readable answers -/

/-- What the host of a repository is asked. -/
inductive Question where
  | repository
  | tree (branch : String)
  | readme

def branchFields : Json.Fields :=
  [("default_branch", Json.IsText)]

def entryFields : Json.Fields :=
  [("path", Json.IsText)]

def treeFields : Json.Fields :=
  [("tree", fun v => ∃ es, v = .array es ∧ ∀ e ∈ es, e.IsRecord entryFields)]

def readmeFields : Json.Fields :=
  [("content", Json.IsText), ("encoding", Json.IsText)]

/-- A value that describes a tree.  The list of entries may be left out, also of an array, but
`null` cannot stand for it. -/
structure IsTree (j : Json) : Prop where
  record : j.IsRecord treeFields ∨ j = .array []
  listed : ¬ j.HasField (treeFields.map (·.1)) "tree" .null

/-- The bodies that an answer can be read from. -/
def Question.IsReadable : Question → Json → Prop
  | repository, j => j.IsRecord branchFields
  | tree _, j => IsTree j
  | readme, j => j.IsRecord readmeFields

def NamesBranch (j : Json) (branch : String) : Prop :=
  branch ≠ "" ∧ j.HasField (branchFields.map (·.1)) "default_branch" (.text branch)

def HasPath (j : Json) (path : String) : Prop :=
  ∃ es, j.HasField (treeFields.map (·.1)) "tree" (.array es) ∧
    ∃ e ∈ es, e.HasField (entryFields.map (·.1)) "path" (.text path)

def GivesReadme (j : Json) (name text : String) : Prop :=
  j.HasField (readmeFields.map (·.1)) name (.text text)

theorem branchOf?_isSome_iff (j : Json) :
    j.IsRecord branchFields ↔ ∃ b, branchOf? j = some b := by
  rw [branchFields, Json.isRecord_singleton_iff]
  constructor
  · rintro ⟨s, hs, hopt⟩
    obtain ⟨x, hx⟩ := (Slot.isOptional_iff Json.isText_iff s).mp hopt
    exact ⟨(x.filter (· ≠ "")).getD "main", by simp [branchOf?, hs, hx]⟩
  · rintro ⟨b, hb⟩
    simp only [branchOf?, Option.bind_eq_bind, Option.bind_eq_some_iff] at hb
    obtain ⟨ss, hss, hb⟩ := hb
    obtain ⟨s, rfl⟩ := Json.slots_singleton hss
    obtain ⟨x, hx, -⟩ := Option.bind_eq_some_iff.mp hb
    exact ⟨s, hss, (Slot.isOptional_iff Json.isText_iff s).mpr ⟨x, hx⟩⟩

/-- The branch that is read is the one that is named, and `main` if none is. -/
theorem branchOf?_eq {j : Json} {b : String} (h : branchOf? j = some b) :
    NamesBranch j b ∨ (∀ b', ¬ NamesBranch j b') ∧ b = "main" := by
  simp only [branchOf?, Option.bind_eq_bind, Option.bind_eq_some_iff] at h
  obtain ⟨ss, hss, h⟩ := h
  obtain ⟨s, rfl⟩ := Json.slots_singleton hss
  simp only [Option.bind_eq_some_iff, Option.pure_def, Option.some.injEq] at h
  obtain ⟨x, hx, rfl⟩ := h
  have hnames : ∀ b', NamesBranch j b' ↔ b' ≠ "" ∧ x = some b' := by
    intro b'
    have hplace : ("default_branch", s) ∈ ["default_branch"].zip [s] := by simp
    have hfield := Json.hasField_text_iff (by simp) hss hplace hx b'
    rw [NamesBranch]
    exact and_congr_right fun _ => hfield
  simp only [hnames]
  rcases x with _ | b'
  · simp
  · by_cases hb : b' = ""
    · simp [hb, Option.filter]
    · simp [hb, Option.filter]

/-! ## Trees -/

theorem pathOf?_isSome_iff (e : Json) :
    e.IsRecord entryFields ↔ ∃ x, pathOf? e = some x := by
  rw [entryFields, Json.isRecord_singleton_iff]
  constructor
  · rintro ⟨s, hs, hopt⟩
    obtain ⟨x, hx⟩ := (Slot.isOptional_iff Json.isText_iff s).mp hopt
    exact ⟨x, by simp [pathOf?, hs, hx]⟩
  · rintro ⟨x, hx⟩
    simp only [pathOf?, Option.bind_eq_bind, Option.bind_eq_some_iff] at hx
    obtain ⟨ss, hss, hx⟩ := hx
    obtain ⟨s, rfl⟩ := Json.slots_singleton hss
    exact ⟨s, hss, (Slot.isOptional_iff Json.isText_iff s).mpr ⟨x, hx⟩⟩

theorem pathOf?_eq_some_iff {e : Json} {x : Option String} (h : pathOf? e = some x) (p : String) :
    x = some p ↔ e.HasField (entryFields.map (·.1)) "path" (.text p) := by
  simp only [pathOf?, Option.bind_eq_bind, Option.bind_eq_some_iff] at h
  obtain ⟨ss, hss, hx⟩ := h
  obtain ⟨s, rfl⟩ := Json.slots_singleton hss
  exact (Json.hasField_text_iff (by simp) hss (by simp) hx p).symm

theorem mapM_pathOf?_eq_some_iff {es : List Json} {xs : List (Option String)} :
    es.mapM pathOf? = some xs ↔ List.Forall₂ (fun e x => pathOf? e = some x) es xs := by
  induction es generalizing xs with
  | nil => simp [eq_comm]
  | cons e es ih =>
    simp only [List.mapM_cons, Option.bind_eq_bind, Option.bind_eq_some_iff, Option.pure_def,
      Option.some.injEq, ih, List.forall₂_cons_left_iff]
    constructor
    · rintro ⟨x, hx, xs', hxs', rfl⟩
      exact ⟨x, xs', hx, hxs', rfl⟩
    · rintro ⟨x, xs', hx, hxs', rfl⟩
      exact ⟨x, hx, xs', hxs', rfl⟩

/-- The paths of entries can be read if and only if every entry is one. -/
theorem mapM_pathOf?_isSome_iff (es : List Json) :
    (∀ e ∈ es, e.IsRecord entryFields) ↔ ∃ xs, es.mapM pathOf? = some xs := by
  induction es with
  | nil => simp
  | cons e es ih =>
    rw [List.forall_mem_cons, ih, pathOf?_isSome_iff]
    simp only [mapM_pathOf?_eq_some_iff, List.forall₂_cons_left_iff]
    constructor
    · rintro ⟨⟨x, hx⟩, xs, hxs⟩
      exact ⟨_, x, xs, hx, hxs, rfl⟩
    · rintro ⟨_, x, xs, hx, hxs, -⟩
      exact ⟨⟨x, hx⟩, xs, hxs⟩

theorem mem_paths_iff {es : List Json} {xs : List (Option String)}
    (h : es.mapM pathOf? = some xs) (p : String) : p ∈ xs.filterMap id ↔
      ∃ e ∈ es, e.HasField (entryFields.map (·.1)) "path" (.text p) := by
  rw [mapM_pathOf?_eq_some_iff] at h
  induction h with
  | nil => simp
  | cons hx _ ih =>
    rw [List.exists_mem_cons_iff, ← ih, ← pathOf?_eq_some_iff hx]
    simp [List.mem_filterMap, eq_comm]

theorem entries_iff {s : Slot} :
    (∃ ps, (s.orElse [] fun v => do (← v.items?).mapM pathOf?) = some ps) ↔
      (s = .beyond ∨ s.IsOptional fun v => ∃ es, v = .array es ∧
        ∀ e ∈ es, e.IsRecord entryFields) ∧ s ≠ .given .null := by
  cases s with
  | given v =>
    cases v <;> simp [Slot.orElse, Slot.IsOptional, Json.items?, mapM_pathOf?_isSome_iff]
  | unnamed | beyond => simp [Slot.orElse, Slot.IsOptional]

theorem pathsOf?_eq_some_iff {j : Json} {ps : List String} : pathsOf? j = some ps ↔
    ∃ s xs, j.slots ["tree"] = some [s] ∧
      (s.orElse [] fun v => do (← v.items?).mapM pathOf?) = some xs ∧ ps = xs.filterMap id := by
  rw [pathsOf?, Option.bind_eq_bind, Option.bind_eq_some_iff]
  constructor
  · rintro ⟨ss, hss, h⟩
    obtain ⟨s, rfl⟩ := Json.slots_singleton hss
    simp only [Option.bind_eq_bind, Option.bind_eq_some_iff, Option.some.injEq] at h
    obtain ⟨xs, hxs, rfl⟩ := h
    exact ⟨s, xs, hss, hxs, rfl⟩
  · rintro ⟨s, xs, hs, hxs, rfl⟩
    exact ⟨[s], hs, by simp only [hxs]; rfl⟩

theorem hasField_tree_iff {j : Json} {s : Slot} (h : j.slots ["tree"] = some [s]) (v : Json) :
    j.HasField (treeFields.map (·.1)) "tree" v ↔ s = .given v :=
  Json.hasField_iff (by simp) h (by simp) v

theorem pathsOf?_isSome_iff (j : Json) : IsTree j ↔ ∃ ps, pathsOf? j = some ps := by
  simp only [pathsOf?_eq_some_iff]
  constructor
  · rintro ⟨hrecord, hlisted⟩
    obtain ⟨s, hs, hopt⟩ : ∃ s, j.slots ["tree"] = some [s] ∧
        (s = .beyond ∨ s.IsOptional fun v => ∃ es, v = .array es ∧
          ∀ e ∈ es, e.IsRecord entryFields) := by
      rcases hrecord with hrecord | hempty
      · obtain ⟨s, hs, hopt⟩ := Json.isRecord_singleton_iff.mp hrecord
        exact ⟨s, hs, Or.inr hopt⟩
      · exact ⟨.beyond, Json.slots_eq_beyond_iff.mpr hempty, Or.inl rfl⟩
    rw [hasField_tree_iff hs] at hlisted
    obtain ⟨xs, hxs⟩ := entries_iff.mpr ⟨hopt, hlisted⟩
    exact ⟨_, s, xs, hs, hxs, rfl⟩
  · rintro ⟨_, s, xs, hs, hxs, -⟩
    obtain ⟨hopt, hnull⟩ := entries_iff.mp ⟨xs, hxs⟩
    constructor
    · rcases hopt with rfl | hopt
      · exact Or.inr (Json.slots_eq_beyond_iff.mp hs)
      · exact Or.inl (Json.isRecord_singleton_iff.mpr ⟨s, hs, hopt⟩)
    · rw [hasField_tree_iff hs]
      exact hnull

theorem mem_pathsOf?_iff {j : Json} {ps : List String} (h : pathsOf? j = some ps) (p : String) :
    p ∈ ps ↔ HasPath j p := by
  obtain ⟨s, xs, hs, hxs, rfl⟩ := pathsOf?_eq_some_iff.mp h
  simp only [HasPath, hasField_tree_iff hs]
  cases s with
  | given v =>
    obtain ⟨es, hes, hpaths⟩ := Option.bind_eq_some_iff.mp hxs
    cases v <;> cases hes
    rw [mem_paths_iff hpaths]
    simp
  | unnamed | beyond =>
    cases hxs
    simp

/-! ## READMEs -/

theorem readmeOf?_eq_some_iff {j : Json} {x : Option String × Option String} :
    readmeOf? j = some x ↔ ∃ s t, j.slots ["content", "encoding"] = some [s, t] ∧
      s.optional Json.text? = some x.1 ∧ t.optional Json.text? = some x.2 := by
  rw [readmeOf?, Option.bind_eq_bind, Option.bind_eq_some_iff]
  constructor
  · rintro ⟨ss, hss, h⟩
    obtain ⟨s, t, rfl⟩ := Json.slots_pair hss
    simp only [Option.bind_eq_bind, Option.bind_eq_some_iff, Option.pure_def,
      Option.some.injEq] at h
    obtain ⟨c, hc, e, he, rfl⟩ := h
    exact ⟨s, t, hss, hc, he⟩
  · rintro ⟨s, t, hs, hc, he⟩
    exact ⟨[s, t], hs, by simp [hc, he]⟩

theorem readmeOf?_isSome_iff (j : Json) :
    j.IsRecord readmeFields ↔ ∃ x, readmeOf? j = some x := by
  simp only [readmeOf?_eq_some_iff]
  have hnames : readmeFields.map (·.1) = ["content", "encoding"] := rfl
  rw [Json.isRecord_iff, hnames]
  constructor
  · rintro ⟨ss, hss, hall⟩
    match ss, hss, hall with
    | [s, t], hss, .cons hs (.cons ht .nil) =>
      obtain ⟨c, hc⟩ := (Slot.isOptional_iff Json.isText_iff s).mp hs
      obtain ⟨e, he⟩ := (Slot.isOptional_iff Json.isText_iff t).mp ht
      exact ⟨(c, e), s, t, hss, hc, he⟩
  · rintro ⟨⟨c, e⟩, s, t, hss, hc, he⟩
    refine ⟨[s, t], hss, .cons ?_ (.cons ?_ .nil)⟩
    · exact (Slot.isOptional_iff Json.isText_iff s).mpr ⟨c, hc⟩
    · exact (Slot.isOptional_iff Json.isText_iff t).mpr ⟨e, he⟩

theorem givesReadme_iff {j : Json} {x : Option String × Option String} (h : readmeOf? j = some x)
    (t : String) : (GivesReadme j "content" t ↔ x.1 = some t) ∧
      (GivesReadme j "encoding" t ↔ x.2 = some t) := by
  obtain ⟨c, e, hslots, hc, he⟩ := readmeOf?_eq_some_iff.mp h
  have hnames : (readmeFields.map (·.1)).Nodup := by decide
  exact ⟨Json.hasField_text_iff hnames hslots (by simp [readmeFields]) hc t,
    Json.hasField_text_iff hnames hslots (by simp [readmeFields]) he t⟩

theorem base64Text_error {content : String} {e : SnapshotError}
    (h : base64Text content = .error e) :
    ∃ d, e = .decode d := by
  rw [base64Text] at h
  split at h
  · cases h
    exact ⟨_, rfl⟩
  · split at h
    · cases h
    · cases h
      exact ⟨_, rfl⟩

/-! ## What an exchange comes to -/

/-- The wording where the host knows nothing of what it is asked. -/
def Question.absent : Question → String
  | repository => "Repository not found."
  | tree _ => "Could not fetch repository file tree."
  | readme => "No README found for the specified repository."

/-- What is made of a body, none if it cannot be read. -/
def Question.read? : Question → Json → Option (Except SnapshotError String)
  | repository, j => (branchOf? j).map .ok
  | tree _, j => (pathsOf? j).map listing
  | readme, j => (readmeOf? j).map fun x => readmeText x.1 x.2

theorem Question.isReadable_iff (q : Question) (j : Json) :
    q.IsReadable j ↔ ∃ x, q.read? j = some x := by
  cases q with
  | repository => simp [IsReadable, read?, branchOf?_isSome_iff]
  | tree branch => simp [IsReadable, read?, pathsOf?_isSome_iff]
  | readme => simp [IsReadable, read?, readmeOf?_isSome_iff]

def payload? (r : Web.Response) : Option Json :=
  r.octets?.bind Json.ofOctets?

/-- What is read of an exchange, `missing` being the wording where the host knows nothing. -/
def readAnswer {α : Type} (read : Json → Option α) (missing : String) :
    Web.Outcome → Except SnapshotError α
  | .error f => .error (.transport f)
  | .ok r =>
    if r.status = 404 then .error (.notFound missing)
    else if !r.isSuccess then .error (.unsuccessful r.status r.text)
    else
      match (payload? r).bind read with
      | some a => .ok a
      | none => .error undecodable

theorem readAnswer_map {α β : Type} (read : Json → Option α) (f : α → Except SnapshotError β)
    (missing : String) (o : Web.Outcome) :
    (readAnswer (fun j => (read j).map f) missing o).bind id =
      (readAnswer read missing o).bind f := by
  cases o with
  | error f => rfl
  | ok r =>
    have hmap : ((payload? r).bind fun j => (read j).map f) = ((payload? r).bind read).map f := by
      cases payload? r <;> rfl
    simp only [readAnswer, hmap]
    split
    · rfl
    · split
      · rfl
      · cases (payload? r).bind read <;> rfl

/-- What an exchange comes to for whoever asked. -/
def Question.judge (q : Question) (o : Web.Outcome) : Except SnapshotError String :=
  (readAnswer q.read? q.absent o).bind id

theorem Question.judge_repository_eq (o : Web.Outcome) :
    repository.judge o = readAnswer branchOf? repository.absent o := by
  have hmap : repository.judge o = (readAnswer branchOf? repository.absent o).bind .ok :=
    readAnswer_map branchOf? _ _ o
  rw [hmap]
  cases readAnswer branchOf? repository.absent o <;> rfl

theorem Question.judge_tree_eq (branch : String) (o : Web.Outcome) :
    (tree branch).judge o = (readAnswer pathsOf? (tree branch).absent o).bind listing :=
  readAnswer_map pathsOf? _ _ o

theorem Question.judge_readme_eq (o : Web.Outcome) : readme.judge o =
    (readAnswer readmeOf? readme.absent o).bind fun x => readmeText x.1 x.2 :=
  readAnswer_map readmeOf? _ _ o

def IsSuccess (status : Nat) : Prop :=
  200 ≤ status ∧ status < 300

theorem isSuccess_iff (r : Web.Response) : r.isSuccess = true ↔ IsSuccess r.status := by
  simp [Web.Response.isSuccess, IsSuccess]

/-- How a success fails a question in spite of its status, and what is reported then. -/
inductive Question.Rejects : Question → Web.Response → SnapshotError → Prop
  /-- The body is nothing that the answer can be read from. -/
  | unreadable {q : Question} {r : Web.Response}
      (h : ∀ j, payload? r = some j → ¬ q.IsReadable j) : Rejects q r undecodable
  /-- No path in the tree is kept. -/
  | empty {branch : String} {r : Web.Response} {j : Json} (hj : payload? r = some j)
      (htree : IsTree j) (h : ∀ path, HasPath j path → isListed path = false) :
      Rejects (.tree branch) r .emptyListing
  /-- The README has no content. -/
  | missing {r : Web.Response} {j : Json} (hj : payload? r = some j)
      (hreadme : j.IsRecord readmeFields) (h : ∀ text, GivesReadme j "content" text → text = "") :
      Rejects .readme r .missingReadme
  /-- The README is said to be in base64, but its content is not. -/
  | garbled {r : Web.Response} {j : Json} {content d : String} (hj : payload? r = some j)
      (hreadme : j.IsRecord readmeFields) (hcontent : GivesReadme j "content" content)
      (hne : content ≠ "") (hencoding : GivesReadme j "encoding" "base64")
      (h : base64Text content = .error (.decode d)) : Rejects .readme r (.decode d)

/-- A success fails a question only where it cannot be read, lists nothing or has no README. -/
theorem Question.Rejects.cause {q : Question} {r : Web.Response} {e : SnapshotError}
    (h : q.Rejects r e) : e = .emptyListing ∨ e = .missingReadme ∨ ∃ d, e = .decode d := by
  cases h with
  | unreadable => exact Or.inr (Or.inr ⟨_, rfl⟩)
  | empty => exact Or.inl rfl
  | missing => exact Or.inr (Or.inl rfl)
  | garbled => exact Or.inr (Or.inr ⟨_, rfl⟩)

theorem listing_eq_error_iff {ps : List String} {e : SnapshotError} :
    listing ps = .error e ↔ e = .emptyListing ∧ ∀ p ∈ ps, isListed p = false := by
  have hnone : ps.filter isListed = [] ↔ ∀ p ∈ ps, isListed p = false := by
    simp [List.filter_eq_nil_iff]
  rw [listing, ← hnone]
  cases ps.filter isListed <;> simp [eq_comm]

theorem readmeText_eq_error_iff {c e : Option String} {x : SnapshotError} :
    readmeText c e = .error x ↔
      (x = .missingReadme ∧ ∀ text, c = some text → text = "") ∨
        ∃ text, c = some text ∧ text ≠ "" ∧ e = some "base64" ∧ base64Text text = .error x := by
  rw [readmeText]
  cases c with
  | none => simp [eq_comm]
  | some text =>
    by_cases htext : text = ""
    · simp [htext, Option.filter, eq_comm]
    · by_cases he : e = some "base64" <;> simp [htext, he, Option.filter]

/-- What of a body fails a question. -/
theorem Question.rejects_of_payload {q : Question} {r : Web.Response} {j : Json}
    (hj : payload? r = some j) {x : Except SnapshotError String} (hx : q.read? j = some x)
    (e : SnapshotError) : x = .error e ↔ q.Rejects r e := by
  have hsame : ∀ {k}, payload? r = some k → k = j := fun hk => Option.some.inj (hk.symm.trans hj)
  have hreadable : ¬ ∀ k, payload? r = some k → ¬ q.IsReadable k :=
    fun h => h j hj ((q.isReadable_iff j).mpr ⟨x, hx⟩)
  cases q with
  | repository =>
    obtain ⟨b, -, rfl⟩ := Option.map_eq_some_iff.mp hx
    constructor
    · exact nofun
    · rintro (h | _)
      exact absurd h hreadable
  | tree branch =>
    obtain ⟨ps, hps, rfl⟩ := Option.map_eq_some_iff.mp hx
    rw [listing_eq_error_iff]
    simp only [mem_pathsOf?_iff hps]
    constructor
    · rintro ⟨rfl, h⟩
      exact .empty hj ((pathsOf?_isSome_iff j).mpr ⟨ps, hps⟩) h
    · rintro (h | ⟨hk, -, h⟩)
      · exact absurd h hreadable
      · cases hsame hk
        exact ⟨rfl, h⟩
  | readme =>
    obtain ⟨⟨c, enc⟩, hc, rfl⟩ := Option.map_eq_some_iff.mp hx
    have hrecord : j.IsRecord readmeFields := (readmeOf?_isSome_iff j).mpr ⟨_, hc⟩
    have hcontent : ∀ t, GivesReadme j "content" t ↔ c = some t := fun t => (givesReadme_iff hc t).1
    have hencoding : ∀ t, GivesReadme j "encoding" t ↔ enc = some t :=
      fun t => (givesReadme_iff hc t).2
    rw [readmeText_eq_error_iff]
    constructor
    · rintro (⟨rfl, h⟩ | ⟨text, ht, hne, he, h⟩)
      · exact .missing hj hrecord fun text ht => h text ((hcontent text).mp ht)
      · obtain ⟨d, rfl⟩ := base64Text_error h
        exact .garbled hj hrecord ((hcontent text).mpr ht) hne ((hencoding _).mpr he) h
    · rintro (h | _ | ⟨hk, -, h⟩ | ⟨hk, -, ht, hne, he, h⟩)
      · exact absurd h hreadable
      · cases hsame hk
        exact Or.inl ⟨rfl, fun text ht => h text ((hcontent text).mpr ht)⟩
      · cases hsame hk
        exact Or.inr ⟨_, (hcontent _).mp ht, hne, (hencoding _).mp he, h⟩

theorem Question.judge_error (q : Question) (f : Web.Fault) :
    q.judge (.error f) = .error (.transport f) :=
  rfl

theorem Question.judge_of_isSuccess (q : Question) {r : Web.Response} (h : IsSuccess r.status) :
    q.judge (.ok r) = ((payload? r).bind q.read?).getD (.error undecodable) := by
  have hsuccess : r.isSuccess = true := (isSuccess_iff r).mpr h
  have hne : r.status ≠ 404 := by
    intro heq
    rw [IsSuccess, heq] at h
    omega
  rw [judge, readAnswer, if_neg hne, hsuccess, Bool.not_true, if_neg Bool.false_ne_true]
  cases (payload? r).bind q.read? <;> rfl

/-- **What fails a question in spite of a success.** -/
theorem Question.judge_eq_error_iff {q : Question} {r : Web.Response} (h : IsSuccess r.status)
    (e : SnapshotError) : q.judge (.ok r) = .error e ↔ q.Rejects r e := by
  rw [q.judge_of_isSuccess h]
  cases hx : (payload? r).bind q.read? with
  | some x =>
    obtain ⟨j, hj, hread⟩ := Option.bind_eq_some_iff.mp hx
    exact q.rejects_of_payload hj hread e
  | none =>
    have hunreadable : ∀ j, payload? r = some j → ¬ q.IsReadable j := by
      intro j hj hreadable
      obtain ⟨x, hread⟩ := (q.isReadable_iff j).mp hreadable
      rw [hj, Option.bind_some, hread] at hx
      cases hx
    constructor
    · intro he
      cases he
      exact .unreadable hunreadable
    · rintro (_ | ⟨hj, htree, -⟩ | ⟨hj, hreadme, -⟩ | ⟨hj, hreadme, -⟩)
      · rfl
      · exact absurd htree (hunreadable _ hj)
      · exact absurd hreadme (hunreadable _ hj)
      · exact absurd hreadme (hunreadable _ hj)

theorem Question.judge_of_not_isSuccess (q : Question) {r : Web.Response}
    (h : ¬ IsSuccess r.status) : q.judge (.ok r) =
      .error (if r.status = 404 then .notFound q.absent else .unsuccessful r.status r.text) := by
  have hsuccess : r.isSuccess = false := by
    rw [Bool.eq_false_iff]
    exact fun hs => h ((isSuccess_iff r).mp hs)
  rw [judge, readAnswer, hsuccess]
  by_cases h404 : r.status = 404 <;> simp [h404, Except.bind]

/-- A question fails because the host knows nothing of it if and only if the status is 404. -/
theorem Question.judge_eq_notFound_iff {q : Question} {o : Web.Outcome} {message : String} :
    q.judge o = .error (.notFound message) ↔
      message = q.absent ∧ ∃ r, o = .ok r ∧ r.status = 404 := by
  cases o with
  | error f => simp [judge_error]
  | ok r =>
    by_cases h : IsSuccess r.status
    · have hne : r.status ≠ 404 := by
        rw [IsSuccess] at h
        omega
      have hcause : ¬ q.Rejects r (.notFound message) := fun hr => by simpa using hr.cause
      simp [judge_eq_error_iff h, hcause, hne]
    · rw [judge_of_not_isSuccess q h]
      by_cases h404 : r.status = 404 <;> simp [h404, eq_comm]

/-- A question fails with a status and a body if and only if the host gives them and the status is
neither 404 nor a success. -/
theorem Question.judge_eq_unsuccessful_iff {q : Question} {o : Web.Outcome} {status : Nat}
    {body : String} : q.judge o = .error (.unsuccessful status body) ↔
      ∃ r, o = .ok r ∧ r.status = status ∧ r.text = body ∧ status ≠ 404 ∧ ¬ IsSuccess status := by
  cases o with
  | error f => simp [judge_error]
  | ok r =>
    by_cases h : IsSuccess r.status
    · have hcause : ¬ q.Rejects r (.unsuccessful status body) := fun hr => by simpa using hr.cause
      simp only [judge_eq_error_iff h, hcause, false_iff]
      rintro ⟨_, heq, rfl, -, -, hfail⟩
      cases heq
      exact hfail h
    · rw [judge_of_not_isSuccess q h]
      by_cases h404 : r.status = 404
      · simp [h404]
        rintro rfl - hne
        exact absurd rfl hne
      · simp [h404]
        rintro rfl -
        exact ⟨h404, h⟩

theorem Question.judge_eq_transport_iff {q : Question} {o : Web.Outcome} {f : Web.Fault} :
    q.judge o = .error (.transport f) ↔ o = .error f := by
  cases o with
  | error f' => simp [judge_error]
  | ok r =>
    by_cases h : IsSuccess r.status
    · have hcause : ¬ q.Rejects r (.transport f) := fun hr => by simpa using hr.cause
      simp [judge_eq_error_iff h, hcause]
    · rw [judge_of_not_isSuccess q h]
      by_cases h404 : r.status = 404 <;> simp [h404]

/-- What a question comes to was read in the body of a success. -/
theorem Question.read_of_judge {q : Question} {o : Web.Outcome} {text : String}
    (h : q.judge o = .ok text) : ∃ r j, o = .ok r ∧ IsSuccess r.status ∧ payload? r = some j ∧
      q.read? j = some (.ok text) := by
  cases o with
  | error f => cases h
  | ok r =>
    by_cases hs : IsSuccess r.status
    · rw [judge_of_isSuccess _ hs] at h
      cases hx : (payload? r).bind q.read? with
      | none =>
        rw [hx] at h
        cases h
      | some x =>
        obtain ⟨j, hj, hread⟩ := Option.bind_eq_some_iff.mp hx
        rw [hx, Option.getD_some] at h
        rw [h] at hread
        exact ⟨r, j, rfl, hs, hj, hread⟩
    · rw [judge_of_not_isSuccess _ hs] at h
      cases h

/-- The branch is the one that the answer names, and `main` if it names none. -/
theorem Question.judge_repository {o : Web.Outcome} {branch : String}
    (h : Question.repository.judge o = .ok branch) : ∃ r j, o = .ok r ∧ payload? r = some j ∧
      (NamesBranch j branch ∨ (∀ b, ¬ NamesBranch j b) ∧ branch = "main") := by
  obtain ⟨r, j, rfl, -, hj, hread⟩ := read_of_judge h
  obtain ⟨b, hb, hok⟩ := Option.map_eq_some_iff.mp hread
  cases hok
  exact ⟨r, j, rfl, hj, branchOf?_eq hb⟩

end Repository

end ArchDiagram
