import ArchDiagram.Proofs.Web.Path

/-!
# Addresses below a base

Whatever is written behind a base address and a slash changes nothing of where the base leads, but
for its path: the scheme, the host and the port are those of the base, and the path goes on where
that of the base ends.

* `Url.IsBase`: texts of addresses without a query and a fragment.
* `Url.parse?_below`: **what is read of a text behind a base**.
* `Url.IsBelow`: addresses with given names below a base.
* `Url.isBelow_iff`: **names reach the address that they name if and only if they are segments**.
-/

namespace ArchDiagram.Web.Url

open Text

/-! ## What stops a scan -/

section

variable {p : Char → Bool} {c : Char}

theorem dropWhile_append_cons (hc : p c = false) (a b : List Char) :
    (a ++ c :: b).dropWhile p = a.dropWhile p ++ c :: b := by
  rw [List.dropWhile_append, List.dropWhile_cons_of_neg (by simp [hc])]
  split <;> simp_all

theorem takeWhile_append_cons (hc : p c = false) (a b : List Char) :
    (a ++ c :: b).takeWhile p = a.takeWhile p := by
  rw [List.takeWhile_append, List.takeWhile_cons_of_neg (by simp [hc]), List.append_nil]
  split
  · rename_i h
    exact ((List.takeWhile_prefix p).eq_of_length h).symm
  · rfl

theorem length_takeWhile_le (p : Char → Bool) (a : List Char) :
    (a.takeWhile p).length ≤ a.length :=
  (List.takeWhile_sublist p).length_le

end

/-! ## The parts of a text behind a base -/

def trimEnd (cs : List Char) : List Char :=
  (cs.reverse.dropWhile isEdge).reverse

/-- What is kept of a text that ends an address. -/
def kept (tail : List Char) : List Char :=
  (trimEnd tail).filter fun c => !isDropped c

def pathPart (cs : List Char) : List Char :=
  (cs.takeWhile (· != '#')).takeWhile (· != '?')

def queryPart (cs : List Char) : Option String :=
  (afterFirst ((cs.takeWhile (· != '#')).drop (pathPart cs).length)).map fun q =>
    String.ofList (percentEncode encodedInQuery q)

/-- The characters of an address that are read. -/
def cleaned (cs : List Char) : List Char :=
  (trimBy isEdge cs).filter fun c => !isDropped c

/-- The address behind a scheme and its colon. -/
def afterScheme (scheme : String) (rest : List Char) : Option Url := do
  let rest := rest.dropWhile isSlash
  let shown := rest.takeWhile (· != '#')
  let front := shown.takeWhile fun c => !isSlash c && c != '?'
  let (host, port) ← authority? scheme front
  let afterHost := shown.drop front.length
  let path := afterHost.takeWhile (· != '?')
  let query := (afterFirst (afterHost.drop path.length)).map fun q =>
    String.ofList (percentEncode encodedInQuery q)
  let fragment := (afterFirst (rest.drop shown.length)).map fun f =>
    String.ofList (percentEncode encodedInFragment f)
  some ⟨scheme, host, port, segments path, query, fragment⟩

theorem parse?_eq (s : String) : parse? s = (scheme? (cleaned s.toList)).bind fun x =>
    if x.1 = "http" ∨ x.1 = "https" then afterScheme x.1 x.2 else none :=
  rfl

theorem cleaned_append_slash (a tail : List Char) :
    cleaned (a ++ '/' :: tail) =
      ((a.dropWhile isEdge).filter fun c => !isDropped c) ++ '/' :: kept tail := by
  have hedge : isEdge '/' = false := by decide
  have hdropped : isDropped '/' = false := by decide
  rw [cleaned, trimBy, dropWhile_append_cons hedge, List.reverse_append, List.reverse_cons,
    List.append_assoc, List.singleton_append, dropWhile_append_cons hedge, kept, trimEnd]
  simp [hdropped]

theorem scheme?_append_slash {a : List Char} {scheme : String} {rest : List Char}
    (h : scheme? (a ++ ['/']) = some (scheme, rest)) : ∃ b, rest = b ++ ['/'] ∧
      ∀ tail, scheme? (a ++ '/' :: tail) = some (scheme, b ++ '/' :: tail) := by
  have hfront : ∀ tail, (a ++ '/' :: tail).takeWhile
      (fun c => c.isAlphanum || c == '+' || c == '-' || c == '.') =
        a.takeWhile (fun c => c.isAlphanum || c == '+' || c == '-' || c == '.') :=
    takeWhile_append_cons (by decide) a
  have hle := length_takeWhile_le (fun c => c.isAlphanum || c == '+' || c == '-' || c == '.') a
  unfold scheme? at h ⊢
  simp only [hfront, List.drop_append_of_le_length hle] at h ⊢
  generalize a.takeWhile (fun c => c.isAlphanum || c == '+' || c == '-' || c == '.') = front at *
  split at h
  · rename_i c front rest hcolon
    split at h
    · rename_i hc
      cases h
      -- the colon stands before the slash, and what follows the slash is not looked at
      cases hb : a.drop (c :: front).length with
      | nil =>
        rw [hb] at hcolon
        cases hcolon
      | cons x b =>
        rw [hb] at hcolon
        obtain ⟨rfl, rfl⟩ := List.cons.inj hcolon
        exact ⟨b, rfl, fun tail => by simp only [List.cons_append, if_pos hc]⟩
    · cases h
  · cases h

theorem authority?_nil (scheme : String) : authority? scheme [] = none := by
  have hread : Host.read? [] = none := by decide +kernel
  rw [authority?]
  simp [afterLast, hread]

/-- The levels after a part of a path. -/
def push (done : List (List Char)) (s : List Char) : List (List Char) :=
  if isParent s then done.tail else if isSelf s then done else s :: done

theorem resolve_append (done front : List (List Char)) {ps : List (List Char)} (hne : ps ≠ []) :
    resolve done (front ++ ps) = resolve (front.foldl push done) ps := by
  induction front generalizing done with
  | nil => rfl
  | cons s front ih =>
    obtain ⟨t, rest, hrest⟩ := List.exists_cons_of_ne_nil
      (List.append_ne_nil_of_right_ne_nil front hne)
    rw [List.cons_append, List.foldl_cons, ← ih, hrest, resolve, push]
    split
    · rfl
    · split <;> rfl

theorem segments_eq (cs : List Char) :
    segments cs = (resolve [] (splitBy isSlash (cs.drop 1))).map sentSegment :=
  rfl

/-- A path goes on where the path before it ends. -/
theorem exists_segments (front : List Char) : ∃ done,
    ∀ path, segments (front ++ '/' :: path) =
      (resolve done (splitBy isSlash path)).map sentSegment := by
  cases front with
  | nil => exact ⟨[], fun path => rfl⟩
  | cons c front =>
    refine ⟨(splitBy isSlash front).foldl push [], fun path => ?_⟩
    rw [segments_eq, List.cons_append, List.drop_one, List.tail_cons,
      splitBy_append_cons (by decide), resolve_append _ _ (splitBy_ne_nil _ _)]

theorem afterFirst_eq_none_iff {cs : List Char} : afterFirst cs = none ↔ cs = [] := by
  cases cs <;> simp [afterFirst]

theorem drop_takeWhile_eq_nil_iff {p : Char → Bool} {cs : List Char} :
    cs.drop (cs.takeWhile p).length = [] ↔ ∀ c ∈ cs, p c = true := by
  rw [List.drop_eq_nil_iff, ← List.takeWhile_eq_self_iff]
  constructor
  · intro h
    exact (List.takeWhile_sublist p).eq_of_length_le h
  · intro h
    rw [h]

/-- A text without characters that stop a scan, and what follows it. -/
theorem takeWhile_append_cons_of_forall {p : Char → Bool} {a : List Char} {c : Char}
    (ha : ∀ x ∈ a, p x = true) (hc : p c = true) (b : List Char) :
    (a ++ c :: b).takeWhile p = a ++ c :: b.takeWhile p := by
  rw [List.takeWhile_append_of_pos ha, List.takeWhile_cons_of_pos hc]

theorem drop_length_append_cons (a : List Char) (c : Char) (x b : List Char) :
    (a ++ c :: b).drop (a ++ c :: x).length = b.drop x.length := by
  rw [List.length_append, List.drop_append]
  simp

/-- An authority stands between the slashes behind a scheme and the next. -/
theorem exists_dropWhile_isSlash {scheme : String} {a : List Char} {base : Url}
    (h : afterScheme scheme (a ++ ['/']) = some base) :
    ∃ b, ∀ tail, (a ++ '/' :: tail).dropWhile isSlash = b ++ '/' :: tail := by
  cases hb : a.dropWhile isSlash with
  | nil =>
    have hrest : (a ++ ['/']).dropWhile isSlash = [] := by
      rw [List.dropWhile_append, hb]
      rfl
    simp only [afterScheme, hrest, List.takeWhile_nil, authority?_nil] at h
    cases h
  | cons c b =>
    refine ⟨c :: b, fun tail => ?_⟩
    rw [List.dropWhile_append, hb]
    rfl

/-- What is read behind a scheme if a slash and more follow. -/
theorem afterScheme_append_slash {scheme : String} {a : List Char} {base : Url}
    (h : afterScheme scheme (a ++ ['/']) = some base) (hquery : base.query = none)
    (hfragment : base.fragment = none) : ∃ done,
      base.path = (done.reverse ++ [[]]).map sentSegment ∧
        ∀ tail, ∃ fragment, afterScheme scheme (a ++ '/' :: tail) = some
          ⟨base.scheme, base.host, base.port,
            (resolve done (splitBy isSlash (pathPart tail))).map sentSegment, queryPart tail,
            fragment⟩ := by
  obtain ⟨b, hrest⟩ := exists_dropWhile_isSlash h
  unfold afterScheme at h ⊢
  simp only [hrest, Option.bind_eq_bind] at h ⊢
  obtain ⟨⟨host, port⟩, hauthority, hbase⟩ := Option.bind_eq_some_iff.mp h
  cases hbase
  dsimp only at hquery hfragment ⊢
  rw [Option.map_eq_none_iff, afterFirst_eq_none_iff, drop_takeWhile_eq_nil_iff] at hfragment hquery
  have hb : ∀ c ∈ b, (c != '#') = true := fun c hc => hfragment c (by simp [hc])
  have hshown : ∀ tail, (b ++ '/' :: tail).takeWhile (· != '#') =
      b ++ '/' :: tail.takeWhile (· != '#') := takeWhile_append_cons_of_forall hb (by decide)
  have hfront : ∀ tail, (b ++ '/' :: tail).takeWhile (fun c => !isSlash c && c != '?') =
      b.takeWhile (fun c => !isSlash c && c != '?') := takeWhile_append_cons (by decide) b
  have hle := length_takeWhile_le (fun c => !isSlash c && c != '?') b
  simp only [hshown, hfront, List.drop_append_of_le_length hle] at hauthority hquery ⊢
  generalize b.drop (b.takeWhile fun c => !isSlash c && c != '?').length = path at hquery ⊢
  have hpath : ∀ c ∈ path, (c != '?') = true := fun c hc => hquery c (by simp [hc])
  have htaken : ∀ tail, (path ++ '/' :: tail).takeWhile (· != '?') =
      path ++ '/' :: tail.takeWhile (· != '?') := takeWhile_append_cons_of_forall hpath (by decide)
  obtain ⟨done, hdone⟩ := exists_segments path
  refine ⟨done, ?_, fun tail => ?_⟩
  · have hempty : ∀ s ∈ [[]], ¬ IsDots s := by
      simpa using not_isDots_nil
    rw [List.takeWhile_nil, htaken, hdone, List.takeWhile_nil, splitBy_of_forall (by simp),
      resolve_of_forall done hempty]
  · rw [hauthority, Option.bind_some]
    simp only [htaken, hdone, drop_length_append_cons]
    exact ⟨_, rfl⟩

/-! ## Bases -/

/-- The text, with a slash behind it, denotes an address without a query and a fragment. -/
structure IsBase (text : String) (base : Url) : Prop where
  parse : parse? (text ++ "/") = some base
  query : base.query = none
  fragment : base.fragment = none

/-- **What is read of a text behind a base**: the base, whose path goes on with that of the text. -/
theorem parse?_below {text : String} {base : Url} (h : IsBase text base) : ∃ done,
    base.path = (done.reverse ++ [[]]).map sentSegment ∧
      ∀ tail : String, ∃ fragment, parse? (text ++ "/" ++ tail) = some
        ⟨base.scheme, base.host, base.port,
          (resolve done (splitBy isSlash (pathPart (kept tail.toList)))).map sentSegment,
          queryPart (kept tail.toList), fragment⟩ := by
  have hslash : ∀ tail : String,
      (text ++ "/" ++ tail).toList = text.toList ++ '/' :: tail.toList := by
    intro tail
    simp
  have hparse := h.parse
  have htext : text ++ "/" = text ++ "/" ++ "" := by simp
  rw [htext, parse?_eq, hslash, cleaned_append_slash] at hparse
  obtain ⟨⟨scheme, rest⟩, hscheme, hafter⟩ := Option.bind_eq_some_iff.mp hparse
  obtain ⟨b, rfl, hall⟩ := scheme?_append_slash hscheme
  split at hafter
  · rename_i hweb
    obtain ⟨done, hpath, htail⟩ := afterScheme_append_slash hafter h.query h.fragment
    refine ⟨done, hpath, fun tail => ?_⟩
    obtain ⟨fragment, heq⟩ := htail (kept tail.toList)
    refine ⟨fragment, ?_⟩
    rw [parse?_eq, hslash, cleaned_append_slash, hall, Option.bind_some, if_pos hweb]
    exact heq
  · cases hafter

/-! ## What is kept of names -/

theorem trimEnd_sublist (cs : List Char) : (trimEnd cs).Sublist cs := by
  have hsub := (List.dropWhile_sublist isEdge (l := cs.reverse)).reverse
  rwa [List.reverse_reverse] at hsub

theorem trimEnd_append_cons {c : Char} (hc : isEdge c = false) (a b : List Char) :
    trimEnd (a ++ c :: b) = a ++ c :: trimEnd b := by
  rw [trimEnd, List.reverse_append, List.reverse_cons, List.append_assoc, List.singleton_append,
    dropWhile_append_cons hc, trimEnd]
  simp

theorem trimEnd_of_forall {cs : List Char} (h : ∀ c ∈ cs, isEdge c = false) : trimEnd cs = cs := by
  have hdrop : cs.reverse.dropWhile isEdge = cs.reverse := by
    cases hr : cs.reverse with
    | nil => rfl
    | cons c rest =>
      have hc : c ∈ cs := List.mem_reverse.mp (hr ▸ List.mem_cons_self)
      rw [List.dropWhile_cons_of_neg (by simp [h c hc])]
  rw [trimEnd, hdrop, List.reverse_reverse]

def pathOf (cs : List Char) : List Char :=
  pathPart (cs.filter fun c => !isDropped c)

theorem pathPart_sublist (cs : List Char) : (pathPart cs).Sublist cs :=
  (List.takeWhile_sublist _).trans (List.takeWhile_sublist _)

theorem pathOf_sublist (cs : List Char) : (pathOf cs).Sublist cs :=
  (pathPart_sublist _).trans List.filter_sublist

theorem pathOf_eq_iff {cs : List Char} :
    pathOf cs = cs ↔ ∀ c ∈ cs, isDropped c = false ∧ c ≠ '#' ∧ c ≠ '?' := by
  constructor
  · intro h c hc
    rw [← h, pathOf, pathPart] at hc
    have hquery := List.mem_takeWhile_imp hc
    have hmem := (List.takeWhile_sublist _).mem hc
    have hfragment := List.mem_takeWhile_imp hmem
    have hkept := (List.mem_filter.mp ((List.takeWhile_sublist _).mem hmem)).2
    exact ⟨by simpa using hkept, by simpa using hfragment, by simpa using hquery⟩
  · intro h
    have hkept : cs.filter (fun c => !isDropped c) = cs :=
      List.filter_eq_self.mpr fun c hc => by simp [(h c hc).1]
    have hfragment : cs.takeWhile (· != '#') = cs :=
      List.takeWhile_eq_self_iff.mpr fun c hc => by simp [(h c hc).2.1]
    have hquery : cs.takeWhile (· != '?') = cs :=
      List.takeWhile_eq_self_iff.mpr fun c hc => by simp [(h c hc).2.2]
    rw [pathOf, hkept, pathPart, hfragment, hquery]

def queryText : Option String → List Char
  | none => []
  | some q => '?' :: q.toList

/-- A path without what is dropped at its end, which is nothing if a query follows. -/
def pathEnd (query : Option String) (cs : List Char) : List Char :=
  if query = none then trimEnd cs else cs

theorem pathEnd_sublist (query : Option String) (cs : List Char) :
    (pathEnd query cs).Sublist cs := by
  rw [pathEnd]
  split
  · exact trimEnd_sublist cs
  · exact List.Sublist.refl cs

theorem pathEnd_eq_iff {query : Option String} {cs : List Char} :
    pathEnd query cs = cs ↔ (query = none → trimEnd cs = cs) := by
  rw [pathEnd]
  split <;> simp_all

/-- A query that is sent as it is written. -/
def IsPlainQuery (query : Option String) : Prop :=
  ∀ q, query = some q → ∀ c ∈ q.toList, encodedInQuery c = false

theorem of_not_encodedInQuery {c : Char} (h : encodedInQuery c = false) :
    isEdge c = false ∧ isDropped c = false ∧ c ≠ '#' := by
  have hforeign : ∀ {d : Char}, d.toNat < 0x20 → c ≠ d := by
    rintro d hd rfl
    simp [encodedInQuery, isForeign, hd] at h
  refine ⟨?_, ?_, ?_⟩
  · by_contra hedge
    simp only [isEdge, decide_eq_false_iff_not, not_not] at hedge
    rcases Nat.lt_or_eq_of_le hedge with hlt | heq
    · exact hforeign hlt rfl
    · have hspace : c = ' ' := Char.toNat_inj.mp heq
      rw [hspace] at h
      exact absurd h (by decide)
  · simp [isDropped, hforeign (d := '\t') (by decide), hforeign (d := '\n') (by decide),
      hforeign (d := '\r') (by decide)]
  · rintro rfl
    exact absurd h (by decide)

theorem percentEncode_of_forall {p : Char → Bool} {cs : List Char} (h : ∀ c ∈ cs, p c = false) :
    percentEncode p cs = cs := by
  induction cs with
  | nil => rfl
  | cons c cs ih =>
    rw [List.forall_mem_cons] at h
    rw [Host.percentEncode_cons, ih h.2, h.1]
    rfl

/-- What is kept of a path and a query. -/
theorem kept_append_queryText {query : Option String} (hquery : IsPlainQuery query)
    (cs : List Char) : kept (cs ++ queryText query) =
      (pathEnd query cs).filter (fun c => !isDropped c) ++ queryText query := by
  cases query with
  | none => simp [queryText, kept, pathEnd]
  | some q =>
    have hplain := fun c hc => of_not_encodedInQuery (hquery q rfl c hc)
    have htrim : trimEnd q.toList = q.toList := trimEnd_of_forall fun c hc => (hplain c hc).1
    have hfilter : q.toList.filter (fun c => !isDropped c) = q.toList :=
      List.filter_eq_self.mpr fun c hc => by simp [(hplain c hc).2.1]
    have hmark : isDropped '?' = false := by decide
    rw [queryText, kept, trimEnd_append_cons (by decide), htrim, List.filter_append,
      List.filter_cons_of_pos (by simp [hmark]), hfilter, pathEnd,
      if_neg (by simp)]

theorem pathPart_kept {query : Option String} (hquery : IsPlainQuery query) (cs : List Char) :
    pathPart (kept (cs ++ queryText query)) = pathOf (pathEnd query cs) := by
  rw [kept_append_queryText hquery, pathOf]
  generalize (pathEnd query cs).filter (fun c => !isDropped c) = path
  cases query with
  | none => rw [queryText, List.append_nil]
  | some q =>
    rw [pathPart, pathPart, List.takeWhile_takeWhile, List.takeWhile_takeWhile, queryText,
      takeWhile_append_cons (by simp)]

/-- A query is kept if it stands behind a path that is kept. -/
theorem queryPart_kept {query : Option String} (hquery : IsPlainQuery query) {cs : List Char}
    (hpath : ∀ c ∈ cs, isDropped c = false ∧ c ≠ '#' ∧ c ≠ '?')
    (hend : pathEnd query cs = cs) : queryPart (kept (cs ++ queryText query)) = query := by
  have hfilter : cs.filter (fun c => !isDropped c) = cs :=
    List.filter_eq_self.mpr fun c hc => by simp [(hpath c hc).1]
  have hpart := pathPart_kept hquery cs
  rw [hend, pathOf_eq_iff.mpr hpath] at hpart
  have hfragment : (cs ++ queryText query).takeWhile (· != '#') = cs ++ queryText query := by
    rw [List.takeWhile_eq_self_iff]
    intro c hc
    rcases List.mem_append.mp hc with hc | hc
    · simpa using (hpath c hc).2.1
    · cases query with
      | none => cases hc
      | some q =>
        rcases List.mem_cons.mp hc with rfl | hc
        · decide
        · simpa using (of_not_encodedInQuery (hquery q rfl c hc)).2.2
  rw [queryPart, hpart, kept_append_queryText hquery, hend, hfilter, hfragment, List.drop_left]
  cases query with
  | none => rfl
  | some q =>
    rw [queryText, afterFirst, Option.map_some, percentEncode_of_forall (hquery q rfl),
      String.ofList_toList]

/-! ## Names below a base -/

/-- An address at given names below a base, with a given query. -/
structure IsBelow (u base : Url) (names : List (List Char)) (query : Option String) : Prop where
  scheme : u.scheme = base.scheme
  host : u.host = base.host
  port : u.port = base.port
  path : ∃ sent, u.path = base.path.dropLast ++ sent ∧ List.Forall₂ Names sent names
  query : u.query = query

theorem isSegment_of_joined {names : List (List Char)}
    (hplain : ∀ c ∈ joined names, isDropped c = false ∧ c ≠ '#' ∧ c ≠ '?')
    (hsplit : splitBy isSlash (joined names) = names)
    (hnames : ∀ name ∈ names, ¬ IsDots name ∧ ¬ Host.HoldsEscape name) :
    ∀ name ∈ names, IsSegment name := by
  intro name hname
  obtain ⟨hdots, hescape⟩ := hnames name hname
  refine ⟨?_, ?_, ?_, hescape⟩
  · intro c hc
    have hslash := of_mem_splitBy (hsplit.symm ▸ hname) c hc
    obtain ⟨hdropped, hfragment, hquery⟩ := hplain c (mem_joined hname hc)
    simp_all [isSlash, isDropped, delimiters]
  · rintro rfl
    exact hdots isDots_self
  · rintro rfl
    exact hdots isDots_parent

theorem plain_joined {names : List (List Char)} (h : ∀ name ∈ names, IsSegment name) :
    ∀ c ∈ joined names, isDropped c = false ∧ c ≠ '#' ∧ c ≠ '?' := by
  intro c hc
  rcases of_mem_joined hc with rfl | ⟨name, hname, hmem⟩
  · decide
  · have hplain := (h name hname).plain c hmem
    simp_all [isDropped, delimiters]

/-- **Names reach the address that they name if and only if they are segments**, and nothing is
dropped at the end of the last one. -/
theorem isBelow_iff {text : String} {base : Url} (h : IsBase text base) {names : List (List Char)}
    (hne : names ≠ []) {query : Option String} (hquery : IsPlainQuery query) {tail : String}
    (htail : tail.toList = joined names ++ queryText query) :
    (∃ u, parse? (text ++ "/" ++ tail) = some u ∧ u.IsBelow base names query) ↔
      (∀ name ∈ names, IsSegment name) ∧
        (query = none → trimEnd (joined names) = joined names) := by
  obtain ⟨done, hbase, hall⟩ := parse?_below h
  obtain ⟨fragment, hparse⟩ := hall tail
  have hlevels : base.path.dropLast = done.reverse.map sentSegment := by
    rw [hbase, List.map_append, List.map_singleton, List.dropLast_concat]
  rw [htail, pathPart_kept hquery] at hparse
  rw [← pathEnd_eq_iff]
  constructor
  · rintro ⟨u, hu, hbelow⟩
    obtain ⟨sent, hsent, hnames⟩ := hbelow.path
    rw [hparse, Option.some.injEq] at hu
    rw [← hu, hlevels] at hsent
    have hend := pathEnd_sublist query (joined names)
    have hsub := pathOf_sublist (pathEnd query (joined names))
    obtain ⟨hpath, hsplit, hdots⟩ := eq_joined_of_names hne (hsub.trans hend) hsent hnames
    rw [hpath] at hsub hsplit
    have hwhole := hend.antisymm hsub
    rw [hwhole] at hpath
    exact ⟨isSegment_of_joined (pathOf_eq_iff.mp hpath) hsplit hdots, hwhole⟩
  · rintro ⟨hsegments, hend⟩
    have hplain := plain_joined hsegments
    obtain ⟨sent, hsent, hnames⟩ := names_of_isSegment done hne hsegments
    rw [hend, pathOf_eq_iff.mpr hplain] at hparse
    refine ⟨_, hparse, rfl, rfl, rfl, ⟨sent, ?_, hnames⟩, ?_⟩
    · rw [hlevels]
      exact hsent
    · exact queryPart_kept hquery hplain hend

theorem IsBelow.unique {base u : Url} {names names' : List (List Char)}
    {query query' : Option String} (h : u.IsBelow base names query)
    (h' : u.IsBelow base names' query') : names = names' := by
  obtain ⟨sent, hsent, hnames⟩ := h.path
  obtain ⟨sent', hsent', hnames'⟩ := h'.path
  rw [hsent] at hsent'
  rw [← List.append_cancel_left hsent'] at hnames'
  have hunique : Relator.RightUnique Names := fun _ _ _ ha hb => ha.unique hb
  exact List.right_unique_forall₂' hunique hnames hnames'

end ArchDiagram.Web.Url
