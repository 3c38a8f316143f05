import ArchDiagram.Proofs.Json.Read
import ArchDiagram.Proofs.Provider.Limit
import ArchDiagram.Proofs.Run.Gate
import ArchDiagram.Service

/-!
# What a count comes to

The body of a count arrives in pieces.  They are put together as long as the body is not larger than
it may be, and what has been put together is read at the end.  So the limit is enforced piece by
piece.  Yet whether it is kept is up to the whole body: what has been put together is always the
beginning of the body, and a beginning that is too large makes the whole too large.

* `Gathering`: the stages of a body that is being put together.
* `Gathering.beginning`, `gathering_of_le`: they are the beginnings that are not too large.
* `Outgrows`, `gather_of_outgrows`: the piece with which a body becomes too large.
* `Tells`, `TellsNone`: the bodies that tell a number of tokens, and those that leave it out.
* `told_tokensOf`: **what is read of a body is what it tells**.
* `Client.counts`: **what a count comes to, for every body and every way to cut it**.
-/

namespace ArchDiagram

namespace Provider

/-! ## The failures of a count -/

def tooLarge (size : Nat) : ProviderError :=
  .failed "openai" ("Response too large: " ++ Decimal.text size ++ " bytes") none

def noCount : ProviderError :=
  .failed "openai" "OpenAI input token count returned invalid payload." none

/-- The body of a count is not one.  The wording does not say why (`tokensOf`). -/
def malformed : ProviderError :=
  .failed "openai" "Invalid JSON: not a token count" none

theorem noCount_ne_malformed : noCount ≠ malformed := by
  decide

theorem tooLarge_injective : Function.Injective tooLarge := by
  intro m n h
  have htext : "Response too large: " ++ Decimal.text m ++ " bytes" =
      "Response too large: " ++ Decimal.text n ++ " bytes" := by
    injection h
  rw [← String.toList_inj, String.toList_append, String.toList_append, String.toList_append,
    String.toList_append] at htext
  have hchars : Decimal.chars m = Decimal.chars n := by
    simpa [Decimal.text] using htext
  exact Decimal.chars_injective hchars

/-- A text that begins with `R` is none of the other two. -/
theorem tooLarge_ne (size : Nat) : tooLarge size ≠ noCount ∧ tooLarge size ≠ malformed := by
  have hhead : ∀ t : String, t.toList.head? ≠ some 'R' →
      tooLarge size ≠ .failed "openai" t none := by
    intro t ht h
    have htext : "Response too large: " ++ Decimal.text size ++ " bytes" = t := by
      injection h
    apply ht
    rw [← htext, String.toList_append, String.toList_append]
    rfl
  exact ⟨hhead _ (by decide), hhead _ (by decide)⟩

/-! ## Putting a body together -/

section Gathering

variable {pieces done rest : List (List UInt8)} {p : List UInt8} {size : Nat}

/-- The stages of a body that is being put together: the octets so far, the pieces so far with the
last one first, and the pieces to come. -/
inductive Gathering (pieces : List (List UInt8)) :
    Nat → List (List UInt8) → List (List UInt8) → Prop
  | start : Gathering pieces 0 [] pieces
  | next {size : Nat} {done rest : List (List UInt8)} {p : List UInt8} :
      Gathering pieces size done (p :: rest) → size + p.length ≤ countLimit →
      Gathering pieces (size + p.length) (p :: done) rest

/-- From a stage on it comes to what it comes to from the start. -/
theorem Gathering.gather_eq (h : Gathering pieces size done rest) (wait : Duration)
    (fault : Option Web.Fault) :
    gather wait fault 0 [] pieces = gather wait fault size done rest := by
  induction h with
  | start => rfl
  | next _ hsize ih => rw [ih, gather, if_neg (Nat.not_lt.mpr hsize)]

/-- **What has been put together is a beginning of the body** and is not too large. -/
theorem Gathering.beginning (h : Gathering pieces size done rest) :
    done.reverse ++ rest = pieces ∧ size = done.reverse.flatten.length ∧ size ≤ countLimit := by
  induction h with
  | start => exact ⟨rfl, rfl, Nat.zero_le _⟩
  | next _ hsize ih =>
    obtain ⟨hpieces, hlength, -⟩ := ih
    refine ⟨?_, ?_, hsize⟩
    · rw [List.reverse_cons, List.append_assoc]
      exact hpieces
    · rw [List.reverse_cons, List.flatten_append, List.length_append, ← hlength,
        List.flatten_singleton]

theorem Gathering.length_le (h : Gathering pieces size done rest) :
    done.reverse.flatten.length ≤ countLimit := by
  obtain ⟨-, hlength, hsize⟩ := h.beginning
  rwa [← hlength]

theorem Gathering.isPrefix (h : Gathering pieces size done rest) :
    done.reverse.flatten <+: pieces.flatten := by
  obtain ⟨hpieces, -, -⟩ := h.beginning
  rw [← hpieces, List.flatten_append]
  exact List.prefix_append _ _

theorem gathering_of_le (before rest : List (List UInt8))
    (hsize : before.flatten.length ≤ countLimit) :
    Gathering (before ++ rest) before.flatten.length before.reverse rest := by
  -- a beginning grows at its end, so the induction is from there
  induction before using List.reverseRecOn generalizing rest with
  | nil => exact .start
  | append_singleton before p ih =>
    have hlength : (before ++ [p]).flatten.length = before.flatten.length + p.length := by
      rw [List.flatten_append, List.length_append, List.flatten_singleton]
    rw [hlength] at hsize ⊢
    rw [List.append_assoc, List.reverse_append]
    exact .next (ih _ (by omega)) hsize

/-- A body becomes too large with one of its pieces: it is not before, and of this size after. -/
def Outgrows (pieces : List (List UInt8)) (size : Nat) : Prop :=
  ∃ before p rest, pieces = before ++ p :: rest ∧ before.flatten.length ≤ countLimit ∧
    countLimit < size ∧ size = before.flatten.length + p.length

/-- A body becomes too large if and only if it is, wherever it is cut. -/
theorem exists_outgrows_iff : (∃ size, Outgrows pieces size) ↔
    countLimit < pieces.flatten.length := by
  constructor
  · rintro ⟨_, before, p, rest, rfl, -, hlimit, rfl⟩
    rw [List.flatten_append, List.flatten_cons, List.length_append, List.length_append]
    omega
  · intro hlarge
    induction pieces using List.reverseRecOn with
    | nil => exact absurd hlarge (Nat.not_lt_zero countLimit)
    | append_singleton pieces p ih =>
      by_cases hbefore : countLimit < pieces.flatten.length
      · obtain ⟨size, before, p', rest, rfl, h⟩ := ih hbefore
        exact ⟨size, before, p', rest ++ [p], by simp, h⟩
      · rw [List.flatten_append, List.length_append, List.flatten_singleton] at hlarge
        exact ⟨_, pieces, p, [], rfl, Nat.not_lt.mp hbefore, hlarge, rfl⟩

theorem Outgrows.lt (h : Outgrows pieces size) : countLimit < pieces.flatten.length :=
  exists_outgrows_iff.mp ⟨size, h⟩

/-- A body that is not too large is put together as a whole. -/
theorem gather_of_le (wait : Duration) (hsize : pieces.flatten.length ≤ countLimit) :
    gather wait none 0 [] pieces = .ok pieces.flatten := by
  have h := gathering_of_le pieces [] hsize
  rw [List.append_nil] at h
  rw [h.gather_eq, gather, List.reverse_reverse]

/-- A body that is too large fails with the piece that makes it so. -/
theorem gather_of_outgrows (wait : Duration) (fault : Option Web.Fault)
    (h : Outgrows pieces size) : gather wait fault 0 [] pieces = .error (tooLarge size) := by
  obtain ⟨before, p, rest, rfl, hbefore, hlimit, rfl⟩ := h
  rw [(gathering_of_le before _ hbefore).gather_eq, gather, if_pos hlimit]
  rfl

theorem Outgrows.unique {size' : Nat} (h : Outgrows pieces size) (h' : Outgrows pieces size') :
    size = size' := by
  have heq := gather_of_outgrows ⟨0⟩ none h
  rw [gather_of_outgrows ⟨0⟩ none h'] at heq
  exact (tooLarge_injective (Except.error.inj heq)).symm

end Gathering

/-! ## What a body tells -/

def IsCount (v : Json) : Prop :=
  ∃ n < 2 ^ 64, v = .nat n

def countFields : Json.Fields :=
  [("input_tokens", IsCount)]

def HasCount (j v : Json) : Prop :=
  j.HasField (countFields.map (·.1)) "input_tokens" v

/-- A body tells a number of tokens. -/
def Tells (body : List UInt8) (n : Nat) : Prop :=
  ∃ j, Json.ofOctets? body = some j ∧ j.IsRecord countFields ∧ HasCount j (.nat n)

/-- A body is a count without a number: this is left out or `null`. -/
def TellsNone (body : List UInt8) : Prop :=
  ∃ j, Json.ofOctets? body = some j ∧ j.IsRecord countFields ∧ ∀ v, HasCount j v → v = .null

/-- What is read of a body, by what it tells. -/
inductive Told (body : List UInt8) : Except ProviderError Nat → Prop
  | number {n : Nat} : Tells body n → Told body (.ok n)
  | nothing : TellsNone body → Told body (.error noCount)
  | unreadable : (∀ n, ¬ Tells body n) → ¬ TellsNone body → Told body (.error malformed)

section Reading

variable {body : List UInt8} {j : Json} {s : Slot}

theorem hasCount_iff (hs : j.slots ["input_tokens"] = some [s]) (v : Json) :
    HasCount j v ↔ s = .given v :=
  Json.hasField_iff (by simp) hs (by simp) v

theorem isRecord_countFields_iff (hs : j.slots ["input_tokens"] = some [s]) :
    j.IsRecord countFields ↔ s.IsOptional IsCount := by
  rw [countFields, Json.isRecord_singleton_iff]
  constructor
  · rintro ⟨s', hs', hopt⟩
    rw [hs] at hs'
    cases hs'
    exact hopt
  · exact fun hopt => ⟨s, hs, hopt⟩

theorem exists_slot (h : j.IsRecord countFields) : ∃ s, j.slots ["input_tokens"] = some [s] := by
  obtain ⟨s, hs, -⟩ := Json.isRecord_singleton_iff.mp h
  exact ⟨s, hs⟩

theorem tells_iff (hj : Json.ofOctets? body = some j) (hs : j.slots ["input_tokens"] = some [s])
    (n : Nat) : Tells body n ↔ s = .given (.nat n) ∧ n < 2 ^ 64 := by
  simp only [Tells, hj, Option.some.injEq, exists_eq_left', isRecord_countFields_iff hs,
    hasCount_iff hs]
  constructor
  · rintro ⟨hopt, rfl⟩
    rcases hopt with hnull | ⟨k, hk, hkn⟩
    · cases hnull
    · rw [Json.nat_injective hkn]
      exact ⟨rfl, hk⟩
  · rintro ⟨rfl, hlt⟩
    exact ⟨Or.inr ⟨n, hlt, rfl⟩, rfl⟩

theorem tellsNone_iff (hj : Json.ofOctets? body = some j)
    (hs : j.slots ["input_tokens"] = some [s]) :
    TellsNone body ↔ s = .given .null ∨ s = .unnamed := by
  simp only [TellsNone, hj, Option.some.injEq, exists_eq_left', isRecord_countFields_iff hs,
    hasCount_iff hs]
  cases s with
  | given v =>
    simp only [Slot.given.injEq, forall_eq', reduceCtorEq, or_false]
    constructor
    · exact fun h => h.2
    · exact fun hv => ⟨Or.inl hv, hv⟩
  | unnamed => simp [Slot.IsOptional]
  | beyond => simp [Slot.IsOptional]

theorem tokensOf_of_slot (hj : Json.ofOctets? body = some j)
    (hs : j.slots ["input_tokens"] = some [s]) :
    tokensOf body = match s.optional (Json.natural? (Decimal.twoTo 64)) with
      | some (some n) => .ok n
      | some none => .error noCount
      | none => .error malformed := by
  simp only [tokensOf, hj, hs, Option.bind_eq_bind, Option.bind_some]
  rfl

/-- What is read of a body that gives the field a value other than `null`. -/
theorem told_of_value {v : Json} (hj : Json.ofOctets? body = some j)
    (hs : j.slots ["input_tokens"] = some [.given v]) (hv : v ≠ .null) :
    Told body (tokensOf body) := by
  have hplain : v.IsPlain :=
    (Json.isPlain_of_ofOctets? hj).of_hasField ((hasCount_iff hs v).mpr rfl)
  have hnatural : ∀ n, v.natural? (Decimal.twoTo 64) = some n ↔ v = .nat n ∧ n < 2 ^ 64 :=
    fun n => hplain.natural?_eq_some_iff (Nat.le_refl _)
  rw [tokensOf_of_slot hj hs, Slot.optional_given hv]
  cases hn : v.natural? (Decimal.twoTo 64) with
  | some n =>
    obtain ⟨rfl, hlt⟩ := (hnatural n).mp hn
    exact .number ((tells_iff hj hs n).mpr ⟨rfl, hlt⟩)
  | none =>
    refine .unreadable ?_ ?_
    · intro n htells
      obtain ⟨hvn, hlt⟩ := (tells_iff hj hs n).mp htells
      rw [(hnatural n).mpr ⟨Slot.given.inj hvn, hlt⟩] at hn
      cases hn
    · intro hnone
      rcases (tellsNone_iff hj hs).mp hnone with hnull | hunnamed
      · exact hv (Slot.given.inj hnull)
      · cases hunnamed

/-- What is read of a body that gives it none, or that is an array without items. -/
theorem told_of_no_value (hj : Json.ofOctets? body = some j)
    (hs : j.slots ["input_tokens"] = some [s]) (hv : ∀ v, s = .given v → v = .null) :
    Told body (tokensOf body) := by
  rw [tokensOf_of_slot hj hs]
  cases s with
  | given v =>
    obtain rfl := hv v rfl
    exact .nothing ((tellsNone_iff hj hs).mpr (Or.inl rfl))
  | unnamed => exact .nothing ((tellsNone_iff hj hs).mpr (Or.inr rfl))
  | beyond =>
    refine .unreadable ?_ ?_
    · intro n htells
      cases ((tells_iff hj hs n).mp htells).1
    · intro hnone
      rcases (tellsNone_iff hj hs).mp hnone with hnull | hunnamed
      · cases hnull
      · cases hunnamed

/-- What is read of a body that has no place for the number, be it JSON or not. -/
theorem told_of_no_slot (h : ∀ j, Json.ofOctets? body = some j →
    j.slots ["input_tokens"] = none) : Told body (tokensOf body) := by
  have hno : ∀ j, Json.ofOctets? body = some j → ¬ j.IsRecord countFields := by
    intro j hj hrecord
    obtain ⟨s, hs⟩ := exists_slot hrecord
    rw [h j hj] at hs
    cases hs
  have htokens : tokensOf body = .error malformed := by
    rw [tokensOf]
    cases hj : Json.ofOctets? body with
    | none => rfl
    | some j =>
      simp only [Option.bind_eq_bind, Option.bind_some, h j hj, Option.bind_none]
      rfl
  rw [htokens]
  refine .unreadable ?_ ?_
  · rintro n ⟨j, hj, hrecord, -⟩
    exact hno j hj hrecord
  · rintro ⟨j, hj, hrecord, -⟩
    exact hno j hj hrecord

/-- **What is read of a body is what it tells.** -/
theorem told_tokensOf (body : List UInt8) : Told body (tokensOf body) := by
  by_cases hslot : ∃ j s, Json.ofOctets? body = some j ∧ j.slots ["input_tokens"] = some [s]
  · obtain ⟨j, s, hj, hs⟩ := hslot
    by_cases hv : ∃ v, s = .given v ∧ v ≠ .null
    · obtain ⟨v, rfl, hne⟩ := hv
      exact told_of_value hj hs hne
    · apply told_of_no_value hj hs
      intro v hsv
      by_contra hne
      exact hv ⟨v, hsv, hne⟩
  · apply told_of_no_slot
    intro j hj
    cases hs : j.slots ["input_tokens"] with
    | none => rfl
    | some ss =>
      obtain ⟨s, rfl⟩ := Json.slots_singleton hs
      exact absurd ⟨j, s, hj, hs⟩ hslot

/-- A body is read as one value, which is where the number stands that it tells. -/
theorem Tells.of_json {n : Nat} (h : Tells body n) (hj : Json.ofOctets? body = some j) :
    j.IsRecord countFields ∧ HasCount j (.nat n) := by
  obtain ⟨j', hj', hcount⟩ := h
  rw [hj] at hj'
  cases hj'
  exact hcount

theorem TellsNone.eq_null {v : Json} (h : TellsNone body) (hj : Json.ofOctets? body = some j)
    (hv : HasCount j v) : v = .null := by
  obtain ⟨j', hj', -, hnull⟩ := h
  rw [hj] at hj'
  cases hj'
  exact hnull v hv

theorem HasCount.unique {v w : Json} (hrecord : j.IsRecord countFields) (hv : HasCount j v)
    (hw : HasCount j w) : v = w := by
  obtain ⟨s, hs⟩ := exists_slot hrecord
  rw [hasCount_iff hs] at hv hw
  rw [hv] at hw
  exact Slot.given.inj hw

theorem Tells.unique {m n : Nat} (hm : Tells body m) (hn : Tells body n) : m = n := by
  obtain ⟨j, hj, hrecord, hcount⟩ := hm
  exact Json.nat_injective (hcount.unique hrecord (hn.of_json hj).2)

theorem Tells.not_tellsNone {n : Nat} (hn : Tells body n) : ¬ TellsNone body := by
  obtain ⟨j, hj, -, hcount⟩ := hn
  intro hnone
  cases hnone.eq_null hj hcount

theorem Told.eq_ok_iff {x : Except ProviderError Nat} (h : Told body x) (n : Nat) :
    x = .ok n ↔ Tells body n := by
  cases h with
  | number hm =>
    rw [Except.ok.injEq]
    exact ⟨fun hmn => hmn ▸ hm, hm.unique⟩
  | nothing hnone => exact iff_of_false nofun fun hn => hn.not_tellsNone hnone
  | unreadable hno _ => exact iff_of_false nofun (hno n)

theorem Told.eq_noCount_iff {x : Except ProviderError Nat} (h : Told body x) :
    x = .error noCount ↔ TellsNone body := by
  cases h with
  | number hm => exact iff_of_false nofun hm.not_tellsNone
  | nothing hnone => exact iff_of_true rfl hnone
  | unreadable _ hnone =>
    rw [Except.error.injEq]
    exact iff_of_false noCount_ne_malformed.symm hnone

theorem Told.eq_malformed_iff {x : Except ProviderError Nat} (h : Told body x) :
    x = .error malformed ↔ (∀ n, ¬ Tells body n) ∧ ¬ TellsNone body := by
  cases h with
  | number hm => exact iff_of_false nofun fun hno => hno.1 _ hm
  | nothing hnone =>
    rw [Except.error.injEq]
    exact iff_of_false noCount_ne_malformed fun hno => hno.2 hnone
  | unreadable hno hnone => exact iff_of_true rfl ⟨hno, hnone⟩

theorem Told.ne_tooLarge {x : Except ProviderError Nat} (h : Told body x) (size : Nat) :
    x ≠ .error (tooLarge size) := by
  cases h with
  | number _ => exact nofun
  | nothing _ => exact fun heq => (tooLarge_ne size).1 (Except.error.inj heq).symm
  | unreadable _ _ => exact fun heq => (tooLarge_ne size).2 (Except.error.inj heq).symm

theorem Tells.lt {n : Nat} (h : Tells body n) : n < 2 ^ 64 := by
  obtain ⟨j, hj, hrecord, -⟩ := id h
  obtain ⟨s, hs⟩ := exists_slot hrecord
  exact ((tells_iff hj hs n).mp h).2

/-- A numeral that is negative, has a fraction or an exponent, or is too large tells nothing. -/
theorem not_tells_of_numeral {l : Number} (hj : Json.ofOctets? body = some j)
    (hl : HasCount j (.number l)) (h : l.negative = true ∨ l.fraction ≠ [] ∨ l.exponent ≠ none ∨
      2 ^ 64 ≤ Decimal.value l.whole) : (∀ n, ¬ Tells body n) ∧ ¬ TellsNone body := by
  constructor
  · intro n htells
    obtain ⟨hrecord, hcount⟩ := htells.of_json hj
    have hln : l = .ofNat n := Json.number.inj (hl.unique hrecord hcount)
    subst hln
    rcases h with hneg | hfraction | hexponent | hlarge
    · cases hneg
    · exact hfraction rfl
    · exact hexponent rfl
    · rw [Number.ofNat, Decimal.value_digits] at hlarge
      exact absurd htells.lt (Nat.not_lt.mpr hlarge)
  · intro hnone
    cases hnone.eq_null hj hl

end Reading

/-! ## What has been received -/

theorem ofExcept_eq_ok_iff {x : Except ProviderError Nat} {n : Nat} :
    Answer.ofExcept x = .ok n ↔ x = .ok n := by
  cases x <;> simp [Answer.ofExcept]

theorem ofExcept_eq_error_iff {x : Except ProviderError Nat} {e : ProviderError} :
    Answer.ofExcept x = .error e ↔ x = .error e := by
  cases x <;> simp [Answer.ofExcept]

/-- What a count comes to whose body has been received as a whole, in these pieces. -/
inductive Comes (pieces : List (List UInt8)) : Answer ProviderError Nat → Prop
  | outgrown {size : Nat} : Outgrows pieces size → Comes pieces (.error (tooLarge size))
  | told : pieces.flatten.length ≤ countLimit →
      Comes pieces (.ofExcept (tokensOf pieces.flatten))

section Comes

variable {pieces : List (List UInt8)} {y : Answer ProviderError Nat}

theorem Comes.eq_ok_iff (h : Comes pieces y) (n : Nat) :
    y = .ok n ↔ pieces.flatten.length ≤ countLimit ∧ Tells pieces.flatten n := by
  cases h with
  | outgrown hout => exact iff_of_false nofun fun hn => Nat.not_lt.mpr hn.1 hout.lt
  | told hsize =>
    rw [ofExcept_eq_ok_iff, (told_tokensOf _).eq_ok_iff]
    exact (and_iff_right hsize).symm

theorem Comes.eq_tooLarge_iff (h : Comes pieces y) (size : Nat) :
    y = .error (tooLarge size) ↔ Outgrows pieces size := by
  cases h with
  | outgrown hout =>
    rw [Answer.error.injEq]
    constructor
    · intro heq
      rwa [← tooLarge_injective heq]
    · exact fun hout' => congrArg tooLarge (hout.unique hout')
  | told hsize =>
    rw [ofExcept_eq_error_iff]
    exact iff_of_false ((told_tokensOf _).ne_tooLarge size) fun hout =>
      Nat.not_lt.mpr hsize hout.lt

theorem Comes.eq_error_iff (h : Comes pieces y) {e : ProviderError}
    (he : ∀ size, tooLarge size ≠ e) :
    y = .error e ↔ pieces.flatten.length ≤ countLimit ∧ tokensOf pieces.flatten = .error e := by
  cases h with
  | outgrown hout =>
    rw [Answer.error.injEq]
    exact iff_of_false (he _) fun hread => Nat.not_lt.mpr hread.1 hout.lt
  | told hsize =>
    rw [ofExcept_eq_error_iff]
    exact (and_iff_right hsize).symm

theorem Comes.eq_noCount_iff (h : Comes pieces y) :
    y = .error noCount ↔ pieces.flatten.length ≤ countLimit ∧ TellsNone pieces.flatten := by
  rw [h.eq_error_iff fun size => (tooLarge_ne size).1, (told_tokensOf _).eq_noCount_iff]

theorem Comes.eq_malformed_iff (h : Comes pieces y) :
    y = .error malformed ↔ pieces.flatten.length ≤ countLimit ∧
      (∀ n, ¬ Tells pieces.flatten n) ∧ ¬ TellsNone pieces.flatten := by
  rw [h.eq_error_iff fun size => (tooLarge_ne size).2, (told_tokensOf _).eq_malformed_iff]

/-- How a body is cut counts for the size only that is named of it. -/
theorem Comes.cut {pieces' : List (List UInt8)} {y' : Answer ProviderError Nat}
    (h : Comes pieces y) (h' : Comes pieces' y') (hbody : pieces'.flatten = pieces.flatten) :
    y' = y ∨ (∃ size, y = .error (tooLarge size)) ∧ ∃ size, y' = .error (tooLarge size) := by
  cases h with
  | outgrown hout =>
    cases h' with
    | outgrown hout' => exact Or.inr ⟨⟨_, rfl⟩, _, rfl⟩
    | told hsize =>
      rw [hbody] at hsize
      exact absurd hout.lt (Nat.not_lt.mpr hsize)
  | told hsize =>
    cases h' with
    | outgrown hout' =>
      have hlt := hout'.lt
      rw [hbody] at hlt
      exact absurd hlt (Nat.not_lt.mpr hsize)
    | told _ =>
      rw [hbody]
      exact Or.inl rfl

end Comes

/-! ## Counts -/

/-- The gate estimates by a count, or else from the number of characters. -/
structure Estimates (y : Answer ProviderError Nat) : Prop where
  counted : ∀ {σ : Type} (p : Setting σ) (snap : Snapshot) (apiKey : Option String) (w : World σ),
    (p.team.count (explanationRequest p.model snap apiKey) w.state).1 = y →
    ∀ n, y = .ok n → (Run.measure p snap apiKey w).1 = .ok n
  uncounted : ∀ {σ : Type} (p : Setting σ) (snap : Snapshot) (apiKey : Option String) (w : World σ),
    (p.team.count (explanationRequest p.model snap apiKey) w.state).1 = y →
    ∀ e, y = .error e → (Run.measure p snap apiKey w).1 =
      .ok ((snap.fileTree.length + 1 + snap.readme.length) ⌈/⌉ 4)

theorem estimates (y : Answer ProviderError Nat) : Estimates y where
  counted p snap apiKey w hcount n hn := by
    rw [Run.measure_apply hcount (by rw [hn]; exact nofun), hn]
    rfl
  uncounted p snap apiKey w hcount e he := by
    rw [Run.measure_apply hcount (by rw [he]; exact nofun), he]
    rfl

section Counts

variable {c : Client} {r : TextRequest} {m : Web.Remote} {a : Web.Response}

/-- What a count comes to that was opened by an answer and received as a whole. -/
theorem Client.comes (hopen : (c.opening r false m).1 = .ok a) (hwhole : a.fault = none) :
    Comes a.pieces (c.count r m).1 := by
  have hcount : (c.count r m).1 = c.tokens a := by
    rw [c.count_eq, hopen]
    rfl
  rw [hcount, tokens, hwhole]
  by_cases hsize : a.pieces.flatten.length ≤ countLimit
  · have htokens := Comes.told hsize
    rw [gather_of_le c.timeout hsize]
    dsimp only
    cases hx : tokensOf a.pieces.flatten <;> rwa [hx] at htokens
  · obtain ⟨size, hout⟩ := exists_outgrows_iff.mpr (Nat.not_le.mp hsize)
    rw [gather_of_outgrows c.timeout none hout]
    exact .outgrown hout

/-- What a count comes to whose answer `a` has been received as a whole. -/
structure Client.Counts (c : Client) (r : TextRequest) (m : Web.Remote) (a : Web.Response) :
    Prop where
  /-- It is a number if and only if the body is not too large and tells this number. -/
  ok_iff : ∀ n, (c.count r m).1 = .ok n ↔
    a.pieces.flatten.length ≤ countLimit ∧ Tells a.pieces.flatten n
  /-- It fails for the size of the body if and only if this is too large. -/
  tooLarge_iff : (∃ size, (c.count r m).1 = .error (tooLarge size)) ↔
    countLimit < a.pieces.flatten.length
  /-- The size that it names is the one that the body had when it became too large. -/
  size_iff : ∀ size, (c.count r m).1 = .error (tooLarge size) ↔ Outgrows a.pieces size
  /-- It has no number if and only if the body is not too large, and is a count that leaves it
  out. -/
  noCount_iff : (c.count r m).1 = .error noCount ↔
    a.pieces.flatten.length ≤ countLimit ∧ TellsNone a.pieces.flatten
  /-- In all other cases the body is called malformed. -/
  malformed_iff : (c.count r m).1 = .error malformed ↔ a.pieces.flatten.length ≤ countLimit ∧
    (∀ n, ¬ Tells a.pieces.flatten n) ∧ ¬ TellsNone a.pieces.flatten
  /-- So it is for a numeral that is negative, has a fraction or an exponent, or is too large. -/
  numeral : ∀ j l, Json.ofOctets? a.pieces.flatten = some j → HasCount j (.number l) →
    l.negative = true ∨ l.fraction ≠ [] ∨ l.exponent ≠ none ∨ 2 ^ 64 ≤ Decimal.value l.whole →
    a.pieces.flatten.length ≤ countLimit → (c.count r m).1 = .error malformed
  /-- Up to the size that is named it depends on the octets of the body alone, however these are
  cut into pieces, and whatever else is different. -/
  cut : ∀ (c' : Client) (r' : TextRequest) (m' : Web.Remote) (a' : Web.Response),
    (c'.opening r' false m').1 = .ok a' → a'.fault = none →
    a'.pieces.flatten = a.pieces.flatten →
    (c'.count r' m').1 = (c.count r m).1 ∨
      (∃ size, (c.count r m).1 = .error (tooLarge size)) ∧
        ∃ size, (c'.count r' m').1 = .error (tooLarge size)
  /-- At every stage what has been kept of the body is a beginning of it that is not too large. -/
  kept : ∀ size done rest, Gathering a.pieces size done rest →
    gather c.timeout a.fault 0 [] a.pieces = gather c.timeout a.fault size done rest ∧
      done.reverse.flatten <+: a.pieces.flatten ∧ done.reverse.flatten.length ≤ countLimit
  /-- The gate estimates by it, or else from the number of characters. -/
  estimates : Estimates (c.count r m).1

/-- **What a count comes to**, for every body and every way to cut it. -/
theorem Client.counts (hopen : (c.opening r false m).1 = .ok a) (hwhole : a.fault = none) :
    c.Counts r m a where
  ok_iff := (Client.comes hopen hwhole).eq_ok_iff
  tooLarge_iff := by
    rw [← exists_outgrows_iff]
    exact exists_congr (Client.comes hopen hwhole).eq_tooLarge_iff
  size_iff := (Client.comes hopen hwhole).eq_tooLarge_iff
  noCount_iff := (Client.comes hopen hwhole).eq_noCount_iff
  malformed_iff := (Client.comes hopen hwhole).eq_malformed_iff
  numeral j l hj hl h hsize :=
    (Client.comes hopen hwhole).eq_malformed_iff.mpr ⟨hsize, not_tells_of_numeral hj hl h⟩
  cut c' r' m' a' hopen' hwhole' hbody :=
    (Client.comes hopen hwhole).cut (Client.comes hopen' hwhole') hbody
  kept size done rest h := ⟨h.gather_eq c.timeout a.fault, h.isPrefix, h.length_le⟩
  estimates := Provider.estimates _

end Counts

/-! ### A count in two pieces -/

/-- A call is opened by its first answer if this is a success. -/
theorem Client.opening_of_success {c : Client} {r : TextRequest} {m : Web.Remote}
    {a : Web.Response} {key : String} {q : Web.Request} {stream : Bool}
    (hsize : inputSize r ≤ inputLimit) (hkey : c.key? r = some key)
    (hq : request? (c.address stream) key (r.toJson stream) = some q)
    (ha : m.outcome (some q) 0 = .ok a) (hsuccess : 200 ≤ a.status ∧ a.status < 300) :
    (c.opening r stream m).1 = .ok a := by
  obtain ⟨k, hk, hopening⟩ := opening_repeats hsize hkey hq m
  have hfirst : IsLast c.maxRetries (m.outcome (some q)) 0 :=
    ⟨Nat.zero_le _, fun i hi => absurd hi (Nat.not_lt_zero i), Or.inl (Or.inl ⟨a, ha, hsuccess⟩)⟩
  rw [hopening, hk.unique hfirst, ha, resultOf, if_pos]
  simpa [Web.Response.isSuccess] using hsuccess

/-- A count that is cut within the name of its field. -/
def cutCount : Web.Response :=
  ⟨200, [], [Utf8.encode "\x7b\"input_to", Utf8.encode "kens\": 1234\x7d"], none⟩

/-- It tells a number all the same. -/
theorem Client.counts_cutCount :
    let m : Web.Remote := ⟨[.ok cutCount], .error .unreachable, []⟩
    (loopback.opening (accented 3) false m).1 = .ok cutCount ∧ cutCount.fault = none ∧
      loopback.Counts (accented 3) m cutCount ∧ (loopback.count (accented 3) m).1 = .ok 1234 := by
  intro m
  have hsize : inputSize (accented 3) ≤ inputLimit := by
    rw [inputSize_accented]
    decide
  obtain ⟨q, hq⟩ := exists_request?_loopback false ((accented 3).toJson false)
  have hopen : (loopback.opening (accented 3) false m).1 = .ok cutCount :=
    opening_of_success hsize (key?_accented 3) hq rfl (by decide)
  have hcounts : loopback.Counts (accented 3) m cutCount := Client.counts hopen rfl
  have htells : Tells cutCount.pieces.flatten 1234 :=
    ((told_tokensOf _).eq_ok_iff 1234).mp (by decide +kernel)
  exact ⟨hopen, rfl, hcounts, (hcounts.ok_iff 1234).mpr ⟨by decide +kernel, htells⟩⟩

end Provider

end ArchDiagram
