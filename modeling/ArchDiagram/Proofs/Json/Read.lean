import ArchDiagram.Json.Reader
import ArchDiagram.Proofs.Json.Number
import ArchDiagram.Proofs.Json.Record

/-!
# Values as they are read

Every number in a value that is read is one that may be written: the reader of literals takes no
other, the tokens hold what it takes (`Token.step_isPlain`), and the machine that puts tokens
together only moves values around (`Json.State.step_isPlain`).

* `Number.isWritten_of_ofChars?`: **a literal that is read may be written**.
* `Json.IsPlain`: values whose numbers may be written.
* `Json.isPlain_of_ofOctets?`: **a value that is read is plain**.
* `Json.IsPlain.natural?_eq_some_iff`: so it has one form only in which it is a natural number.
-/

namespace ArchDiagram

theorem foldlM_keeps {σ α : Type} {step : σ → α → Option σ} {P : σ → Prop} {as : List α}
    (hstep : ∀ a ∈ as, ∀ {s s'}, P s → step s a = some s' → P s') {s s' : σ} (hs : P s)
    (h : as.foldlM step s = some s') : P s' := by
  induction as generalizing s with
  | nil =>
    cases h
    exact hs
  | cons a as ih =>
    obtain ⟨next, hnext, h⟩ := Option.bind_eq_some_iff.mp h
    rw [List.forall_mem_cons] at hstep
    exact ih hstep.2 (hstep.1 hs hnext) h

/-! ## Literals -/

namespace Number

open Decimal

theorem lt_ten_of_leadingDigits {cs rest : List Char} {ds : List Nat}
    (h : leadingDigits cs = (ds, rest)) : ∀ d ∈ ds, d < 10 := by
  rw [leadingDigits, Prod.mk.injEq] at h
  rw [← h.1]
  intro d hd
  obtain ⟨c, -, hc⟩ := List.mem_filterMap.mp hd
  exact (digitOf?_eq_some_iff.mp hc).1

theorem exponentOf?_spec {cs : List Char} {e : Bool × List Nat} (h : exponentOf? cs = some e) :
    e.2 ≠ [] ∧ ∀ d ∈ e.2, d < 10 := by
  unfold exponentOf? at h
  dsimp only at h
  split at h
  · cases h
  · rename_i ds hds hdigits
    cases h
    exact ⟨hds, lt_ten_of_leadingDigits hdigits⟩
  · cases h

/-- What is read behind the digits before the point. -/
theorem isWritten_of_tail {negative : Bool} {whole fraction : List Nat} (hne : whole ≠ [])
    (hwhole : ∀ d ∈ whole, d < 10) (hhead : whole = [0] ∨ whole.head? ≠ some 0)
    (hfraction : ∀ d ∈ fraction, d < 10) {cs : List Char} {n : Number}
    (h : (match cs with
      | [] => some ⟨negative, whole, fraction, none⟩
      | c :: r => if c = 'e' ∨ c = 'E' then
          (exponentOf? r).map fun e => ⟨negative, whole, fraction, some e⟩
        else none) = some n) : n.IsWritten := by
  split at h
  · cases h
    exact ⟨hne, hwhole, hhead, hfraction, nofun, nofun⟩
  · split at h
    · obtain ⟨e, he, rfl⟩ := Option.map_eq_some_iff.mp h
      obtain ⟨hdigits, hlt⟩ := exponentOf?_spec he
      refine ⟨hne, hwhole, hhead, hfraction, ?_, ?_⟩
      · rintro _ ⟨⟩
        exact hdigits
      · rintro _ ⟨⟩
        exact hlt
    · cases h

/-- **A literal that is read may be written.** -/
theorem isWritten_of_ofChars? {cs : List Char} {n : Number} (h : ofChars? cs = some n) :
    n.IsWritten := by
  unfold ofChars? at h
  dsimp only at h
  split at h
  · cases h
  · cases h
  · rename_i whole rest hne hlong hdigits
    have hwhole := lt_ten_of_leadingDigits hdigits
    have hhead : whole = [0] ∨ whole.head? ≠ some 0 := by
      match whole, hlong with
      | [], _ => exact Or.inr nofun
      | 0 :: [], _ => exact Or.inl rfl
      | 0 :: d :: ds, hlong => exact (hlong d ds rfl).elim
      | (d + 1) :: ds, _ => exact Or.inr nofun
    split at h
    · split at h
      · cases h
      · rename_i hfraction
        exact isWritten_of_tail hne hwhole hhead (lt_ten_of_leadingDigits hfraction) h
    · exact isWritten_of_tail hne hwhole hhead (by simp) h

end Number

/-! ## Tokens -/

namespace Token

/-- A token that is no number, or one that may be written. -/
def IsPlain : Token → Prop
  | .number n => n.IsWritten
  | _ => True

theorem isPlain_of_ofWord? {read : List UInt8} {t : Token} (h : ofWord? read = some t) :
    t.IsPlain := by
  rw [ofWord?] at h
  split at h <;> cases h <;> trivial

theorem isPlain_of_ofNumber? {read : List UInt8} {t : Token} (h : ofNumber? read = some t) :
    t.IsPlain := by
  obtain ⟨n, hn, rfl⟩ := Option.map_eq_some_iff.mp h
  exact Number.isWritten_of_ofChars? hn

theorem begin_isPlain {done : List Token} {b : UInt8} {p : Progress} (hdone : ∀ t ∈ done, t.IsPlain)
    (h : begin done b = some p) : ∀ t ∈ p.done, t.IsPlain := by
  have hmark : ∀ {t : Token}, t.IsPlain → ∀ u ∈ t :: done, u.IsPlain :=
    fun ht => List.forall_mem_cons.mpr ⟨ht, hdone⟩
  unfold begin at h
  split at h
  case h_12 =>
    split at h
    · cases h
      exact hdone
    · split at h
      · cases h
        exact hdone
      · cases h
  all_goals
    cases h
    first
    | exact hdone
    | exact hmark trivial

/-- One more octet adds plain tokens only. -/
theorem step_isPlain {p q : Progress} {b : UInt8} (hp : ∀ t ∈ p.done, t.IsPlain)
    (h : step p b = some q) : ∀ t ∈ q.done, t.IsPlain := by
  have hmore : ∀ {t : Token}, t.IsPlain → ∀ u ∈ t :: p.done, u.IsPlain :=
    fun ht => List.forall_mem_cons.mpr ⟨ht, hp⟩
  unfold step at h
  split at h
  case h_1 => exact begin_isPlain hp h
  case h_2 =>
    split at h
    · cases h
      exact hp
    · obtain ⟨t, ht, h⟩ := Option.bind_eq_some_iff.mp h
      exact begin_isPlain (hmore (isPlain_of_ofWord? ht)) h
  case h_3 =>
    split at h
    · cases h
      exact hp
    · obtain ⟨t, ht, h⟩ := Option.bind_eq_some_iff.mp h
      exact begin_isPlain (hmore (isPlain_of_ofNumber? ht)) h
  case h_4 =>
    split at h
    · cases h
      exact hmore trivial
    · split at h
      · cases h
        exact hp
      · split at h <;> cases h
        exact hp
  case h_5 =>
    split at h
    · cases h
      exact hp
    · split at h <;> cases h
      exact hp
  case h_6 =>
    split at h <;> cases h
    exact hp

/-- **The tokens of octets are plain.** -/
theorem isPlain_of_scan {bs : List UInt8} {ts : List Token} (h : scan bs = some ts) :
    ∀ t ∈ ts, t.IsPlain := by
  obtain ⟨p, hp, h⟩ := Option.bind_eq_some_iff.mp h
  have hdone : ∀ t ∈ p.done, t.IsPlain :=
    foldlM_keeps (fun _ _ => step_isPlain) (by simp) hp
  suffices hreverse : ∀ t ∈ ts.reverse, t.IsPlain from
    fun t ht => hreverse t (List.mem_reverse.mpr ht)
  unfold finish at h
  split at h
  · cases h
    rwa [List.reverse_reverse]
  · obtain ⟨t, ht, h⟩ := Option.bind_eq_some_iff.mp h
    cases h
    rw [List.reverse_reverse]
    exact List.forall_mem_cons.mpr ⟨isPlain_of_ofWord? ht, hdone⟩
  · obtain ⟨t, ht, h⟩ := Option.bind_eq_some_iff.mp h
    cases h
    rw [List.reverse_reverse]
    exact List.forall_mem_cons.mpr ⟨isPlain_of_ofNumber? ht, hdone⟩
  · cases h

end Token

/-! ## Values -/

namespace Json

/-- A value whose numbers may be written; its texts need not denote anything. -/
inductive IsPlain : Json → Prop
  | null : IsPlain .null
  | bool (b : Bool) : IsPlain (.bool b)
  | number {n : Number} : n.IsWritten → IsPlain (.number n)
  | string (s : Option String) : IsPlain (.string s)
  | array {xs : List Json} : (∀ x ∈ xs, IsPlain x) → IsPlain (.array xs)
  | object {ms : List (Option String × Json)} : (∀ m ∈ ms, IsPlain m.2) → IsPlain (.object ms)

theorem nat_injective : Function.Injective nat := by
  intro m n h
  exact Number.ofNat_injective (Json.number.inj h)

theorem IsPlain.of_hasField {j v : Json} (h : j.IsPlain) {names : List String} {name : String}
    (hv : j.HasField names name v) : v.IsPlain := by
  cases h with
  | array hitems => exact hitems v (List.of_mem_zip hv).2
  | object hmembers => exact hmembers _ hv
  | null | bool _ | number _ | string _ => exact hv.elim

theorem IsPlain.natural?_eq_some_iff {j : Json} (h : j.IsPlain) {bound n : Nat}
    (hbound : bound ≤ Decimal.twoTo 64) : j.natural? bound = some n ↔ j = nat n ∧ n < bound := by
  cases h with
  | number hn => simpa [natural?, nat] using Number.natural?_eq_some_iff hn hbound
  | _ => simp [natural?, nat]

/-- What a container that is open holds is plain. -/
def Frame.IsPlain : Frame → Prop
  | .array items => ∀ x ∈ items, x.IsPlain
  | .object members _ => ∀ m ∈ members, m.2.IsPlain

/-- Everything that has been read is plain. -/
def State.IsPlain : State → Prop
  | .value stack | .firstItem stack | .firstKey stack => ∀ f ∈ stack, f.IsPlain
  | .key stack members | .colon stack members _ =>
    (∀ f ∈ stack, f.IsPlain) ∧ ∀ m ∈ members, m.2.IsPlain
  | .after stack v => (∀ f ∈ stack, f.IsPlain) ∧ v.IsPlain

theorem State.begin_isPlain {stack : List Frame} {t : Token} {s : State}
    (hstack : ∀ f ∈ stack, f.IsPlain) (ht : t.IsPlain) (h : State.begin stack t = some s) :
    s.IsPlain := by
  cases t with
  | null =>
    cases h
    exact ⟨hstack, .null⟩
  | bool b =>
    cases h
    exact ⟨hstack, .bool b⟩
  | number n =>
    cases h
    exact ⟨hstack, .number ht⟩
  | string s =>
    cases h
    exact ⟨hstack, .string s⟩
  | openArray | openObject =>
    cases h
    exact hstack
  | closeArray | closeObject | colon | comma => cases h

/-- One more token leaves everything plain. -/
theorem State.step_isPlain {s s' : State} {t : Token} (hs : s.IsPlain) (ht : t.IsPlain)
    (h : s.step t = some s') : s'.IsPlain := by
  have hopen : ∀ {f : Frame} {stack : List Frame}, f.IsPlain → (∀ g ∈ stack, g.IsPlain) →
      ∀ g ∈ f :: stack, g.IsPlain := fun hf hstack => List.forall_mem_cons.mpr ⟨hf, hstack⟩
  unfold State.step at h
  split at h
  -- a value, or the end of an array or of an object that has just been opened
  · exact begin_isPlain hs ht h
  · cases h
    exact ⟨hs, .array (by simp)⟩
  · exact begin_isPlain (hopen (f := .array []) (by simp [Frame.IsPlain]) hs) ht h
  · cases h
    exact ⟨hs, .object (by simp)⟩
  -- a key and its colon
  · cases h
    exact ⟨hs, by simp⟩
  · cases h
    exact hs
  · cases h
    exact hopen hs.2 hs.1
  -- behind an item
  · cases h
    obtain ⟨hframe, hstack⟩ := List.forall_mem_cons.mp hs.1
    exact hopen (List.forall_mem_cons.mpr ⟨hs.2, hframe⟩) hstack
  · rename_i items stack v
    cases h
    obtain ⟨hframe, hstack⟩ := List.forall_mem_cons.mp hs.1
    have hitems : ∀ x ∈ v :: items, x.IsPlain := List.forall_mem_cons.mpr ⟨hs.2, hframe⟩
    exact ⟨hstack, .array fun x hx => hitems x (List.mem_reverse.mp hx)⟩
  -- behind a member
  · cases h
    obtain ⟨hframe, hstack⟩ := List.forall_mem_cons.mp hs.1
    exact ⟨hstack, List.forall_mem_cons.mpr ⟨hs.2, hframe⟩⟩
  · rename_i members key stack v
    cases h
    obtain ⟨hframe, hstack⟩ := List.forall_mem_cons.mp hs.1
    have hmembers : ∀ m ∈ (key, v) :: members, m.2.IsPlain :=
      List.forall_mem_cons.mpr ⟨hs.2, hframe⟩
    exact ⟨hstack, .object fun m hm => hmembers m (List.mem_reverse.mp hm)⟩
  · cases h

/-- **A value that is read is plain.** -/
theorem isPlain_of_ofOctets? {bs : List UInt8} {j : Json} (h : ofOctets? bs = some j) :
    j.IsPlain := by
  obtain ⟨ts, hts, h⟩ := Option.bind_eq_some_iff.mp h
  obtain ⟨s, hs, h⟩ := Option.bind_eq_some_iff.mp h
  have hplain : s.IsPlain := by
    refine foldlM_keeps (fun t ht _ _ hs => State.step_isPlain hs ?_) ?_ hs
    · exact Token.isPlain_of_scan hts t ht
    · simp [State.IsPlain]
  split at h
  · cases h
    exact hplain.2
  · cases h

end Json

end ArchDiagram
