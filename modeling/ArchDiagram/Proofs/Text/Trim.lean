import ArchDiagram.Proofs.Text.Scan

/-!
# Trimmed texts

Trimming cuts a text into a front, a core and a back: front and back are of the class that is
trimmed, and the core neither begins nor ends with a character of it.  There is one such cut, so a
text that falls apart that way is trimmed to its core whatever the front and the back are.

* `IsTrimmed`: a text that trimming leaves alone.
* `exists_trimBy`, `trimBy_of_core`: **the cut that trimming makes, and that it is the only one**.
* `trimBy_append`: trimming a text that ends with a trimmed one.
-/

namespace ArchDiagram.Text

variable {p : Char → Bool}

/-- A text neither begins nor ends with a character of the class `p`. -/
def IsTrimmed (p : Char → Bool) (cs : List Char) : Prop :=
  Stops p cs ∧ Stops p cs.reverse

instance (p : Char → Bool) (cs : List Char) : Decidable (Stops p cs) :=
  match cs with
  | [] => isTrue nofun
  | _ :: _ => decidable_of_iff _ stops_cons.symm

instance (p : Char → Bool) (cs : List Char) : Decidable (IsTrimmed p cs) :=
  inferInstanceAs (Decidable (Stops p cs ∧ Stops p cs.reverse))

/-! ## Where a class of characters stops -/

theorem stops_nil : Stops p [] := by
  simp [Stops]

theorem Stops.append {a b : List Char} (ha : Stops p a) (hb : Stops p b) : Stops p (a ++ b) := by
  cases a with
  | nil => exact hb
  | cons c a => exact stops_cons.mpr (stops_cons.mp ha)

theorem Stops.append_of_ne_nil {a : List Char} (ha : Stops p a) (hne : a ≠ []) (b : List Char) :
    Stops p (a ++ b) := by
  cases a with
  | nil => exact absurd rfl hne
  | cons c a => exact stops_cons.mpr (stops_cons.mp ha)

theorem stops_of_forall {a : List Char} (h : ∀ c ∈ a, p c = false) : Stops p a :=
  fun c hc => h c (List.mem_of_mem_head? hc)

theorem dropWhile_append_of_stops {a b : List Char} (ha : ∀ c ∈ a, p c = true) (hb : Stops p b) :
    (a ++ b).dropWhile p = b := by
  have hsplit : (a ++ b).takeWhile p ++ (a ++ b).dropWhile p = a ++ b :=
    List.takeWhile_append_dropWhile
  rw [takeWhile_append_of_stops ha hb] at hsplit
  exact List.append_cancel_left hsplit

/-! ## Fronts, cores and backs -/

theorem trimBy_of_forall {cs : List Char} (h : ∀ c ∈ cs, p c = true) : trimBy p cs = [] := by
  have hdrop : cs.dropWhile p = [] := by
    rw [← List.append_nil cs]
    exact dropWhile_append_of_stops h stops_nil
  rw [trimBy, hdrop]
  rfl

/-- **A text is trimmed to its core.** -/
theorem trimBy_of_core {front core back : List Char} (hfront : ∀ c ∈ front, p c = true)
    (hback : ∀ c ∈ back, p c = true) (hcore : IsTrimmed p core) :
    trimBy p (front ++ (core ++ back)) = core := by
  by_cases hne : core = []
  · subst hne
    refine trimBy_of_forall fun c hc => ?_
    rcases List.mem_append.mp hc with hc | hc
    · exact hfront c hc
    · exact hback c hc
  · have hdrop := dropWhile_append_of_stops hfront (hcore.1.append_of_ne_nil hne back)
    have hback' : ∀ c ∈ back.reverse, p c = true :=
      fun c hc => hback c (List.mem_reverse.mp hc)
    rw [trimBy, hdrop, List.reverse_append, dropWhile_append_of_stops hback' hcore.2,
      List.reverse_reverse]

/-- **The cut that trimming makes.** -/
theorem exists_trimBy (p : Char → Bool) (cs : List Char) : ∃ front back,
    cs = front ++ (trimBy p cs ++ back) ∧ (∀ c ∈ front, p c = true) ∧ (∀ c ∈ back, p c = true) ∧
      IsTrimmed p (trimBy p cs) := by
  obtain ⟨front, rest, -, -, rfl, hfront, hrest⟩ := exists_front p cs
  obtain ⟨back, core, -, -, hreverse, hback, hcore⟩ := exists_front p rest.reverse
  have hsplit : rest = core.reverse ++ back.reverse := by
    rw [← List.reverse_append, ← hreverse, List.reverse_reverse]
  have hback' : ∀ c ∈ back.reverse, p c = true :=
    fun c hc => hback c (List.mem_reverse.mp hc)
  have htrimmed : IsTrimmed p core.reverse := by
    refine ⟨?_, by rw [List.reverse_reverse]; exact hcore⟩
    by_cases hne : core.reverse = []
    · rw [hne]
      exact stops_nil
    · obtain ⟨c, cs, hcons⟩ := List.exists_cons_of_ne_nil hne
      rw [hsplit, hcons, List.cons_append, stops_cons] at hrest
      rw [hcons, stops_cons]
      exact hrest
  have htrim : trimBy p (front ++ rest) = core.reverse := by
    rw [hsplit]
    exact trimBy_of_core hfront hback' htrimmed
  rw [htrim]
  exact ⟨front, back.reverse, by rw [hsplit], hfront, hback', htrimmed⟩

theorem trimBy_of_isTrimmed {cs : List Char} (h : IsTrimmed p cs) : trimBy p cs = cs := by
  have hcore := trimBy_of_core (List.forall_mem_nil _) (List.forall_mem_nil _) h
  rw [List.nil_append, List.append_nil] at hcore
  exact hcore

/-- What stands at the ends of a text and is trimmed does not count. -/
theorem trimBy_wrapped {front back : List Char} (hfront : ∀ c ∈ front, p c = true)
    (hback : ∀ c ∈ back, p c = true) (cs : List Char) :
    trimBy p (front ++ (cs ++ back)) = trimBy p cs := by
  obtain ⟨front', back', hcs, hfront', hback', hcore⟩ := exists_trimBy p cs
  generalize trimBy p cs = core at hcs hcore ⊢
  have hsplit : front ++ (cs ++ back) = (front ++ front') ++ (core ++ (back' ++ back)) := by
    simp [hcs]
  rw [hsplit]
  exact trimBy_of_core (List.forall_mem_append.mpr ⟨hfront, hfront'⟩)
    (List.forall_mem_append.mpr ⟨hback', hback⟩) hcore

/-- A text that ends with a trimmed one is trimmed in front, and what was trimmed at its end stands
between the two. -/
theorem trimBy_append (cs : List Char) {tail : List Char} (hne : tail ≠ [])
    (htail : IsTrimmed p tail) :
    ∃ gap, (∀ c ∈ gap, p c = true) ∧ trimBy p (cs ++ tail) = trimBy p cs ++ (gap ++ tail) := by
  obtain ⟨front, back, hcs, hfront, hback, hcore⟩ := exists_trimBy p cs
  have hreverse : Stops p (trimBy p cs ++ (back ++ tail)).reverse := by
    rw [← List.append_assoc, List.reverse_append]
    exact htail.2.append_of_ne_nil (by simp [hne]) _
  by_cases hempty : trimBy p cs = []
  · have hall : ∀ c ∈ cs, p c = true := by
      intro c hc
      rw [hcs, hempty, List.nil_append, List.mem_append] at hc
      exact hc.elim (hfront c) (hback c)
    refine ⟨[], by simp, ?_⟩
    rw [hempty]
    have h := trimBy_of_core hall (List.forall_mem_nil _) htail
    rw [List.append_nil] at h
    exact h
  · have hall : IsTrimmed p (trimBy p cs ++ (back ++ tail)) :=
      ⟨hcore.1.append_of_ne_nil hempty _, hreverse⟩
    refine ⟨back, hback, ?_⟩
    have h := trimBy_of_core hfront (List.forall_mem_nil _) hall
    rw [List.append_nil, ← List.append_assoc (trimBy p cs), ← List.append_assoc front, ← hcs] at h
    rw [h, List.append_assoc]

/-! ## What is left of a text -/

theorem mem_of_mem_trimBy {cs : List Char} {c : Char} (h : c ∈ trimBy p cs) : c ∈ cs := by
  obtain ⟨front, back, hcs, -, -, -⟩ := exists_trimBy p cs
  rw [hcs]
  exact List.mem_append_right _ (List.mem_append_left _ h)

theorem count_trimBy {c : Char} (hc : p c = false) (cs : List Char) :
    (trimBy p cs).count c = cs.count c := by
  obtain ⟨front, back, hcs, hfront, hback, -⟩ := exists_trimBy p cs
  have hnone : ∀ a : List Char, (∀ x ∈ a, p x = true) → a.count c = 0 := by
    intro a ha
    rw [List.count_eq_zero]
    intro hm
    rw [ha c hm] at hc
    cases hc
  have hcount := congrArg (List.count c) hcs
  rw [List.count_append, List.count_append, hnone front hfront, hnone back hback, Nat.zero_add,
    Nat.add_zero] at hcount
  exact hcount.symm

end ArchDiagram.Text
