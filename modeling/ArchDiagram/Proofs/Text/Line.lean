import ArchDiagram.Text.Scan
import ArchDiagram.Text.Utf8

/-!
# Lines of octets and lines of text

A line feed is read as a line feed wherever it stands: it breaks off a character that is not
complete, and no other octet is lost or added.  Octets may therefore be cut into lines before they
are read or after it.

* `Utf8.units_append_lineFeed`: what stands before a line feed is read as if it stood alone.
* `Utf8.decodeLossy_append_lineFeed`: so is its text.
* `Text.splitBy_eq_splitOn`, `Text.dropFront?_eq`: lines and their fronts in terms of lists.
-/

namespace ArchDiagram

namespace Utf8

/-- Between octets: what has been read, the last one first, and a character that is not complete. -/
abbrev Reading := List (Option Char) × Option Pending

/-- What has been read if no octet follows, the last one first. -/
def Reading.closed : Reading → List (Option Char)
  | (done, none) => done
  | (done, some _) => none :: done

/-- An octet that continues the character is no ASCII octet. -/
def Reading.IsOpen (s : Reading) : Prop :=
  ∀ p, s.2 = some p → 0x80 ≤ p.low

theorem units_eq (bs : List UInt8) : units bs = (Reading.closed (bs.foldl step ([], none))).reverse := by
  rw [units]
  rcases bs.foldl step ([], none) with ⟨done, _ | p⟩ <;> rfl

theorem low_of_start {n : Nat} {p : Pending} (h : start n = .pending p) : 0x80 ≤ p.low := by
  unfold start at h
  repeat' split at h
  all_goals simp only [reduceCtorEq, Start.pending.injEq] at h
  all_goals simp [← h]

theorem isOpen_begin (done : List (Option Char)) (n : Nat) : Reading.IsOpen (begin done n) := by
  intro p hp
  rw [begin] at hp
  cases hs : start n with
  | char c => simp [hs] at hp
  | broken => simp [hs] at hp
  | pending q =>
    simp only [hs, Option.some.injEq] at hp
    rw [← hp]
    exact low_of_start hs

theorem isOpen_step {s : Reading} (hs : s.IsOpen) (b : UInt8) : Reading.IsOpen (step s b) := by
  rcases s with ⟨done, _ | p⟩
  · exact isOpen_begin done _
  · rw [step]
    dsimp only
    split
    · split
      · intro q hq
        cases hq
      · intro q hq
        simp only [Option.some.injEq] at hq
        simp [← hq]
    · exact isOpen_begin _ _

theorem isOpen_foldl (bs : List UInt8) {s : Reading} (hs : s.IsOpen) :
    Reading.IsOpen (bs.foldl step s) := by
  induction bs generalizing s with
  | nil => exact hs
  | cons b bs ih => exact ih (isOpen_step hs b)

/-- What was read before is not touched again. -/
theorem begin_append (done before : List (Option Char)) (n : Nat) :
    begin (done ++ before) n = ((begin done n).1 ++ before, (begin done n).2) := by
  rw [begin, begin]
  cases start n <;> rfl

theorem step_append (done before : List (Option Char)) (p : Option Pending) (b : UInt8) :
    step (done ++ before, p) b = ((step (done, p) b).1 ++ before, (step (done, p) b).2) := by
  cases p with
  | none => exact begin_append done before _
  | some p =>
    simp only [step]
    split
    · split <;> rfl
    · exact begin_append (none :: done) before _

theorem foldl_step_append (bs : List UInt8) (done before : List (Option Char))
    (p : Option Pending) :
    bs.foldl step (done ++ before, p) =
      ((bs.foldl step (done, p)).1 ++ before, (bs.foldl step (done, p)).2) := by
  induction bs generalizing done p with
  | nil => rfl
  | cons b bs ih =>
    rw [List.foldl_cons, step_append, ih]
    rfl

theorem closed_append (done before : List (Option Char)) (p : Option Pending) :
    Reading.closed (done ++ before, p) = Reading.closed (done, p) ++ before := by
  cases p <;> rfl

/-- A line feed breaks off a character that is not complete. -/
theorem step_lineFeed {s : Reading} (hs : s.IsOpen) : step s 10 = (some '\n' :: s.closed, none) := by
  rcases s with ⟨done, _ | p⟩
  · rfl
  · have hlow : 0x80 ≤ p.low := hs p rfl
    have hten : ¬ (p.low ≤ (10 : UInt8).toNat ∧ (10 : UInt8).toNat ≤ p.high) := by
      intro h
      have h10 : p.low ≤ 10 := h.1
      omega
    rw [step]
    dsimp only
    rw [if_neg hten]
    rfl

/-- **What stands before a line feed is read as if it stood alone**, and so is what stands after
it. -/
theorem units_append_lineFeed (a b : List UInt8) :
    units (a ++ 10 :: b) = units a ++ some '\n' :: units b := by
  have hopen : Reading.IsOpen (a.foldl step ([], none)) := isOpen_foldl a (by rintro p ⟨⟩)
  rw [units_eq, units_eq, units_eq, List.foldl_append, List.foldl_cons, step_lineFeed hopen]
  rw [← List.nil_append (some '\n' :: _), foldl_step_append, closed_append, List.reverse_append]
  simp

theorem decodeLossy_append_lineFeed (a b : List UInt8) :
    (decodeLossy (a ++ 10 :: b)).toList =
      (decodeLossy a).toList ++ '\n' :: (decodeLossy b).toList := by
  simp [decodeLossy, units_append_lineFeed]

end Utf8

namespace Text

theorem splitLoop_eq (p : Char → Bool) (piece : List Char) (done : List (List Char))
    (cs : List Char) :
    splitLoop p piece done cs = done.reverse ++ cs.splitOnPPrepend p piece := by
  induction cs generalizing piece done with
  | nil => simp [splitLoop]
  | cons c cs ih =>
    rw [splitLoop, ih, ih, List.splitOnPPrepend]
    split <;> simp

theorem splitBy_eq_splitOn (c : Char) (cs : List Char) : splitBy (· == c) cs = cs.splitOn c := by
  rw [splitBy, splitLoop_eq]
  rfl

theorem dropFront?_eq (front cs : List Char) :
    dropFront? front cs = if front.isPrefixOf cs then some (cs.drop front.length) else none := by
  induction front generalizing cs with
  | nil => simp [dropFront?]
  | cons f front ih =>
    cases cs with
    | nil => simp [dropFront?]
    | cons c cs =>
      by_cases hf : f = c
      · simp [dropFront?, hf, ih]
      · simp [dropFront?, hf]

/-- A last line that is empty does not count. -/
theorem filterMap_lines {α : Type} {f : List Char → Option α} (hf : f [] = none)
    (cs : List Char) : (lines cs).filterMap f = (cs.splitOn '\n').filterMap f := by
  rw [lines, splitBy_eq_splitOn]
  split
  · rename_i h
    have hlast : (cs.splitOn '\n').getLast? = some [] := by simpa using h
    obtain ⟨front, hfront⟩ := List.getLast?_eq_some_iff.mp hlast
    simp [hfront, hf]
  · rfl

/-- Lines with a line feed after each are cut apart again. -/
theorem lines_flatMap {ls : List (List Char)} (h : ∀ l ∈ ls, '\n' ∉ l) :
    lines (ls.flatMap (· ++ ['\n'])) = ls := by
  have hsplit : (ls.flatMap (· ++ ['\n'])).splitOn '\n' = ls ++ [[]] := by
    induction ls with
    | nil => rfl
    | cons l ls ih =>
      have hl : l.splitOn '\n' = [l] := List.splitOn_eq_singleton (h l List.mem_cons_self)
      have hls := ih fun m hm => h m (List.mem_cons_of_mem _ hm)
      rw [List.flatMap_cons, List.append_assoc, List.singleton_append,
        List.splitOn_append_cons_self, hl, hls, List.singleton_append, List.cons_append]
  rw [lines, splitBy_eq_splitOn, hsplit, if_pos (by simp), List.dropLast_concat]

end Text

end ArchDiagram
