import ArchDiagram.Json.Reader
import ArchDiagram.Proofs.Json.Token

/-!
# Values read back

The tokens of a value take the reader from where a value is expected to where it is complete,
whatever containers are open around it.  Together with the tokens of its compact text this gives
that a value that can be written is read back from its text.

* `Json.foldlM_tokens`: **the tokens of a value make this value**.
* `Json.IsWritten.ofText?_render`: **the compact text of a value is read as this value**.
-/

namespace ArchDiagram.Json

/-- Where the first item of an array may stand, a value begins as everywhere. -/
theorem exists_tokens (j : Json) : ∃ t ts, j.tokens = t :: ts ∧
    ∀ stack, State.step (.firstItem stack) t = State.step (.value (.array [] :: stack)) t := by
  cases j <;> exact ⟨_, _, rfl, fun _ => rfl⟩

theorem exists_itemTokens (x : Json) (xs : List Json) : ∃ t ts, itemTokens (x :: xs) = t :: ts ∧
    ∀ stack, State.step (.firstItem stack) t = State.step (.value (.array [] :: stack)) t := by
  obtain ⟨t, ts, hts, ht⟩ := exists_tokens x
  cases xs with
  | nil => exact ⟨t, ts, hts, ht⟩
  | cons y xs => exact ⟨t, _, by rw [itemTokens, hts]; rfl, ht⟩

mutual

/-- **The tokens of a value make this value**, whatever is open around it. -/
theorem foldlM_tokens : ∀ (j : Json) (stack : List Frame),
    j.tokens.foldlM State.step (.value stack) = some (.after stack j)
  | .null, _ => rfl
  | .bool _, _ => rfl
  | .number _, _ => rfl
  | .string _, _ => rfl
  | .array [], _ => rfl
  | .array (x :: xs), stack => by
    -- the first item stands where the array might have been closed as well
    obtain ⟨t, ts, hts, ht⟩ := exists_itemTokens x xs
    have hitems := foldlM_itemTokens (x :: xs) (List.cons_ne_nil x xs) [] stack
    rw [hts, List.cons_append, List.foldlM_cons, ← ht] at hitems
    rw [tokens, hts]
    exact hitems
  | .object [], _ => rfl
  | .object (m :: ms), stack => by
    have hmembers := foldlM_memberTokens (m :: ms) (List.cons_ne_nil m ms) [] stack
    rw [tokens]
    cases ms <;> exact hmembers

theorem foldlM_itemTokens : ∀ xs : List Json, xs ≠ [] → ∀ (acc : List Json) (stack : List Frame),
    (itemTokens xs ++ [Token.closeArray]).foldlM State.step (.value (.array acc :: stack)) =
      some (.after stack (.array (acc.reverse ++ xs)))
  | [], h, _, _ => absurd rfl h
  | [x], _, acc, stack => by
    rw [itemTokens, List.foldlM_append, foldlM_tokens x]
    simp [State.step]
  | x :: y :: xs, _, acc, stack => by
    have hrest := foldlM_itemTokens (y :: xs) (List.cons_ne_nil y xs) (x :: acc) stack
    rw [List.reverse_cons, List.append_assoc] at hrest
    rw [itemTokens, List.append_assoc, List.foldlM_append, foldlM_tokens x]
    exact hrest

theorem foldlM_memberTokens : ∀ ms : List (Option String × Json), ms ≠ [] →
    ∀ (acc : List (Option String × Json)) (stack : List Frame),
      (memberTokens ms ++ [Token.closeObject]).foldlM State.step (.key stack acc) =
        some (.after stack (.object (acc.reverse ++ ms)))
  | [], h, _, _ => absurd rfl h
  | [(k, v)], _, acc, stack => by
    show (v.tokens ++ [Token.closeObject]).foldlM State.step (.value (.object acc k :: stack)) = _
    rw [List.foldlM_append, foldlM_tokens v]
    simp [State.step]
  | (k, v) :: m :: ms, _, acc, stack => by
    have hrest := foldlM_memberTokens (m :: ms) (List.cons_ne_nil m ms) ((k, v) :: acc) stack
    rw [List.reverse_cons, List.append_assoc] at hrest
    show (v.tokens ++ .comma :: memberTokens (m :: ms) ++ [Token.closeObject]).foldlM
      State.step (.value (.object acc k :: stack)) = _
    rw [List.append_assoc, List.foldlM_append, foldlM_tokens v]
    exact hrest

end

theorem ofTokens?_tokens (j : Json) : ofTokens? j.tokens = some j := by
  rw [ofTokens?, foldlM_tokens]
  rfl

/-- **The compact text of a value is read as this value.** -/
theorem IsWritten.ofText?_render {j : Json} (h : j.IsWritten) : ofText? j.render = some j := by
  have hscan : Token.scan (Utf8.encode j.render) = some j.tokens := by
    rw [render, Utf8.encode_eq_octets, String.toList_ofList]
    exact h.scans.scan_eq
  rw [ofText?, ofOctets?, hscan]
  exact ofTokens?_tokens j

end ArchDiagram.Json
