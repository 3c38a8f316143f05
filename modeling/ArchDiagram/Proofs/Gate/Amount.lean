import ArchDiagram.Proofs.Run.Gate

/-!
# Amounts in the messages of the gate

A rejection names the limit that was crossed, with its digits in groups of three or in thousands.
The groups are counted from the right while they are written from the left, so what an induction on
the digits carries is the length of the first group; all later ones are full.  No two limits are
written alike, and as neither message has anything in front of its amount that looks like one, the
limit can be read back from the whole message.

* `Decimal.chars_eq_toDigits`: the text of a number is made of its decimal digits.
* `Gate.splitOn_grouped`: **the groups of digits**, by induction on the digits.
* `Gate.IsExact`: numbers that are written exactly, which all of them are (`Gate.isExact`).
* `Gate.limit?`: the limit that a message names.
* `Gate.messages_tell_limits`: **rejections for different limits have different messages**.
-/

namespace ArchDiagram

/-! ## Digits -/

namespace Decimal

theorem digitChar_eq : ∀ d < 10, digitChar d = Nat.digitChar d := by
  decide

theorem map_digitsOnto (rest : List Nat) (n : Nat) :
    (digitsOnto rest n).map digitChar = Nat.toDigits 10 n ++ rest.map digitChar := by
  fun_induction digitsOnto rest n with
  | case1 rest n hn =>
    rw [Nat.toDigits_of_lt_base hn, List.map_cons, digitChar_eq n hn]
    rfl
  | case2 rest n hn ih =>
    have hmod : n % 10 < 10 := Nat.mod_lt n (by decide)
    have hdigits : Nat.toDigits 10 (n / 10) ++ Nat.toDigits 10 (n % 10) = Nat.toDigits 10 n := by
      rw [Nat.toDigits_append_toDigits (by decide) (by omega) hmod, Nat.div_add_mod]
    rw [ih, ← hdigits, Nat.toDigits_of_lt_base hmod, List.map_cons, digitChar_eq _ hmod,
      List.append_assoc]
    rfl

/-- The text of a number is made of its decimal digits. -/
theorem chars_eq_toDigits (n : Nat) : chars n = Nat.toDigits 10 n := by
  have h := map_digitsOnto [] n
  rwa [List.map_nil, List.append_nil] at h

end Decimal

namespace Gate

/-! ## Groups -/

theorem comma_not_mem_chars (n : Nat) : ',' ∉ Decimal.chars n := by
  intro h
  exact absurd (Decimal.isDigit_of_mem_chars h) (by decide)

/-- **The groups of digits**: one to three digits, as many as are left over by threes, and then
three digits in each group. -/
theorem splitOn_grouped {cs : List Char} (hcs : ',' ∉ cs) (hne : cs ≠ []) :
    ∃ first later, (grouped cs).splitOn ',' = first :: later ∧
      first.length = (cs.length - 1) % 3 + 1 ∧ ∀ g ∈ later, g.length = 3 := by
  induction cs with
  | nil => exact absurd rfl hne
  | cons c cs ih =>
    rw [List.mem_cons, not_or] at hcs
    have hc : (c == ',') = false := by simpa using Ne.symm hcs.1
    by_cases hnil : cs = []
    · subst hnil
      refine ⟨[c], [], ?_, rfl, by simp⟩
      simp [grouped, List.splitOn, List.splitOnP_cons_eq_if_modifyHead, hc]
    · obtain ⟨first, later, hsplit, hfirst, hlater⟩ := ih hcs.2 hnil
      have hpos : 0 < cs.length := List.length_pos_iff.mpr hnil
      rw [List.splitOn] at hsplit
      rw [grouped, List.length_cons]
      by_cases hthree : cs.length % 3 = 0
      · -- the group of `c` ends here, and the one behind it is full
        refine ⟨[c], first :: later, ?_, by simp [hthree], ?_⟩
        · rw [if_pos ⟨hthree, hnil⟩]
          simp [List.splitOn, List.splitOnP_cons_eq_if_modifyHead, hc, hsplit]
        · intro g hg
          rcases List.mem_cons.mp hg with rfl | hg
          · omega
          · exact hlater g hg
      · refine ⟨c :: first, later, ?_, ?_, hlater⟩
        · rw [if_neg fun h => hthree h.1]
          simp [List.splitOn, List.splitOnP_cons_eq_if_modifyHead, hc, hsplit]
        · rw [List.length_cons]
          omega

/-- A number that is written exactly, so that nothing else is written like it. -/
structure IsExact (n : Nat) : Prop where
  /-- Without its commas it consists of its digits. -/
  digits : (groupThousands n).filter (· ≠ ',') = Nat.toDigits 10 n
  /-- Between commas there are three digits, and one to three in front of the first one. -/
  groups : ∃ first later, (groupThousands n).splitOn ',' = first :: later ∧
    1 ≤ first.length ∧ first.length ≤ 3 ∧ ∀ g ∈ later, g.length = 3
  /-- In thousands it stands for itself. -/
  amount : amount? (abbreviateThousands n) = some n
  unique : ∀ k, abbreviateThousands k = abbreviateThousands n → k = n

theorem isExact (n : Nat) : IsExact n where
  digits := by
    rw [groupThousands, filter_grouped (comma_not_mem_chars n), Decimal.chars_eq_toDigits]
  groups := by
    obtain ⟨first, later, hsplit, hfirst, hlater⟩ :=
      splitOn_grouped (comma_not_mem_chars n) (Decimal.chars_ne_nil n)
    exact ⟨first, later, hsplit, by omega, by omega, hlater⟩
  amount := amount?_abbreviateThousands n
  unique := by
    intro k hk
    have hread := congrArg amount? hk
    rw [amount?_abbreviateThousands, amount?_abbreviateThousands] at hread
    exact Option.some.inj hread

/-! ## Messages -/

def isAmountChar (c : Char) : Bool :=
  c.isDigit || c == ',' || c == 'k'

/-- The limit that a message names: the amount behind its first parenthesis. -/
def limit? (message : String) : Option Nat :=
  let behind := (message.toList.dropWhile (· ≠ '(')).drop 1
  amount? ((behind.dropWhile (· == '>')).takeWhile isAmountChar)

theorem isAmountChar_of_mem_groupThousands {n : Nat} {c : Char} (hc : c ∈ groupThousands n) :
    isAmountChar c = true := by
  rcases mem_of_mem_grouped hc with hc | rfl
  · simp [isAmountChar, Decimal.isDigit_of_mem_chars hc]
  · rfl

theorem isAmountChar_of_mem_abbreviateThousands {n : Nat} {c : Char}
    (hc : c ∈ abbreviateThousands n) : isAmountChar c = true := by
  rw [abbreviateThousands] at hc
  split at hc
  · rcases List.mem_append.mp hc with hc | hc
    · simp [isAmountChar, Decimal.isDigit_of_mem_chars hc]
    · rw [List.mem_singleton] at hc
      subst hc
      rfl
  · exact isAmountChar_of_mem_groupThousands hc

/-- A message names the amount that stands behind its first parenthesis. -/
theorem limit?_eq {message : String} {front mark amount back : List Char} {c : Char}
    (hmessage : message.toList = front ++ '(' :: (mark ++ (amount ++ c :: back)))
    (hfront : '(' ∉ front) (hmark : ∀ x ∈ mark, x = '>')
    (hamount : ∀ x ∈ amount, isAmountChar x = true) (hc : isAmountChar c = false)
    (hgreater : c ≠ '>') : limit? message = amount? amount := by
  have hopen : message.toList.dropWhile (· ≠ '(') = '(' :: (mark ++ (amount ++ c :: back)) := by
    rw [hmessage, List.dropWhile_append_of_pos]
    · rfl
    · intro x hx
      have hne : x ≠ '(' := fun h => hfront (h ▸ hx)
      simpa using hne
  have hstart : (mark ++ (amount ++ c :: back)).dropWhile (· == '>') = amount ++ c :: back := by
    rw [List.dropWhile_append_of_pos (by simpa using hmark)]
    cases amount with
    | nil => simp [hgreater]
    | cons a amount =>
      have ha : a ≠ '>' := by
        rintro rfl
        exact absurd (hamount '>' List.mem_cons_self) (by decide)
      simp [ha]
  have hend : (amount ++ c :: back).takeWhile isAmountChar = amount := by
    rw [List.takeWhile_append_of_pos hamount, List.takeWhile_cons, if_neg (by simp [hc]),
      List.append_nil]
  rw [limit?, hopen]
  show amount? (((mark ++ (amount ++ c :: back)).dropWhile (· == '>')).takeWhile isAmountChar) = _
  rw [hstart, hend]

def Rejection.limit : Rejection → Nat
  | .keyRequired _ threshold => threshold
  | .tooLarge _ limit => limit

/-- **The limit that a rejection names can be read back from its message.** -/
theorem limit?_message (x : Rejection) : limit? x.message = some x.limit := by
  cases x with
  | keyRequired estimate threshold =>
    have hmessage : (Rejection.keyRequired estimate threshold).message.toList =
        "File tree and README combined exceeds token limit ".toList ++
          '(' :: ([] ++ (groupThousands threshold ++ ')' :: (". This repository is too large for " ++
            "free generation. Provide your own OpenAI API key to continue.").toList)) := by
      rw [Rejection.message_keyRequired]
      simp [String.toList_append]
    have hamount : ∀ c ∈ groupThousands threshold, isAmountChar c = true :=
      fun c => isAmountChar_of_mem_groupThousands
    rw [limit?_eq hmessage (by decide) (by simp) hamount rfl (by decide), amount?_groupThousands]
    rfl
  | tooLarge estimate limit =>
    have hmessage : (Rejection.tooLarge estimate limit).message.toList =
        "Repository is too large ".toList ++ '(' :: (['>'] ++ (abbreviateThousands limit ++
          ' ' :: "tokens) for analysis. Try a smaller repo.".toList)) := by
      rw [Rejection.message_tooLarge]
      simp [String.toList_append]
    have hamount : ∀ c ∈ abbreviateThousands limit, isAmountChar c = true :=
      fun c => isAmountChar_of_mem_abbreviateThousands
    rw [limit?_eq hmessage (by decide) (by simp) hamount rfl (by decide),
      amount?_abbreviateThousands]
    rfl

/-! ## Policies -/

/-- The limit of a policy that an estimate crosses where it is rejected. -/
def Policy.crossed (p : Policy) (estimate : Nat) : Nat :=
  if p.limit < estimate then p.limit else p.threshold

theorem limit_of_decide {p : Policy} {estimate : Nat} {hasKey : Bool} {x : Rejection}
    (h : decide p estimate hasKey = some x) : x.limit = p.crossed estimate := by
  have hpasses : ¬ Passes p estimate hasKey := by
    intro hp
    rw [(decide_eq_none_iff p estimate hasKey).mpr hp] at h
    cases h
  rw [decide_of_not_passes hpasses, Option.some.injEq] at h
  subst h
  rw [Policy.crossed]
  split <;> rfl

/-- **Limits are written exactly**, and the message of a rejection tells the limit of the policy
that was crossed.  So rejections for different limits have different messages, whatever the
policies, the estimates and the keys are. -/
theorem messages_tell_limits :
    (∀ n, IsExact n) ∧
    (∀ (p : Policy) (e : Nat) (hasKey : Bool) (x : Rejection), decide p e hasKey = some x →
      limit? x.message = some (p.crossed e)) ∧
    ∀ (p q : Policy) (e e' : Nat) (hasKey hasKey' : Bool) (x y : Rejection),
      decide p e hasKey = some x → decide q e' hasKey' = some y →
      p.crossed e ≠ q.crossed e' → x.message ≠ y.message := by
  refine ⟨isExact, ?_, ?_⟩
  · intro p e hasKey x hx
    rw [limit?_message, limit_of_decide hx]
  · intro p q e e' hasKey hasKey' x y hx hy hne hmessage
    apply hne
    have hlimit := congrArg limit? hmessage
    rw [limit?_message, limit?_message, Option.some.injEq] at hlimit
    rw [← limit_of_decide hx, ← limit_of_decide hy, hlimit]

/-- One limit is written in groups and the other, a thousand times as large, in thousands. -/
theorem messages_tell_limits_thousands :
    let p : Policy := ⟨10, 12500⟩
    let q : Policy := ⟨10, 12500000⟩
    let x : Rejection := .tooLarge 12501 12500
    let y : Rejection := .tooLarge 12500001 12500000
    decide p 12501 true = some x ∧ decide q 12500001 true = some y ∧
      IsExact 12500000 ∧ limit? x.message = some 12500 ∧ limit? y.message = some 12500000 ∧
      x.message ≠ y.message := by
  intro p q x y
  have hx : decide p 12501 true = some x := rfl
  have hy : decide q 12500001 true = some y := rfl
  have hcrossed : p.crossed 12501 ≠ q.crossed 12500001 := by decide
  obtain ⟨hexact, hlimit, hne⟩ := messages_tell_limits
  exact ⟨hx, hy, hexact _, hlimit p _ _ x hx, hlimit q _ _ y hy,
    hne p q _ _ _ _ x y hx hy hcrossed⟩

end Gate

end ArchDiagram
