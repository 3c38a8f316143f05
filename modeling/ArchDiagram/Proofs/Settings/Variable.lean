import ArchDiagram.Proofs.Decimal.Digits
import ArchDiagram.Settings

/-!
# Variables and the settings that they make

Every field of the settings is read off one variable, and every variable that is looked at has a
field of its own.  A variable that is unset or blank leaves the field as it is by default.  Three
variables hold numbers and can be at fault; the first of them that is gives the fault.

* `Variable`: the variables, each with its name, its field and how the field is read off it.
* `number?_eq_some_iff`: **which texts are numbers that fit**.
* `ofLookup_eq_ok_iff`: **the settings are those whose fields are all read off their variables**.
* `ofLookup_eq_error_iff`: **the fault is that of the first number that is none**.
* `ofLookup_reads`: what an environment comes to, and what of it counts.
-/

namespace ArchDiagram.Settings

/-! ## Numbers -/

/-- A text that is a number once it is trimmed: one or more digits, perhaps after a plus sign. -/
def IsNumeral (s : String) (n : Nat) : Prop :=
  ∃ sign ds, (sign = [] ∨ sign = ['+']) ∧ ds ≠ [] ∧ (∀ d ∈ ds, d < 10) ∧
    Text.trimBy Text.isBlank s.toList = sign ++ ds.map Decimal.digitChar ∧ Decimal.value ds = n

/-- No digit is taken for a sign. -/
theorem digitChar_ne_plus : ∀ d < 10, Decimal.digitChar d ≠ '+' := by
  decide

/-- **Which texts are numbers that fit.** -/
theorem number?_eq_some_iff {bound n : Nat} {s : String} :
    number? bound s = some n ↔ IsNumeral s n ∧ n < bound := by
  rw [number?, IsNumeral]
  generalize Text.trimBy Text.isBlank s.toList = cs
  rw [Option.filter_eq_some_iff, decide_eq_true_iff]
  refine and_congr_left fun _ => ?_
  rw [Decimal.read?_eq_some_iff]
  constructor
  · rintro ⟨ds, hne, hlt, hds, hn⟩
    split at hds
    · exact ⟨['+'], ds, Or.inr rfl, hne, hlt, by rw [hds]; rfl, hn⟩
    · exact ⟨[], ds, Or.inl rfl, hne, hlt, hds, hn⟩
  · rintro ⟨sign, ds, hsign, hne, hlt, rfl, hn⟩
    refine ⟨ds, hne, hlt, ?_, hn⟩
    rcases hsign with rfl | rfl
    · split
      · rename_i r hr
        obtain ⟨d, ds, rfl⟩ := List.exists_cons_of_ne_nil hne
        have hhead : Decimal.digitChar d = '+' := (List.cons.inj hr).1
        exact absurd hhead (digitChar_ne_plus d (hlt d List.mem_cons_self))
      · rfl
    · rfl

theorem IsNumeral.unique {s : String} {m n : Nat} (hm : IsNumeral s m) (hn : IsNumeral s n) :
    m = n := by
  have hm' := number?_eq_some_iff.mpr ⟨hm, (by omega : m < m + n + 1)⟩
  have hn' := number?_eq_some_iff.mpr ⟨hn, (by omega : n < m + n + 1)⟩
  rw [hm'] at hn'
  exact Option.some.inj hn'

/-- A variable that is not set gives no number, and any other one the number in it. -/
theorem numberIn_ok {key : String} {bound : Nat} {value : Option String} {x : Option Nat}
    (h : numberIn key bound value = .ok x) :
    (value = none ∧ x = none) ∨ ∃ v n, value = some v ∧ x = some n ∧ n < bound ∧ IsNumeral v n := by
  cases value with
  | none =>
    cases h
    exact Or.inl ⟨rfl, rfl⟩
  | some v =>
    rw [numberIn] at h
    split at h
    · rename_i n hn
      cases h
      obtain ⟨hnumeral, hlt⟩ := number?_eq_some_iff.mp hn
      exact Or.inr ⟨v, n, rfl, rfl, hlt, hnumeral⟩
    · cases h

/-- The fault of a variable is that it is set and holds no number that fits. -/
theorem numberIn_error {key : String} {bound : Nat} {value : Option String} {f : Fault}
    (h : numberIn key bound value = .error f) :
    ∃ v, f = ⟨key, v⟩ ∧ value = some v ∧ ∀ n < bound, ¬ IsNumeral v n := by
  cases value with
  | none => cases h
  | some v =>
    rw [numberIn] at h
    split at h
    · cases h
    · rename_i hnone
      cases h
      refine ⟨v, rfl, rfl, ?_⟩
      intro n hlt hn
      rw [number?_eq_some_iff.mpr ⟨hn, hlt⟩] at hnone
      cases hnone

/-! ## Variables -/

inductive Variable where
  | apiKey
  | model
  | providerUrl
  | providerTimeout
  | hostToken
  | hostUrl
  | checkerProgram
  | checkerArgs
  | host
  | port
  | pacing
  deriving DecidableEq

namespace Variable

def name : Variable → String
  | apiKey => "OPENAI_API_KEY"
  | model => "OPENAI_MODEL"
  | providerUrl => "OPENAI_BASE_URL"
  | providerTimeout => "OPENAI_TIMEOUT_SECONDS"
  | hostToken => "GITHUB_PAT"
  | hostUrl => "GITHUB_API_URL"
  | checkerProgram => "MERMAID_VALIDATOR_PROGRAM"
  | checkerArgs => "MERMAID_VALIDATOR_ARGS"
  | host => "HOST"
  | port => "PORT"
  | pacing => "PACING_DELAY_MS"

def Content : Variable → Type
  | apiKey | hostToken => Option String
  | model | providerUrl | hostUrl | checkerProgram | host => String
  | checkerArgs => List String
  | port => Nat
  | providerTimeout | pacing => Duration

def field : (x : Variable) → Settings → x.Content
  | apiKey, s => s.apiKey
  | model, s => s.model
  | providerUrl, s => s.providerUrl
  | providerTimeout, s => s.providerTimeout
  | hostToken, s => s.hostToken
  | hostUrl, s => s.hostUrl
  | checkerProgram, s => s.checkerProgram
  | checkerArgs, s => s.checkerArgs
  | host, s => s.host
  | port, s => s.port
  | pacing, s => s.pacing

/-- The content `a` of a field is read off the text `v` of its variable. -/
def IsReadOff (v : String) : (x : Variable) → x.Content → Prop
  | apiKey, a => a = some v
  | model, a => a = Text.trim v
  | providerUrl, a => a = v
  | providerTimeout, a => ∃ n < 2 ^ 64, IsNumeral v n ∧ a = Duration.seconds n
  | hostToken, a => a = some v
  | hostUrl, a => a = v
  | checkerProgram, a => a = v
  | checkerArgs, a => a = Text.words v
  | host, a => a = v
  | port, a => ∃ n < 2 ^ 16, IsNumeral v n ∧ a = n
  | pacing, a => ∃ n < 2 ^ 64, IsNumeral v n ∧ a = Duration.milliseconds n

/-- The text of a variable, none if it is unset or blank. -/
def value? (x : Variable) (lookup : String → Option String) : Option String :=
  (lookup x.name).filter fun v => !Text.isAllBlank v

/-- The content of a field is what it has to be: the default where its variable is unset or blank,
and else what is read off the variable. -/
def Determines (value : Option String) (x : Variable) (a : x.Content) : Prop :=
  match value with
  | none => a = x.field standard
  | some v => IsReadOff v x a

/-- The variables that hold numbers, in the order in which they are looked at, each with the first
number that does not fit. -/
def numbers : List (Variable × Nat) :=
  [(providerTimeout, 2 ^ 64), (port, 2 ^ 16), (pacing, 2 ^ 64)]

end Variable

/-- A variable is set and not blank, and holds no number that fits. -/
def Variable.IsFaulty (lookup : String → Option String) (x : Variable × Nat) : Prop :=
  ∃ v, x.1.value? lookup = some v ∧ ∀ n < x.2, ¬ IsNumeral v n

/-- The fault of the first variable that holds no number that fits, with its value as it is. -/
inductive FirstFault (lookup : String → Option String) : List (Variable × Nat) → Fault → Prop
  | here {x : Variable} {bound : Nat} {rest : List (Variable × Nat)} {v : String} :
      x.value? lookup = some v → (∀ n < bound, ¬ IsNumeral v n) →
      FirstFault lookup ((x, bound) :: rest) ⟨x.name, v⟩
  | later {x : Variable × Nat} {rest : List (Variable × Nat)} {f : Fault} :
      ¬ Variable.IsFaulty lookup x → FirstFault lookup rest f → FirstFault lookup (x :: rest) f

/-- Two values of a variable count alike: they are the same, or each of them is none or blank. -/
def Alike (a b : Option String) : Prop :=
  a = b ∨ (∀ v ∈ a, Text.isAllBlank v = true) ∧ ∀ v ∈ b, Text.isAllBlank v = true

/-! ## What is read off the variables -/

namespace Variable

variable {lookup other : String → Option String}

theorem value?_eq_some_iff {x : Variable} {v : String} :
    x.value? lookup = some v ↔ lookup x.name = some v ∧ Text.isAllBlank v = false := by
  simp [value?, Option.filter_eq_some_iff]

theorem value?_eq_none_iff {x : Variable} :
    x.value? lookup = none ↔ ∀ v ∈ lookup x.name, Text.isAllBlank v = true := by
  simp [value?, Option.filter_eq_none_iff]

theorem value?_congr {x : Variable} (h : Alike (lookup x.name) (other x.name)) :
    x.value? lookup = x.value? other := by
  rcases h with h | ⟨h, h'⟩
  · rw [value?, value?, h]
  · rw [value?_eq_none_iff.mpr h, value?_eq_none_iff.mpr h']

theorem Determines.unique {x : Variable} {value : Option String} {a b : x.Content}
    (ha : x.Determines value a) (hb : x.Determines value b) : a = b := by
  cases value with
  | none => exact Eq.trans ha (Eq.symm hb)
  | some v =>
    cases x with
    | providerTimeout | port | pacing =>
      obtain ⟨m, -, hm, rfl⟩ := ha
      obtain ⟨n, -, hn, rfl⟩ := hb
      rw [hm.unique hn]
    | _ => exact Eq.trans ha (Eq.symm hb)

/-- What is read off a variable at fault does not determine anything. -/
theorem IsFaulty.not_determines {x : Variable × Nat} (h : x ∈ numbers) (hx : IsFaulty lookup x)
    (a : x.1.Content) : ¬ x.1.Determines (x.1.value? lookup) a := by
  obtain ⟨v, hv, hnone⟩ := hx
  rw [hv]
  intro ha
  simp only [numbers, List.mem_cons, List.not_mem_nil, or_false] at h
  rcases h with rfl | rfl | rfl
  all_goals
    obtain ⟨n, hlt, hn, -⟩ := ha
    exact hnone n hlt hn

end Variable

theorem FirstFault.exists_isFaulty {lookup : String → Option String} {xs : List (Variable × Nat)}
    {f : Fault} (h : FirstFault lookup xs f) : ∃ x ∈ xs, Variable.IsFaulty lookup x := by
  induction h with
  | here hv hnone => exact ⟨_, List.mem_cons_self, _, hv, hnone⟩
  | later _ _ ih =>
    obtain ⟨x, hx, hfault⟩ := ih
    exact ⟨x, List.mem_cons_of_mem _ hx, hfault⟩

theorem ext_field {s t : Settings} (h : ∀ x : Variable, x.field s = x.field t) : s = t := by
  obtain ⟨_, _, _, _, _, _, _, _, _, _, _⟩ := s
  obtain ⟨_, _, _, _, _, _, _, _, _, _, _⟩ := t
  cases h .apiKey
  cases h .model
  cases h .providerUrl
  cases h .providerTimeout
  cases h .hostToken
  cases h .hostUrl
  cases h .checkerProgram
  cases h .checkerArgs
  cases h .host
  cases h .port
  cases h .pacing
  rfl

/-! ## What an environment comes to -/

/-- What an environment may come to: the first fault, or settings all of whose fields are read off
their variables. -/
inductive ComesTo (lookup : String → Option String) : Except Fault Settings → Prop
  | fault {f : Fault} : FirstFault lookup Variable.numbers f → ComesTo lookup (.error f)
  | settings {s : Settings} : (∀ x : Variable, x.Determines (x.value? lookup) (x.field s)) →
      ComesTo lookup (.ok s)

/-- The numbers are read one after the other, and nothing else can fail. -/
theorem ofLookup_eq (lookup : String → Option String) :
    ofLookup lookup =
      (numberIn Variable.providerTimeout.name (2 ^ 64)
        (Variable.providerTimeout.value? lookup)).bind
        fun seconds => (numberIn Variable.port.name (2 ^ 16) (Variable.port.value? lookup)).bind
          fun port => (numberIn Variable.pacing.name (2 ^ 64) (Variable.pacing.value? lookup)).bind
            fun pacing => .ok {
              apiKey := Variable.apiKey.value? lookup
              model := ((Variable.model.value? lookup).map Text.trim).getD standard.model
              providerUrl := (Variable.providerUrl.value? lookup).getD standard.providerUrl
              providerTimeout := (seconds.map .seconds).getD standard.providerTimeout
              hostToken := Variable.hostToken.value? lookup
              hostUrl := (Variable.hostUrl.value? lookup).getD standard.hostUrl
              checkerProgram :=
                (Variable.checkerProgram.value? lookup).getD standard.checkerProgram
              checkerArgs :=
                ((Variable.checkerArgs.value? lookup).map Text.words).getD standard.checkerArgs
              host := (Variable.host.value? lookup).getD standard.host
              port := port.getD standard.port
              pacing := (pacing.map .milliseconds).getD standard.pacing } := rfl

/-- A variable that gives a number, or none because it is unset or blank, is not at fault. -/
theorem not_isFaulty_of_numberIn {lookup : String → Option String} {x : Variable} {bound : Nat}
    {n : Option Nat} (h : numberIn x.name bound (x.value? lookup) = .ok n) :
    ¬ Variable.IsFaulty lookup (x, bound) := by
  rintro ⟨v, hv, hnone⟩
  dsimp only at hv hnone
  rcases numberIn_ok h with ⟨hunset, -⟩ | ⟨w, n, hset, -, hlt, hn⟩
  · rw [hv] at hunset
    cases hunset
  · rw [hv] at hset
    cases hset
    exact hnone n hlt hn

/-- A variable that gives a fault is the first one at fault among those that are left. -/
theorem firstFault_of_numberIn {lookup : String → Option String} {x : Variable} {bound : Nat}
    {f : Fault} (h : numberIn x.name bound (x.value? lookup) = .error f)
    (rest : List (Variable × Nat)) : FirstFault lookup ((x, bound) :: rest) f := by
  obtain ⟨v, rfl, hv, hnone⟩ := numberIn_error h
  exact .here hv hnone

/-- **What an environment comes to.** -/
theorem comesTo_ofLookup (lookup : String → Option String) :
    ComesTo lookup (ofLookup lookup) := by
  rw [ofLookup_eq]
  -- one number after the other: the first that is none ends the reading
  cases ht : numberIn Variable.providerTimeout.name (2 ^ 64)
      (Variable.providerTimeout.value? lookup) with
  | error f => exact .fault (firstFault_of_numberIn ht _)
  | ok seconds =>
    have hseconds := not_isFaulty_of_numberIn ht
    cases hp : numberIn Variable.port.name (2 ^ 16) (Variable.port.value? lookup) with
    | error f => exact .fault (.later hseconds (firstFault_of_numberIn hp _))
    | ok port =>
      have hport := not_isFaulty_of_numberIn hp
      cases hc : numberIn Variable.pacing.name (2 ^ 64) (Variable.pacing.value? lookup) with
      | error f => exact .fault (.later hseconds (.later hport (firstFault_of_numberIn hc _)))
      | ok pacing =>
        refine .settings ?_
        intro x
        cases x with
        | providerTimeout =>
          rcases numberIn_ok ht with ⟨hv, rfl⟩ | ⟨v, n, hv, rfl, hlt, hn⟩ <;> rw [hv]
          · rfl
          · exact ⟨n, hlt, hn, rfl⟩
        | port =>
          rcases numberIn_ok hp with ⟨hv, rfl⟩ | ⟨v, n, hv, rfl, hlt, hn⟩ <;> rw [hv]
          · rfl
          · exact ⟨n, hlt, hn, rfl⟩
        | pacing =>
          rcases numberIn_ok hc with ⟨hv, rfl⟩ | ⟨v, n, hv, rfl, hlt, hn⟩ <;> rw [hv]
          · rfl
          · exact ⟨n, hlt, hn, rfl⟩
        | _ =>
          dsimp only [Variable.field]
          generalize Variable.value? _ lookup = value
          cases value <;> rfl

section

variable {lookup other : String → Option String}

theorem FirstFault.unique {xs : List (Variable × Nat)} {f g : Fault}
    (hf : FirstFault lookup xs f) (hg : FirstFault lookup xs g) : f = g := by
  induction hf with
  | here hv hnone =>
    cases hg with
    | here hv' _ =>
      rw [hv] at hv'
      cases hv'
      rfl
    | later hsound _ => exact absurd ⟨_, hv, hnone⟩ hsound
  | later hsound _ ih =>
    cases hg with
    | here hv hnone => exact absurd ⟨_, hv, hnone⟩ hsound
    | later _ hg => exact ih hg

theorem FirstFault.not_determines {f : Fault} (hf : FirstFault lookup Variable.numbers f)
    {s : Settings} (hs : ∀ x : Variable, x.Determines (x.value? lookup) (x.field s)) : False := by
  obtain ⟨x, hx, hfault⟩ := hf.exists_isFaulty
  exact hfault.not_determines hx _ (hs x.1)

/-- **The fault is that of the first number that is none.** -/
theorem ofLookup_eq_error_iff {f : Fault} :
    ofLookup lookup = .error f ↔ FirstFault lookup Variable.numbers f := by
  have hcomes := comesTo_ofLookup lookup
  constructor
  · intro h
    rw [h] at hcomes
    cases hcomes with
    | fault hf => exact hf
  · intro hf
    cases h : ofLookup lookup with
    | error g =>
      rw [h] at hcomes
      cases hcomes with
      | fault hg => rw [hf.unique hg]
    | ok s =>
      rw [h] at hcomes
      cases hcomes with
      | settings hs => exact (hf.not_determines hs).elim

/-- **The settings are those whose fields are all read off their variables.** -/
theorem ofLookup_eq_ok_iff {s : Settings} :
    ofLookup lookup = .ok s ↔ ∀ x : Variable, x.Determines (x.value? lookup) (x.field s) := by
  have hcomes := comesTo_ofLookup lookup
  constructor
  · intro h
    rw [h] at hcomes
    cases hcomes with
    | settings hs => exact hs
  · intro hs
    cases h : ofLookup lookup with
    | error f =>
      rw [h] at hcomes
      cases hcomes with
      | fault hf => exact (hf.not_determines hs).elim
    | ok t =>
      rw [h] at hcomes
      cases hcomes with
      | settings ht => rw [ext_field fun x => (hs x).unique (ht x)]

theorem FirstFault.lookup_eq {xs : List (Variable × Nat)} {f : Fault}
    (hf : FirstFault lookup xs f) : lookup f.key = some f.value := by
  induction hf with
  | here hv _ => exact (Variable.value?_eq_some_iff.mp hv).1
  | later _ _ ih => exact ih

/-- A fault does not depend on variables that hold no number. -/
theorem FirstFault.congr {xs : List (Variable × Nat)} {f : Fault} (hf : FirstFault lookup xs f)
    (h : ∀ x ∈ xs, x.1.value? lookup = x.1.value? other) : FirstFault other xs f := by
  induction hf with
  | here hv hnone =>
    have hx := h _ List.mem_cons_self
    exact .here (hx.symm.trans hv) hnone
  | later hsound _ ih =>
    rw [List.forall_mem_cons] at h
    refine .later ?_ (ih h.2)
    rintro ⟨v, hv, hnone⟩
    exact hsound ⟨v, h.1.trans hv, hnone⟩

end

/-- What an environment comes to, and what of it counts. -/
structure Reads (lookup : String → Option String) : Prop where
  /-- It is at fault if and only if some variable holds a number that does not fit, or none. -/
  fails_iff : (∃ f, ofLookup lookup = .error f) ↔
    ∃ x ∈ Variable.numbers, Variable.IsFaulty lookup x
  /-- The fault is that of the first such variable. -/
  error_iff : ∀ f, ofLookup lookup = .error f ↔ FirstFault lookup Variable.numbers f
  /-- It names the variable and quotes its value as it is. -/
  told : ∀ f, ofLookup lookup = .error f → lookup f.key = some f.value ∧
    f.message = "invalid value for " ++ f.key ++ ": " ++ Text.quoted f.value
  /-- Without a fault every field is what its variable says. -/
  ok_iff : ∀ s, ofLookup lookup = .ok s ↔
    ∀ x : Variable, x.Determines (x.value? lookup) (x.field s)
  /-- In particular numbers are taken as they are. -/
  timeout : ∀ s v, ofLookup lookup = .ok s → Variable.providerTimeout.value? lookup = some v →
    ∃ n < 2 ^ 64, IsNumeral v n ∧ s.providerTimeout.nanoseconds = n * 1000000000
  port : ∀ s v, ofLookup lookup = .ok s → Variable.port.value? lookup = some v →
    ∃ n < 2 ^ 16, IsNumeral v n ∧ s.port = n
  pacing : ∀ s v, ofLookup lookup = .ok s → Variable.pacing.value? lookup = some v →
    ∃ n < 2 ^ 64, IsNumeral v n ∧ s.pacing.nanoseconds = n * 1000000
  /-- And a variable that is unset or blank leaves its default in place. -/
  default : ∀ s, ofLookup lookup = .ok s →
    ∀ x : Variable, (∀ v ∈ lookup x.name, Text.isAllBlank v = true) → x.field s = x.field standard
  /-- Nothing else counts than these variables, and no blank one counts. -/
  congr : ∀ other, (∀ x : Variable, Alike (lookup x.name) (other x.name)) →
    ofLookup lookup = ofLookup other
  /-- A variable counts for no field but its own. -/
  own : ∀ other (x : Variable), (∀ y ≠ x, Alike (lookup y.name) (other y.name)) →
    ∀ s t, ofLookup lookup = .ok s → ofLookup other = .ok t → ∀ y ≠ x, y.field s = y.field t
  /-- And one that holds no number does not count for faults either. -/
  sound : ∀ other, ∀ x ∉ Variable.numbers.map Prod.fst,
    (∀ y ≠ x, Alike (lookup y.name) (other y.name)) →
      ∀ f, ofLookup lookup = .error f ↔ ofLookup other = .error f

/-- Environments that count alike come to the same. -/
theorem ofLookup_congr {lookup other : String → Option String}
    (h : ∀ x : Variable, Alike (lookup x.name) (other x.name)) :
    ofLookup lookup = ofLookup other := by
  have hvalue : ∀ x : Variable, x.value? lookup = x.value? other :=
    fun x => Variable.value?_congr (h x)
  rw [ofLookup_eq, ofLookup_eq]
  simp only [hvalue]

/-- **What an environment comes to, and what of it counts.** -/
theorem ofLookup_reads (lookup : String → Option String) : Reads lookup where
  fails_iff := by
    constructor
    · rintro ⟨f, hf⟩
      exact (ofLookup_eq_error_iff.mp hf).exists_isFaulty
    · rintro ⟨x, hx, hfault⟩
      cases h : ofLookup lookup with
      | error f => exact ⟨f, rfl⟩
      | ok s => exact absurd (ofLookup_eq_ok_iff.mp h x.1) (hfault.not_determines hx _)
  error_iff _ := ofLookup_eq_error_iff
  told f hf := ⟨(ofLookup_eq_error_iff.mp hf).lookup_eq, rfl⟩
  ok_iff _ := ofLookup_eq_ok_iff
  timeout := by
    intro s v hs hv
    have hfield := ofLookup_eq_ok_iff.mp hs .providerTimeout
    rw [hv] at hfield
    obtain ⟨n, hlt, hn, hfield⟩ := hfield
    exact ⟨n, hlt, hn, congrArg Duration.nanoseconds hfield⟩
  port := by
    intro s v hs hv
    have hfield := ofLookup_eq_ok_iff.mp hs .port
    rw [hv] at hfield
    exact hfield
  pacing := by
    intro s v hs hv
    have hfield := ofLookup_eq_ok_iff.mp hs .pacing
    rw [hv] at hfield
    obtain ⟨n, hlt, hn, hfield⟩ := hfield
    exact ⟨n, hlt, hn, congrArg Duration.nanoseconds hfield⟩
  default := by
    intro s hs x hx
    have hfield := ofLookup_eq_ok_iff.mp hs x
    rw [Variable.value?_eq_none_iff.mpr hx] at hfield
    exact hfield
  congr _ := ofLookup_congr
  own := by
    intro other x h s t hs ht y hy
    have hfield := ofLookup_eq_ok_iff.mp hs y
    rw [Variable.value?_congr (h y hy)] at hfield
    exact hfield.unique (ofLookup_eq_ok_iff.mp ht y)
  sound := by
    intro other x hx h f
    have hvalue : ∀ y ∈ Variable.numbers, y.1.value? lookup = y.1.value? other := by
      intro y hy
      refine Variable.value?_congr (h y.1 ?_)
      rintro rfl
      exact hx (List.mem_map_of_mem hy)
    rw [ofLookup_eq_error_iff, ofLookup_eq_error_iff]
    exact ⟨fun hf => hf.congr hvalue, fun hf => hf.congr fun y hy => (hvalue y hy).symm⟩

/-- Blanks, a plus sign and leading zeros do not matter, and a port that is too great is found before
a pause that is no number. -/
example :
    (ofLookup fun key => if key = "PORT" then some " +08080\n" else none).toOption =
      some { standard with port := 8080 } ∧
    ofLookup (fun key => if key = "PORT" then some "65536 " else
      if key = "PACING_DELAY_MS" then some "١" else none) = .error ⟨"PORT", "65536 "⟩ := by
  decide +kernel

end ArchDiagram.Settings
