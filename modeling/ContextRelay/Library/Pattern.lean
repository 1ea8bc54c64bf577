import Mathlib

/-! Anchored patterns of alternatives, each of them ranges of characters that are read a bounded
number of times. A pattern whose alternatives spell adjacent ranges of decimal numbers, in order,
matches the numbers of their union. -/
namespace ContextRelay.Library

/-- A range of characters, read some number of times. -/
structure CharRun where
  first : Char
  last : Char
  least : Nat
  most : Nat

/-- The run as a pattern writes it. -/
def CharRun.render (run : CharRun) : List Char :=
  (if run.first = run.last then [run.first] else ['[', run.first, '-', run.last, ']']) ++
  if run.least = run.most then
    if run.least = 1 then [] else '\x7b' :: Nat.toDigits 10 run.least ++ ['\x7d']
  else '\x7b' :: Nat.toDigits 10 run.least ++ ',' :: Nat.toDigits 10 run.most ++ ['\x7d']

/-- The alternatives between the two anchors. -/
structure Pattern where
  alternatives : List (List CharRun)

def Pattern.render (pattern : Pattern) : String :=
  String.ofList ("^(?:".toList ++ List.intercalate ['|'] (pattern.alternatives.map fun runs =>
    runs.flatMap CharRun.render) ++ ")$".toList)

/-- The ranges of the single characters, for each number of times that a run may be read. -/
def expansions : List CharRun → List (List (Char × Char))
  | [] => [[]]
  | run :: runs => (List.range' run.least (run.most + 1 - run.least)).flatMap fun count =>
    (expansions runs).map (List.replicate count (run.first, run.last) ++ ·)

def matchesEach : List (Char × Char) → List Char → Bool
  | [], [] => true
  | range :: ranges, c :: text =>
    decide (range.1 ≤ c) && decide (c ≤ range.2) && matchesEach ranges text
  | [], _ :: _ => false
  | _ :: _, [] => false

def Pattern.isMatch (pattern : Pattern) (text : String) : Bool :=
  (pattern.alternatives.flatMap expansions).any fun ranges => matchesEach ranges text.toList

/-! ## Decimal numbers -/

/-- The digits at the two ends of a range. -/
def digitRange (range : Char × Char) : Option (Nat × Nat) :=
  if '0' ≤ range.1 ∧ range.1 ≤ range.2 ∧ range.2 ≤ '9' then
    some (range.1.toNat - 48, range.2.toNat - 48)
  else none

/-- The numbers with a digit more: any digit, or some digits after one number. -/
def extendRange (bounds : Nat × Nat) (range : Char × Char) : Option (Nat × Nat) := do
  let (first, last) ← digitRange range
  if bounds.1 = 0 then none
  else if first = 0 ∧ last = 9 then some (10 * bounds.1, 10 * bounds.2)
  else if bounds.2 = bounds.1 + 1 then some (10 * bounds.1 + first, 10 * bounds.1 + last + 1)
  else none

/-- The numbers that the ranges spell: from the first to before the second. -/
def numberRange : List (Char × Char) → Option (Nat × Nat)
  | [] => none
  | range :: ranges => do
    let (first, last) ← digitRange range
    ranges.foldlM extendRange (first, last + 1)

/-- The end of the numbers that the ranges spell, when they begin where the others ended. -/
def follow (low : Nat) (ranges : List (Char × Char)) : Option Nat := do
  let (first, past) ← numberRange ranges
  if first = low ∧ first ≤ past then some past else none

/-- The ranges match the decimal numbers within the bounds, and nothing else. -/
def Spells (ranges : List (Char × Char)) (bounds : Nat × Nat) : Prop :=
  ∀ text, matchesEach ranges text = true ↔
    ∃ number, (bounds.1 ≤ number ∧ number < bounds.2) ∧ text = Nat.toDigits 10 number

section

variable {range : Char × Char} {ranges : List (Char × Char)}

theorem digitRange_eq_some (found : digitRange range = some digits) : digits.1 ≤ digits.2 ∧ digits.2 ≤ 9 ∧
      ∀ c, (range.1 ≤ c ∧ c ≤ range.2) ↔
        ∃ digit, (digits.1 ≤ digit ∧ digit ≤ digits.2) ∧ c = digit.digitChar := by
  have code : ∀ digit ≤ 9, digit.digitChar.toNat = 48 + digit := by decide
  have le_iff : ∀ c d : Char, c ≤ d ↔ c.toNat ≤ d.toNat := fun _ _ => Iff.rfl
  simp only [digitRange, le_iff, Option.ite_none_right_eq_some, Option.some.injEq] at found
  obtain ⟨⟨low, between, high⟩, rfl⟩ := found
  have zero : '0'.toNat = 48 := rfl
  have nine : '9'.toNat = 57 := rfl
  refine ⟨by dsimp only; omega, by dsimp only; omega, fun c => ?_⟩
  simp only [le_iff]
  constructor
  · intro bounds
    refine ⟨c.toNat - 48, by omega, ?_⟩
    rw [← Char.toNat_inj, code _ (by omega)]
    omega
  · rintro ⟨digit, bounds, rfl⟩
    rw [code digit (by omega)]
    omega

theorem matchesEach_concat :
    matchesEach (ranges ++ [range]) text = true ↔
      ∃ front c, text = front ++ [c] ∧ matchesEach ranges front = true ∧
        range.1 ≤ c ∧ c ≤ range.2 := by
  induction ranges generalizing text with
  | nil =>
    cases text with
    | nil => simp [matchesEach]
    | cons c text =>
      cases text <;> simp [matchesEach, List.cons_eq_append_iff]
  | cons head ranges ih =>
    cases text with
    | nil => simp [matchesEach]
    | cons c text =>
      simp only [List.cons_append, matchesEach, Bool.and_eq_true, ih, List.cons_eq_append_iff]
      constructor
      · rintro ⟨own, front, last, rfl, rest, within⟩
        exact ⟨c :: front, last, .inr ⟨front, rfl, rfl⟩, by simp [matchesEach, own, rest], within⟩
      · rintro ⟨_, last, ⟨rfl, _⟩ | ⟨front, rfl, rfl⟩, rest, within⟩
        · simp [matchesEach] at rest
        · simp only [matchesEach, Bool.and_eq_true] at rest
          exact ⟨rest.1, front, last, rfl, rest.2, within⟩

/-- A digit more makes the number ten times as large. -/
theorem toDigits_concat (positive : 0 < number) (small : digit < 10) :
    Nat.toDigits 10 (10 * number + digit) = Nat.toDigits 10 number ++ [digit.digitChar] := by
  rw [← Nat.toDigits_of_lt_base small]
  exact (Nat.toDigits_append_toDigits (by decide) positive small).symm

theorem Spells.extend (spells : Spells ranges bounds)
    (extended : extendRange bounds range = some wider) : Spells (ranges ++ [range]) wider := by
  simp only [extendRange, Option.bind_eq_bind, Option.bind_eq_some_iff] at extended
  obtain ⟨digits, found, extended⟩ := extended
  obtain ⟨_, small, within⟩ := digitRange_eq_some found
  rw [Option.ite_none_left_eq_some] at extended
  obtain ⟨positive, extended⟩ := extended
  -- The numbers of the longer ranges, one digit at a time.
  have parts : ∀ number, (wider.1 ≤ number ∧ number < wider.2) ↔
      (bounds.1 ≤ number / 10 ∧ number / 10 < bounds.2) ∧
        digits.1 ≤ number % 10 ∧ number % 10 ≤ digits.2 := by
    intro number
    split_ifs at extended with full single <;> obtain rfl := Option.some.inj extended <;>
      dsimp only <;> omega
  intro text
  rw [matchesEach_concat]
  simp only [spells _, within]
  constructor
  · rintro ⟨_, _, rfl, ⟨number, inside, rfl⟩, digit, between, rfl⟩
    refine ⟨10 * number + digit, (parts _).mpr ?_, (toDigits_concat (by omega) (by omega)).symm⟩
    omega
  · rintro ⟨number, inside, rfl⟩
    obtain ⟨front, last⟩ := (parts number).mp inside
    refine ⟨_, _, ?_, ⟨number / 10, front, rfl⟩, number % 10, last, rfl⟩
    rw [← toDigits_concat (by omega) (by omega), Nat.div_add_mod]

theorem spells_numberRange (found : numberRange ranges = some bounds) : Spells ranges bounds := by
  -- What was read so far grows by one range at each step of the fold.
  have run : ∀ more front start, Spells front start → more.foldlM extendRange start = some bounds →
      Spells (front ++ more) bounds := by
    intro more
    induction more with
    | nil =>
      intro front start spells same
      obtain rfl := Option.some.inj same
      rwa [List.append_nil]
    | cons range more ih =>
      intro front start spells folded
      simp only [List.foldlM_cons, Option.bind_eq_bind, Option.bind_eq_some_iff] at folded
      obtain ⟨next, extended, rest⟩ := folded
      rw [List.append_cons]
      exact ih _ _ (spells.extend extended) rest
  cases ranges with
  | nil => cases found
  | cons range ranges =>
    simp only [numberRange, Option.bind_eq_bind, Option.bind_eq_some_iff] at found
    obtain ⟨digits, first, folded⟩ := found
    obtain ⟨_, small, within⟩ := digitRange_eq_some first
    refine run ranges [range] _ (fun text => ?_) folded
    rw [← List.nil_append [range], matchesEach_concat]
    simp only [within]
    constructor
    · rintro ⟨front, _, rfl, empty, digit, between, rfl⟩
      cases front with
      | nil => exact ⟨digit, by omega, (Nat.toDigits_of_lt_base (by omega)).symm⟩
      | cons => cases empty
    · rintro ⟨digit, between, rfl⟩
      exact ⟨[], _, Nat.toDigits_of_lt_base (by omega), rfl, digit, by omega, rfl⟩

end

/-- Alternatives that follow each other match the numbers of their union. -/
theorem isMatch_iff {pattern : Pattern}
    (followed : (pattern.alternatives.flatMap expansions).foldlM follow 0 = some high)
    (text : String) : pattern.isMatch text = true ↔ ∃ number < high, text = toString number := by
  have run : ∀ (each : List (List (Char × Char))) (low : Nat), each.foldlM follow low = some high →
      low ≤ high ∧ ((∃ ranges ∈ each, matchesEach ranges text.toList = true) ↔
        ∃ number, (low ≤ number ∧ number < high) ∧ text.toList = Nat.toDigits 10 number) := by
    intro each
    induction each with
    | nil =>
      intro low same
      obtain rfl := Option.some.inj same
      simp
    | cons ranges each ih =>
      intro low folded
      simp only [List.foldlM_cons, follow, Option.bind_eq_bind, Option.bind_eq_some_iff,
        Option.ite_none_right_eq_some, Option.some.injEq] at folded
      obtain ⟨_, ⟨bounds, found, ⟨rfl, grows⟩, rfl⟩, rest⟩ := folded
      obtain ⟨below, others⟩ := ih _ rest
      refine ⟨le_trans grows below, ?_⟩
      rw [List.exists_mem_cons_iff, spells_numberRange found, others, ← exists_or]
      refine exists_congr fun number => ?_
      rw [← or_and_right]
      refine and_congr_left fun _ => ?_
      omega
  rw [Pattern.isMatch, List.any_eq_true, (run _ _ followed).2]
  refine exists_congr fun number => and_congr (by omega) ?_
  rw [Nat.toString_eq_ofList_toDigits, ← String.toList_inj, String.toList_ofList]

end ContextRelay.Library
