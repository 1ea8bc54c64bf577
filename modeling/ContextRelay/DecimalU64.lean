import ContextRelay.Library.Outcome
import ContextRelay.Library.Pattern

/-! Unsigned numbers of 64 bits as decimal text. The schema describes the text by a pattern, the
reader parses a number and compares it with the text; both admit the canonical text of every number
and no other text. -/
namespace ContextRelay

open Library

/-! ## The pattern -/

/-- One character of the pattern that stands for itself, for each of the text. -/
def literally (text : String) : List CharRun := text.toList.map fun c => ⟨c, c, 1, 1⟩

/-- Any digit, so many times. -/
def anyDigit (count : Nat) : List CharRun := [⟨'0', '9', count, count⟩]

/-- A digit that is not above the last one. -/
def digitTo (last : Char) : List CharRun := [⟨'0', last, 1, 1⟩]

def decimalU64SchemaPattern : Pattern where
  alternatives := [
    literally "0",
    [⟨'1', '9', 1, 1⟩, ⟨'0', '9', 0, 18⟩],
    literally "1" ++ digitTo '7' ++ anyDigit 18,
    literally "18" ++ digitTo '3' ++ anyDigit 17,
    literally "184" ++ digitTo '3' ++ anyDigit 16,
    literally "1844" ++ digitTo '5' ++ anyDigit 15,
    literally "18446" ++ digitTo '6' ++ anyDigit 14,
    literally "184467" ++ digitTo '3' ++ anyDigit 13,
    literally "1844674" ++ digitTo '3' ++ anyDigit 12,
    literally "184467440" ++ digitTo '6' ++ anyDigit 10,
    literally "1844674407" ++ digitTo '2' ++ anyDigit 9,
    literally "18446744073" ++ digitTo '6' ++ anyDigit 8,
    literally "1844674407370" ++ digitTo '8' ++ anyDigit 6,
    literally "18446744073709" ++ digitTo '4' ++ anyDigit 5,
    literally "184467440737095" ++ digitTo '4' ++ anyDigit 4,
    literally "18446744073709550" ++ anyDigit 3,
    literally "18446744073709551" ++ digitTo '5' ++ anyDigit 2,
    literally "1844674407370955160" ++ anyDigit 1,
    literally "1844674407370955161" ++ digitTo '5']

/-- The text of the schema's pattern. -/
theorem decimalU64SchemaPattern_render : decimalU64SchemaPattern.render =
    String.ofList ("^(?:".toList ++ List.intercalate ['|'] (["0", "[1-9][0-9]\x7b0,18\x7d",
      "1[0-7][0-9]\x7b18\x7d", "18[0-3][0-9]\x7b17\x7d", "184[0-3][0-9]\x7b16\x7d",
      "1844[0-5][0-9]\x7b15\x7d", "18446[0-6][0-9]\x7b14\x7d", "184467[0-3][0-9]\x7b13\x7d",
      "1844674[0-3][0-9]\x7b12\x7d", "184467440[0-6][0-9]\x7b10\x7d",
      "1844674407[0-2][0-9]\x7b9\x7d", "18446744073[0-6][0-9]\x7b8\x7d",
      "1844674407370[0-8][0-9]\x7b6\x7d", "18446744073709[0-4][0-9]\x7b5\x7d",
      "184467440737095[0-4][0-9]\x7b4\x7d", "18446744073709550[0-9]\x7b3\x7d",
      "18446744073709551[0-5][0-9]\x7b2\x7d", "1844674407370955160[0-9]",
      "1844674407370955161[0-5]"].map String.toList) ++ ")$".toList) := by
  refine congrArg (fun texts => String.ofList
    ("^(?:".toList ++ List.intercalate ['|'] texts ++ ")$".toList)) ?_
  decide +kernel

theorem alternatives_follow :
    (decimalU64SchemaPattern.alternatives.flatMap expansions).foldlM follow 0 = some (2 ^ 64) := by
  decide +kernel

/-! ## The reader -/

inductive ParseIntError where
  | empty
  | invalidDigit
  | posOverflow
deriving DecidableEq

def ParseIntError.text : ParseIntError → String
  | .empty => "cannot parse integer from empty string"
  | .invalidDigit => "invalid digit found in string"
  | .posOverflow => "number too large to fit in target type"

def parseDigits : Nat → List Char → Except ParseIntError Nat
  | value, [] => pure value
  | value, c :: text => do
    require ('0' ≤ c ∧ c ≤ '9') .invalidDigit
    require (value * 10 + (c.toNat - 48) < 2 ^ 64) .posOverflow
    parseDigits (value * 10 + (c.toNat - 48)) text

/-- The parser of the standard library, which also takes a plus sign and leading zeros. -/
def parseU64 (text : List Char) : Except ParseIntError Nat :=
  if text = [] then .error .empty
  else if text = ['+'] ∨ text = ['-'] then .error .invalidDigit
  else parseDigits 0 (if text.head? = some '+' then text.tail else text)

namespace decimalU64

def serialize (value : Nat) : String := toString value

def deserialize (text : String) : Except String Nat := do
  let value ← renameFailure (parseU64 text.toList) ParseIntError.text
  require (serialize value = text) "noncanonical decimal u64"
  pure value

end decimalU64

theorem parseDigits_concat (parsed : parseDigits value text = .ok front) :
    parseDigits value (text ++ [c]) = parseDigits front [c] := by
  induction text generalizing value with
  | nil =>
    obtain rfl := Except.ok.inj parsed
    rfl
  | cons d text ih =>
    simp only [parseDigits, bind_eq_ok, exists_unit, require_eq_ok] at parsed
    obtain ⟨digit, fits, rest⟩ := parsed
    rw [List.cons_append, parseDigits, require_pos digit, require_pos fits, ok_bind, ok_bind, ih rest]

theorem parseDigits_bounded (small : value < 2 ^ 64)
    (parsed : parseDigits value text = .ok result) : result < 2 ^ 64 := by
  induction text generalizing value with
  | nil =>
    obtain rfl := Except.ok.inj parsed
    exact small
  | cons c text ih =>
    simp only [parseDigits, bind_eq_ok, exists_unit, require_eq_ok] at parsed
    obtain ⟨_, fits, rest⟩ := parsed
    exact ih fits rest

/-- The canonical text of a number parses to it. -/
theorem parseDigits_toDigits (small : number < 2 ^ 64) :
    parseDigits 0 (Nat.toDigits 10 number) = .ok number := by
  have digit : ∀ front d, d < 10 → front * 10 + d < 2 ^ 64 →
      parseDigits front [d.digitChar] = .ok (front * 10 + d) := by
    intro front d single fits
    have code : ∀ e < 10, ('0' ≤ e.digitChar ∧ e.digitChar ≤ '9') ∧ e.digitChar.toNat - 48 = e := by
      decide
    obtain ⟨within, value⟩ := code d single
    rw [parseDigits, require_pos within, ok_bind, value, require_pos fits, ok_bind]
    rfl
  induction number using Nat.strong_induction_on with
  | _ number ih =>
    by_cases single : number < 10
    · rw [Nat.toDigits_of_lt_base single, digit 0 number single (by omega), Nat.zero_mul, Nat.zero_add]
    · rw [Nat.toDigits_of_base_le (by decide) (by omega),
        parseDigits_concat (ih (number / 10) (by omega) (by omega)),
        digit _ _ (by omega) (by omega), Nat.div_add_mod']

theorem parseU64_toDigits (small : number < 2 ^ 64) :
    parseU64 (Nat.toDigits 10 number) = .ok number := by
  have parsed := parseDigits_toDigits small
  cases spelled : Nat.toDigits 10 number with
  | nil => exact absurd spelled Nat.toDigits_ne_nil
  | cons c rest =>
    have isDigit : c.isDigit = true :=
      Nat.isDigit_of_mem_toDigits (by decide) (by decide) (spelled ▸ List.mem_cons_self)
    have unsigned : c ≠ '+' ∧ c ≠ '-' := by
      constructor <;> rintro rfl <;> exact absurd isDigit (by decide)
    rw [spelled] at parsed
    simp [parseU64, unsigned, parsed]

theorem deserialize_eq_ok :
    decimalU64.deserialize text = .ok number ↔ number < 2 ^ 64 ∧ text = toString number := by
  simp only [decimalU64.deserialize, bind_eq_ok, exists_unit, require_eq_ok, renameFailure_eq_ok,
    pure_eq_ok, Except.ok.injEq]
  constructor
  · rintro ⟨value, parsed, canonical, rfl⟩
    rw [parseU64] at parsed
    split_ifs at parsed <;> exact ⟨parseDigits_bounded (by decide) parsed, canonical.symm⟩
  · rintro ⟨small, rfl⟩
    refine ⟨number, ?_, rfl, rfl⟩
    rw [Nat.toString_eq_ofList_toDigits, String.toList_ofList, parseU64_toDigits small]

/-- The pattern of the schema matches the text that the reader accepts, and both take the canonical
text of every number below 2^64 and nothing else. -/
theorem decimal_u64_agreement (text : String) :
    (decimalU64SchemaPattern.isMatch text = true ↔
      ∃ number, decimalU64.deserialize text = .ok number) ∧
    (decimalU64SchemaPattern.isMatch text = true ↔ ∃ number < 2 ^ 64, text = toString number) ∧
    ∀ number, decimalU64.deserialize text = .ok number ↔
      number < 2 ^ 64 ∧ text = toString number := by
  have matched := isMatch_iff alternatives_follow text
  refine ⟨?_, matched, fun _ => deserialize_eq_ok⟩
  simp only [matched, deserialize_eq_ok]

end ContextRelay
