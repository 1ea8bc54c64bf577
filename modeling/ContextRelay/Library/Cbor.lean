import ContextRelay.Library.Wire

/-! The data items of a canonical CBOR message: unsigned integers, byte and text strings,
null, and the heads of arrays and maps. The writers use the preferred form, with definite
lengths and the shortest argument. The readers are those of a lenient decoder: they take
every width of an argument, so a message must be written again to see that it was in the
preferred form. -/
namespace ContextRelay.Library.Cbor

inductive Major where
  | unsigned | bytes | text | array | map
deriving DecidableEq

def Major.code : Major → Nat
  | .unsigned => 0
  | .bytes => 2
  | .text => 3
  | .array => 4
  | .map => 5

/-! ## Writers -/

def lead (major : Major) (additional : Nat) : UInt8 := UInt8.ofNat (major.code * 32 + additional)

/-- The head of an item, with the shortest argument. -/
@[irreducible] def head (major : Major) (argument : Nat) : List UInt8 :=
  if argument < 24 then [lead major argument]
  else if argument < 2 ^ 8 then lead major 24 :: bigEndian 1 argument
  else if argument < 2 ^ 16 then lead major 25 :: bigEndian 2 argument
  else if argument < 2 ^ 32 then lead major 26 :: bigEndian 4 argument
  else lead major 27 :: bigEndian 8 argument

def unsigned (value : Nat) : List UInt8 := head .unsigned value

def byteString (bytes : List UInt8) : List UInt8 := head .bytes bytes.length ++ bytes

def utf8 (value : String) : List UInt8 := value.toUTF8.data.toList

def text (value : String) : List UInt8 := head .text (utf8 value).length ++ utf8 value

def null : List UInt8 := [0xf6]

/-! ## Readers -/

section
variable {ε : Type} (failure : ε)

/-- How many bytes the argument takes after the lead byte. -/
def argumentWidth (additional : Nat) : Option Nat :=
  match additional with
  | 24 => some 1
  | 25 => some 2
  | 26 => some 4
  | 27 => some 8
  | _ => none

/-- The head of an item of some major type: its argument, or none for an indefinite length. -/
def readHead (major : Major) : Reader ε (Option Nat) := do
  let first ← Reader.byte failure
  Reader.lift (require (first.toNat / 32 = major.code) failure)
  let additional := first.toNat % 32
  if additional < 24 then pure (some additional)
  else if additional = 31 ∧ major ≠ .unsigned then pure none
  else do
    let width ← Reader.lift (present (argumentWidth additional) failure)
    let argument ← Reader.take width failure
    pure (some (fromBigEndian argument))

/-- An unsigned integer below a bound. -/
def readUnsigned (bound : Nat) : Reader ε Nat := do
  let argument ← readHead failure .unsigned
  let value ← Reader.lift (present argument failure)
  Reader.lift (require (value < bound) failure)
  pure value

/-- The contents of a definite-length string. -/
def readString (major : Major) : Reader ε (List UInt8) := do
  let argument ← readHead failure major
  let length ← Reader.lift (present argument failure)
  Reader.take length failure

def readText : Reader ε String := do
  let bytes ← readString failure .text
  Reader.lift (present (String.fromUTF8? ⟨bytes.toArray⟩) failure)

/-- Is the next item null? -/
def atNull : Reader ε Bool
  | [] => .error failure
  | byte :: rest => .ok (byte == 0xf6, byte :: rest)

end

/-! ## What the readers make of what the writers wrote -/

section
variable {ε : Type} {failure : ε}

theorem lead_toNat (major : Major) (small : additional < 32) :
    (lead major additional).toNat = major.code * 32 + additional := by
  have code : major.code ≤ 5 := by cases major <;> decide
  rw [lead, UInt8.toNat_ofNat']
  omega

theorem lead_major (major : Major) (small : additional < 32) :
    (lead major additional).toNat / 32 = major.code := by
  rw [lead_toNat major small]
  omega

theorem lead_additional (major : Major) (small : additional < 32) :
    (lead major additional).toNat % 32 = additional := by
  rw [lead_toNat major small]
  omega

/-- The forms with an argument behind the lead byte: the additional information, the width and
the least argument that needs it. -/
inductive LongForm : Nat → Nat → Nat → Prop where
  | one : LongForm 24 1 24
  | two : LongForm 25 2 (2 ^ 8)
  | four : LongForm 26 4 (2 ^ 16)
  | eight : LongForm 27 8 (2 ^ 32)

theorem LongForm.bounds (form : LongForm additional width least) :
    24 ≤ additional ∧ additional < 28 ∧ 24 ≤ least ∧ 256 ^ width ≤ 2 ^ 64 := by
  cases form <;> decide

theorem LongForm.argumentWidth (form : LongForm additional width least) :
    argumentWidth additional = some width := by
  cases form <;> rfl

section

variable {argument : Nat} {bytes : List UInt8}

theorem LongForm.head (form : LongForm additional width least) (major : Major)
    (enough : least ≤ argument) (fits : argument < 256 ^ width) :
    head major argument = lead major additional :: bigEndian width argument := by
  unfold Cbor.head
  cases form with
  | one => rw [if_neg (by omega), if_pos (by omega)]
  | two => rw [if_neg (by omega), if_neg (by omega), if_pos (by omega)]
  | four => rw [if_neg (by omega), if_neg (by omega), if_neg (by omega), if_pos (by omega)]
  | eight => rw [if_neg (by omega), if_neg (by omega), if_neg (by omega), if_neg (by omega)]

theorem head_inline (major : Major) (inline : argument < 24) :
    head major argument = [lead major argument] := by
  unfold head
  exact if_pos inline

/-- An argument stands in the lead byte or has a long form. -/
theorem argument_cases (fits : argument < 2 ^ 64) :
    argument < 24 ∨ ∃ additional width least, LongForm additional width least ∧
      least ≤ argument ∧ argument < 256 ^ width := by
  by_cases inline : argument < 24
  · exact .inl inline
  right
  by_cases one : argument < 2 ^ 8
  · exact ⟨24, 1, _, .one, by omega, by omega⟩
  by_cases two : argument < 2 ^ 16
  · exact ⟨25, 2, _, .two, by omega, by omega⟩
  by_cases four : argument < 2 ^ 32
  · exact ⟨26, 4, _, .four, by omega, by omega⟩
  · exact ⟨27, 8, _, .eight, by omega, by omega⟩

theorem length_head_inline (major : Major) (inline : argument < 24) :
    (head major argument).length = 1 := by
  rw [head_inline major inline, List.length_singleton]

theorem length_head_short (major : Major) (least : 24 ≤ argument) (most : argument < 2 ^ 8) : (head major argument).length = 2 := by
  rw [LongForm.one.head major least (by omega), List.length_cons, length_bigEndian]

theorem length_head_mono (major : Major) (le : argument ≤ larger) :
    (head major argument).length ≤ (head major larger).length := by
  simp only [head, apply_ite List.length, List.length_cons, List.length_nil, length_bigEndian]
  split_ifs <;> omega

/-- A head with an argument of at most four bytes takes at most five. -/
theorem length_head_le (major : Major) (small : argument < 2 ^ 32) :
    (head major argument).length ≤ 5 := by
  unfold head
  split
  · simp
  split
  · simp [length_bigEndian]
  split
  · simp [length_bigEndian]
  · rw [List.length_cons, length_bigEndian]

theorem readHead_head (major : Major) (fits : argument < 2 ^ 64) (rest : List UInt8) :
    readHead failure major (head major argument ++ rest) = .ok (some argument, rest) := by
  rcases argument_cases fits with inline | ⟨additional, width, least, form, enough, small⟩
  · have code := lead_major major (show argument < 32 by omega)
    have left := lead_additional major (show argument < 32 by omega)
    simp [readHead, head_inline major inline, Reader.bind_apply, Reader.byte, code, left,
      Reader.lift, inline, require, Reader.pure_apply]
  · obtain ⟨low, high, _⟩ := form.bounds
    have code := lead_major major (show additional < 32 by omega)
    have left := lead_additional major (show additional < 32 by omega)
    have notInline : ¬ additional < 24 := by omega
    have definite : ¬ (additional = 31 ∧ major ≠ .unsigned) := by omega
    simp only [readHead, form.head major enough small, Reader.bind_apply, Reader.byte, code, left,
      Reader.lift, List.cons_append, ok_bind, require, if_true, if_neg notInline, if_neg definite,
      form.argumentWidth, present]
    rw [Reader.take_append (length_bigEndian _ _), ok_bind, Reader.pure_apply,
      fromBigEndian_bigEndian small]

theorem read_head (fits : argument < 2 ^ 64 := by decide) :
    (readHead failure major >>= next) (head major argument ++ rest) = next (some argument) rest :=
  Reader.bind_ok (readHead_head major fits rest)

theorem readUnsigned_unsigned (small : value < bound) (fits : value < 2 ^ 64) (rest : List UInt8) :
    readUnsigned failure bound (unsigned value ++ rest) = .ok (value, rest) := by
  simp [readUnsigned, unsigned, Reader.bind_apply, readHead_head .unsigned fits, present,
    Reader.lift,
    require, small, Reader.pure_apply]

theorem readString_head (major : Major) (fits : bytes.length < 2 ^ 64) (rest : List UInt8) :
    readString failure major (head major bytes.length ++ (bytes ++ rest)) = .ok (bytes, rest) := by
  simp [readString, Reader.bind_apply, readHead_head major fits, present, Reader.lift,
    Reader.take_append]

theorem readString_byteString (fits : bytes.length < 2 ^ 64) (rest : List UInt8) :
    readString failure .bytes (byteString bytes ++ rest) = .ok (bytes, rest) := by
  rw [byteString, List.append_assoc, readString_head .bytes fits]

theorem fromUTF8?_utf8 (value : String) :
    String.fromUTF8? ⟨(utf8 value).toArray⟩ = some value := by
  unfold String.fromUTF8?
  exact dif_pos value.isValidUTF8

theorem fromUTF8?_eq_some : String.fromUTF8? ⟨bytes.toArray⟩ = some value ↔ bytes = utf8 value := by
  constructor
  · intro found
    unfold String.fromUTF8? at found
    split at found
    · obtain rfl := Option.some.inj found
      simp [utf8, String.fromUTF8, String.toUTF8]
    · simp at found
  · rintro rfl
    exact fromUTF8?_utf8 value

end

theorem length_utf8 (value : String) : (utf8 value).length = value.utf8ByteSize := rfl

theorem readText_text (fits : value.utf8ByteSize < 2 ^ 64) (rest : List UInt8) :
    readText failure (text value ++ rest) = .ok (value, rest) := by
  rw [← length_utf8] at fits
  rw [text, List.append_assoc]
  simp [readText, Reader.bind_apply, readString_head .text fits, fromUTF8?_utf8, present,
    Reader.lift]

end

end ContextRelay.Library.Cbor
