import ContextRelay.Library.Outcome

/-! Byte strings on the wire: big-endian numbers, values of a fixed width, and readers that
take a value from the front of their input and return what is left. -/
namespace ContextRelay.Library

/-! ## Big-endian numbers -/

/-- The last `width` bytes of a number, the most significant one first. -/
def bigEndian : Nat → Nat → List UInt8
  | 0, _ => []
  | width + 1, value => bigEndian width (value / 256) ++ [UInt8.ofNat value]

def fromBigEndian (bytes : List UInt8) : Nat :=
  bytes.foldl (fun value byte => value * 256 + byte.toNat) 0

@[simp] theorem length_bigEndian (width value : Nat) : (bigEndian width value).length = width := by
  induction width generalizing value with
  | zero => rfl
  | succ width ih => simp [bigEndian, ih]

theorem fromBigEndian_concat (bytes : List UInt8) (byte : UInt8) :
    fromBigEndian (bytes ++ [byte]) = fromBigEndian bytes * 256 + byte.toNat := by
  simp [fromBigEndian]

private theorem fold_from (start : Nat) (bytes : List UInt8) :
    bytes.foldl (fun value byte => value * 256 + byte.toNat) start =
      start * 256 ^ bytes.length + fromBigEndian bytes := by
  induction bytes using List.reverseRecOn with
  | nil => simp [fromBigEndian]
  | append_singleton bytes byte ih =>
    rw [List.foldl_append, ih, fromBigEndian_concat, List.length_append, List.length_singleton,
      Nat.pow_succ, List.foldl_cons, List.foldl_nil, Nat.add_mul, Nat.mul_assoc, Nat.add_assoc]

theorem fromBigEndian_append (front back : List UInt8) :
    fromBigEndian (front ++ back) =
      fromBigEndian front * 256 ^ back.length + fromBigEndian back := by
  rw [fromBigEndian, List.foldl_append, fold_from]
  rfl

theorem fromBigEndian_cons (byte : UInt8) (bytes : List UInt8) :
    fromBigEndian (byte :: bytes) = byte.toNat * 256 ^ bytes.length + fromBigEndian bytes := by
  rw [fromBigEndian, List.foldl_cons, fold_from]
  simp

theorem fromBigEndian_bigEndian (fits : value < 256 ^ width) :
    fromBigEndian (bigEndian width value) = value := by
  induction width generalizing value with
  | zero =>
    have zero : value = 0 := by simpa using fits
    subst zero
    rfl
  | succ width ih =>
    have smaller : value / 256 < 256 ^ width := by
      rw [Nat.div_lt_iff_lt_mul (by decide), ← Nat.pow_succ]
      exact fits
    rw [bigEndian, fromBigEndian_concat, ih smaller, UInt8.toNat_ofNat']
    omega

theorem fromBigEndian_lt (bytes : List UInt8) : fromBigEndian bytes < 256 ^ bytes.length := by
  induction bytes using List.reverseRecOn with
  | nil => decide
  | append_singleton bytes byte ih =>
    have small := byte.toNat_lt
    rw [fromBigEndian_concat, List.length_append, List.length_singleton, Nat.pow_succ]
    omega

theorem bigEndian_fromBigEndian (bytes : List UInt8) :
    bigEndian bytes.length (fromBigEndian bytes) = bytes := by
  induction bytes using List.reverseRecOn with
  | nil => rfl
  | append_singleton bytes byte ih =>
    have small := byte.toNat_lt
    have front : (fromBigEndian bytes * 256 + byte.toNat) / 256 = fromBigEndian bytes := by omega
    have last : UInt8.ofNat (fromBigEndian bytes * 256 + byte.toNat) = byte := by
      apply UInt8.toNat_inj.mp
      rw [UInt8.toNat_ofNat']
      omega
    rw [fromBigEndian_concat, List.length_append, List.length_singleton, bigEndian, front, ih, last]

/-- A byte of a number, by its place. -/
theorem fromBigEndian_byte (inside : place < bytes.length) :
    fromBigEndian bytes / 256 ^ (bytes.length - (place + 1)) % 256 =
      (bytes.getD place 0).toNat := by
  have parts : bytes = bytes.take place ++ bytes[place] :: bytes.drop (place + 1) := by
    rw [List.getElem_cons_drop, List.take_append_drop]
  have back := fromBigEndian_lt (bytes.drop (place + 1))
  have small := bytes[place].toNat_lt
  rw [List.getD_eq_getElem?_getD, List.getElem?_eq_getElem inside, Option.getD_some,
    ← List.length_drop]
  nth_rewrite 1 [parts]
  rw [fromBigEndian_append, fromBigEndian_cons, List.length_cons, Nat.pow_succ',
    ← Nat.mul_assoc, ← Nat.add_assoc, ← Nat.add_mul, Nat.mul_comm, Nat.mul_add_div (by omega),
    Nat.div_eq_of_lt back]
  omega

/-! ## Values of a fixed width -/

/-- A byte string of fixed width, as the big-endian number it spells. -/
structure Fixed (width : Nat) where
  value : Nat
  fits : value < 256 ^ width
deriving DecidableEq

namespace Fixed

variable {width : Nat}

theorem value_injective : Function.Injective (value : Fixed width → Nat) := by
  rintro ⟨left, _⟩ ⟨right, _⟩ same
  simpa using same

instance : LinearOrder (Fixed width) := LinearOrder.lift' value value_injective

/-- All bytes are zero. -/
def zero : Fixed width := ⟨0, Nat.pow_pos (by decide)⟩

/-- The last bytes of a number. -/
def ofNat (value : Nat) : Fixed width :=
  ⟨value % 256 ^ width, Nat.mod_lt _ (Nat.pow_pos (by decide))⟩

@[irreducible] def bytes (fixed : Fixed width) : List UInt8 := bigEndian width fixed.value

/-- A byte string of the right length. -/
def ofBytes? (bytes : List UInt8) : Option (Fixed width) :=
  if right : bytes.length = width then some ⟨fromBigEndian bytes, right ▸ fromBigEndian_lt bytes⟩
  else none

@[simp] theorem length_bytes (fixed : Fixed width) : fixed.bytes.length = width := by
  rw [bytes, length_bigEndian]

theorem fromBigEndian_bytes (fixed : Fixed width) : fromBigEndian fixed.bytes = fixed.value := by
  rw [bytes, fromBigEndian_bigEndian fixed.fits]

@[simp] theorem ofBytes?_bytes (fixed : Fixed width) : ofBytes? fixed.bytes = some fixed := by
  rw [ofBytes?, dif_pos fixed.length_bytes, Option.some.injEq]
  exact value_injective fixed.fromBigEndian_bytes

theorem ofBytes?_eq_some : ofBytes? input = some fixed ↔ input = fixed.bytes := by
  constructor
  · intro found
    unfold ofBytes? at found
    split at found
    · rename_i right
      subst right
      obtain rfl := Option.some.inj found
      rw [bytes, bigEndian_fromBigEndian]
    · simp at found
  · rintro rfl
    exact fixed.ofBytes?_bytes

theorem bytes_injective : Function.Injective (bytes : Fixed width → List UInt8) := by
  intro left right same
  have read := left.ofBytes?_bytes
  rw [same, right.ofBytes?_bytes] at read
  exact (Option.some.inj read).symm

end Fixed

/-! ## Readers -/

/-- A reader takes a value from the front of its input. -/
def Reader (ε α : Type) := List UInt8 → Except ε (α × List UInt8)

namespace Reader

variable {ε α β γ : Type}

instance : Monad (Reader ε) where
  pure value := fun input => .ok (value, input)
  bind first next := fun input =>
    match first input with
    | .ok (value, rest) => next value rest
    | .error failure => .error failure

def fail (failure : ε) : Reader ε α := fun _ => .error failure

/-- A check on what was read so far. -/
def lift (result : Except ε α) : Reader ε α := fun input =>
  match result with
  | .ok value => .ok (value, input)
  | .error failure => .error failure

/-- The next byte. -/
def byte (failure : ε) : Reader ε UInt8
  | [] => .error failure
  | byte :: rest => .ok (byte, rest)

/-- The next `count` bytes. -/
def take (count : Nat) (failure : ε) : Reader ε (List UInt8) := fun input =>
  if count ≤ input.length then .ok (input.take count, input.drop count) else .error failure

/-- Bytes that must stand next. -/
def literal (expected : List UInt8) (failure : ε) : Reader ε Unit := fun input =>
  if expected.isPrefixOf input then .ok ((), input.drop expected.length) else .error failure

/-- A big-endian number of some width. -/
def number (width : Nat) (failure : ε) : Reader ε Nat := do
  let bytes ← take width failure
  pure (fromBigEndian bytes)

/-- A value of fixed width. -/
def fixed (width : Nat) (failure : ε) : Reader ε (Fixed width) := do
  let bytes ← take width failure
  lift (present (Fixed.ofBytes? bytes) failure)

/-- What is left, without taking anything. -/
def remaining : Reader ε (List UInt8) := fun input => .ok (input, input)

/-- The same reader several times. -/
def repeated (reader : Reader ε α) : Nat → Reader ε (List α)
  | 0 => pure []
  | count + 1 => do
    let first ← reader
    let rest ← repeated reader count
    pure (first :: rest)

theorem bind_apply (first : Reader ε α) (next : α → Reader ε β) (input : List UInt8) :
    (first >>= next) input = (first input >>= fun read => next read.1 read.2) := by
  change (match first input with
    | .ok (value, rest) => next value rest
    | .error failure => .error failure) = _
  cases first input <;> rfl

section

variable {input rest : List UInt8}

/-- A step that succeeds hands its value and the rest of the input to the next one. -/
theorem bind_ok {next : α → Reader ε β} {value : α} (read : first input = .ok (value, middle)) : (first >>= next) input = next value middle := by
  rw [bind_apply, read, ok_bind]

theorem pure_apply (value : α) (input : List UInt8) :
    (pure value : Reader ε α) input = .ok (value, input) := rfl

theorem lift_ok_apply (value : α) (input : List UInt8) :
    (lift (.ok value) : Reader ε α) input = .ok (value, input) := rfl

theorem bind_eq_ok {next : α → Reader ε β} :
    (first >>= next) input = .ok (value, rest) ↔
      ∃ found middle, first input = .ok (found, middle) ∧ next found middle = .ok (value, rest) := by
  rw [bind_apply, Library.bind_eq_ok]
  simp

theorem pure_eq_ok :
    (pure value : Reader ε α) input = .ok (found, rest) ↔ value = found ∧ input = rest := by
  rw [pure_apply]
  simp

theorem lift_eq_ok : lift result input = .ok (value, rest) ↔ result = .ok value ∧ input = rest := by
  cases result <;> simp [lift]

theorem fail_eq_ok {failure : ε} :
    (fail failure : Reader ε α) input = .ok (value, rest) ↔ False := by
  simp [fail]

theorem byte_eq_ok {failure : ε} :
    byte failure input = .ok (value, rest) ↔ input = value :: rest := by
  cases input <;> simp [byte]

theorem take_append (whole : bytes.length = count) (failure : ε) (rest : List UInt8) : take count failure (bytes ++ rest) = .ok (bytes, rest) := by
  subst whole
  simp [take]

theorem take_eq_ok {failure : ε} :
    take count failure input = .ok (value, rest) ↔ value.length = count ∧ input = value ++ rest := by
  constructor
  · intro taken
    unfold take at taken
    split at taken
    · simp only [Except.ok.injEq, Prod.mk.injEq] at taken
      obtain ⟨rfl, rfl⟩ := taken
      exact ⟨List.length_take_of_le ‹_›, (List.take_append_drop count input).symm⟩
    · simp at taken
  · rintro ⟨whole, rfl⟩
    exact take_append whole failure rest

theorem literal_append (expected : List UInt8) (failure : ε) (rest : List UInt8) :
    literal expected failure (expected ++ rest) = .ok ((), rest) := by
  simp [literal]

theorem number_bigEndian (fits : value < 256 ^ width) (failure : ε) (rest : List UInt8) :
    number width failure (bigEndian width value ++ rest) = .ok (value, rest) := by
  rw [number, bind_ok (take_append (length_bigEndian _ _) failure rest), pure_apply,
    fromBigEndian_bigEndian fits]

theorem fixed_bytes (value : Fixed width) (failure : ε) (rest : List UInt8) :
    fixed width failure (value.bytes ++ rest) = .ok (value, rest) := by
  rw [fixed, bind_ok (take_append value.length_bytes failure rest), Fixed.ofBytes?_bytes,
    present_some, lift_ok_apply]

theorem remaining_eq_ok :
    (remaining : Reader ε (List UInt8)) input = .ok (value, rest) ↔ input = value ∧ input = rest := by
  simp [remaining]

/-- Items written one after the other are read one after the other. -/
theorem repeated_flatMap {reader : Reader ε α} (items : List α)
    (reads : ∀ item ∈ items, ∀ rest, reader (write item ++ rest) = .ok (item, rest))
    (rest : List UInt8) :
    repeated reader items.length (items.flatMap write ++ rest) = .ok (items, rest) := by
  induction items with
  | nil => rfl
  | cons item items ih =>
    have first := reads item (List.mem_cons_self ..) (items.flatMap write ++ rest)
    have others := ih (fun other member => reads other (List.mem_cons_of_mem _ member))
    simp only [List.length_cons, repeated, List.flatMap_cons, List.append_assoc, bind_apply, first,
      ok_bind, others, pure_apply]

/-- A value that some reader takes back from the front of its spelling can be split off: no
spelling goes on as another one. -/
theorem written_append_iff (reader : Reader ε α) (write : α → List UInt8)
    (readFirst : ∀ rest, reader (write first ++ rest) = .ok (first, rest))
    (readSecond : ∀ rest, reader (write second ++ rest) = .ok (second, rest)) :
    write first ++ rest = write second ++ other ↔ first = second ∧ rest = other := by
  constructor
  · intro same
    have read := readFirst rest
    rw [same, readSecond] at read
    simp only [Except.ok.injEq, Prod.mk.injEq] at read
    exact ⟨read.1.symm, read.2.symm⟩
  · rintro ⟨rfl, rfl⟩
    rfl

end

/-- Whatever the reader returns has the property. -/
def Ensures (reader : Reader ε α) (holds : α → Prop) : Prop :=
  ∀ input value rest, reader input = .ok (value, rest) → holds value

namespace Ensures

variable {reader first : Reader ε α} {next : α → Reader ε β} {holds : α → Prop} {after : β → Prop}

theorem trivial : Ensures reader fun _ => True := fun _ _ _ _ => True.intro

theorem pure (holdsNow : holds value) : Ensures (Pure.pure value : Reader ε α) holds := by
  intro input found rest read
  rw [pure_eq_ok] at read
  exact read.1 ▸ holdsNow

theorem bind (ensured : Ensures first holds)
    (continues : ∀ value, holds value → Ensures (next value) after) :
    Ensures (first >>= next) after := by
  intro input value rest read
  obtain ⟨found, middle, readFirst, readNext⟩ := bind_eq_ok.mp read
  exact continues found (ensured input found middle readFirst) middle value rest readNext

/-- A step of which only the success matters. -/
theorem skip (continues : ∀ value, Ensures (next value) after) : Ensures (first >>= next) after :=
  bind trivial fun value _ => continues value

theorem require {condition : Prop} [Decidable condition] {failure : ε} :
    Ensures (lift (require condition failure)) fun _ => condition := by
  intro input value rest read
  exact require_eq_ok.mp (lift_eq_ok.mp read).1

theorem repeated (ensured : Ensures reader holds) (count : Nat) :
    Ensures (repeated reader count) fun values => ∀ value ∈ values, holds value := by
  induction count with
  | zero => exact pure (by simp)
  | succ count ih =>
    refine bind ensured fun value holdsValue => bind ih fun values holdAll => pure ?_
    exact List.forall_mem_cons.mpr ⟨holdsValue, holdAll⟩

end Ensures

/-- The reader accepts exactly the spellings of the values with a property, and returns a view
of them. -/
def Spells (reader : Reader ε β) (write : α → List UInt8) (view : α → β) (holds : α → Prop) : Prop :=
  ∀ input found rest, reader input = .ok (found, rest) ↔
    ∃ value, holds value ∧ view value = found ∧ input = write value ++ rest

namespace Spells

variable {reader : Reader ε β} {write : α → List UInt8} {view : α → β} {holds : α → Prop}

theorem read (spells : Spells reader write view holds) (has : holds value) (rest : List UInt8) : reader (write value ++ rest) = .ok (view value, rest) :=
  (spells _ _ _).mpr ⟨value, has, rfl, rfl⟩

theorem inv (spells : Spells reader write view holds) (read : reader input = .ok (found, rest)) :
    ∃ value, holds value ∧ view value = found ∧ input = write value ++ rest :=
  (spells _ _ _).mp read

/-- A sequence is accepted where its first step takes the spelling of a value and the other
steps take what is left. -/
theorem bind_iff (spells : Spells reader write view holds) {next : β → Reader ε γ}
    {input rest : List UInt8} {found : γ} :
    (reader >>= next) input = .ok (found, rest) ↔
      ∃ value, holds value ∧ ∃ middle, input = write value ++ middle ∧
        next (view value) middle = .ok (found, rest) := by
  rw [bind_eq_ok]
  constructor
  · rintro ⟨_, middle, first, read⟩
    obtain ⟨value, has, rfl, spelled⟩ := spells.inv first
    exact ⟨value, has, middle, spelled, read⟩
  · rintro ⟨value, has, middle, rfl, read⟩
    exact ⟨_, middle, spells.read has middle, read⟩

theorem repeated (spells : Spells reader write view holds) (count : Nat) :
    Spells (repeated reader count) (fun values : List α => values.flatMap write) (List.map view)
      (fun values => values.length = count ∧ ∀ value ∈ values, holds value) := by
  induction count with
  | zero =>
    intro input found rest
    simp only [Reader.repeated, pure_eq_ok]
    constructor
    · rintro ⟨rfl, rfl⟩
      exact ⟨[], ⟨rfl, by simp⟩, rfl, rfl⟩
    · rintro ⟨values, ⟨none, _⟩, rfl, rfl⟩
      obtain rfl := List.length_eq_zero_iff.mp none
      exact ⟨rfl, rfl⟩
  | succ count ih =>
    intro input found rest
    simp only [Reader.repeated, bind_eq_ok, pure_eq_ok]
    constructor
    · rintro ⟨_, _, first, _, _, others, rfl, rfl⟩
      obtain ⟨value, has, rfl, rfl⟩ := spells.inv first
      obtain ⟨values, ⟨rfl, all⟩, rfl, rfl⟩ := (ih _ _ _).mp others
      refine ⟨value :: values, ⟨rfl, List.forall_mem_cons.mpr ⟨has, all⟩⟩, rfl, ?_⟩
      rw [List.flatMap_cons, List.append_assoc]
    · rintro ⟨values, ⟨whole, all⟩, rfl, rfl⟩
      obtain ⟨value, values, rfl⟩ := List.exists_cons_of_length_eq_add_one whole
      obtain ⟨has, all⟩ := List.forall_mem_cons.mp all
      rw [List.flatMap_cons, List.append_assoc]
      exact ⟨_, _, spells.read has _, _, _,
        (ih _ _ _).mpr ⟨values, ⟨Nat.succ.inj whole, all⟩, rfl, rfl⟩, rfl, rfl⟩

end Spells

end Reader

/-! ## Reading step by step -/

section

variable {ε α β : Type} {next : α → Reader ε β} {input : List UInt8}

theorem read_done : (Reader.lift (.ok value) >>= next) input = next value input := rfl

/-- A check that holds takes nothing from the input. -/
theorem read_check {condition : Prop} [Decidable condition] {failure : ε}
    {next : Unit → Reader ε β} (holds : condition) :
    (Reader.lift (require condition failure) >>= next) input = next () input := by
  rw [require_pos holds, read_done]

/-- What it takes for a composed reader to succeed, as rules for `simp only`. -/
theorem read_iff :
    (∀ {ε α β : Type} {first : Reader ε α} {next : α → Reader ε β} {input rest : List UInt8}
      {value : β}, (first >>= next) input = .ok (value, rest) ↔
        ∃ found middle, first input = .ok (found, middle) ∧
          next found middle = .ok (value, rest)) ∧
    (∀ {ε α : Type} {value found : α} {input rest : List UInt8},
      (pure value : Reader ε α) input = .ok (found, rest) ↔ value = found ∧ input = rest) ∧
    (∀ {ε α : Type} {result : Except ε α} {value : α} {input rest : List UInt8},
      Reader.lift result input = .ok (value, rest) ↔ result = .ok value ∧ input = rest) ∧
    ∀ {ε : Type} {failure : ε} {condition : Prop} [Decidable condition] {done : Unit},
      require condition failure = .ok done ↔ condition :=
  ⟨Reader.bind_eq_ok, Reader.pure_eq_ok, Reader.lift_eq_ok, require_eq_ok⟩

end

/-! ## Parts that say how long they are -/

/-- The front of some bytes, which says how long it is. -/
def sizedFront (size : List UInt8 → Nat) (least : Nat) (bytes : List UInt8) : Option (List UInt8) :=
  if least ≤ bytes.length ∧ least ≤ size bytes ∧ size bytes ≤ bytes.length then
    some (bytes.take (size bytes))
  else none

/-- Whatever follows the bytes, they say where they end. -/
def Sized (size : List UInt8 → Nat) (bytes : List UInt8) : Prop :=
  ∀ rest, size (bytes ++ rest) = bytes.length

theorem Sized.append_iff (sized : Sized size first) (sizedToo : Sized size second) :
    first ++ rest = second ++ other ↔ first = second ∧ rest = other := by
  refine ⟨fun same => List.append_inj same ?_, fun ⟨same, left⟩ => same ▸ left ▸ rfl⟩
  rw [← sized rest, same, sizedToo]

theorem flatten_append_iff {first second : List (List UInt8)}
    (sized : ∀ part ∈ first, Sized size part) (sizedToo : ∀ part ∈ second, Sized size part)
    (count : first.length = second.length) :
    first.flatten ++ rest = second.flatten ++ other ↔ first = second ∧ rest = other := by
  induction first generalizing second with
  | nil =>
    obtain rfl := List.length_eq_zero_iff.mp count.symm
    simp
  | cons part first ih =>
    obtain ⟨head, second, rfl⟩ := List.exists_cons_of_length_eq_add_one count.symm
    obtain ⟨here, sized⟩ := List.forall_mem_cons.mp sized
    obtain ⟨hereToo, sizedToo⟩ := List.forall_mem_cons.mp sizedToo
    simp only [List.flatten_cons, List.append_assoc, here.append_iff hereToo,
      ih sized sizedToo (Nat.succ.inj count), List.cons.injEq, and_assoc]

/-- The size of a part stands in its first four bytes. -/
theorem sizedFront_sized (early : ∀ bytes, size (bytes.take 4) = size bytes) (four : 4 ≤ least)
    (found : sizedFront size least bytes = some part) : Sized size part := by
  simp only [sizedFront, Option.ite_none_right_eq_some, Option.some.injEq] at found
  obtain ⟨⟨_, far, fits⟩, rfl⟩ := found
  intro rest
  rw [← early, List.take_append_of_le_length (by rw [List.length_take]; omega), List.take_take,
    Nat.min_eq_left (by omega), early, List.length_take_of_le fits]

end ContextRelay.Library
