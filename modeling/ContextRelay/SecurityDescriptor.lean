import ContextRelay.Protocol

/-! The canonical form of a Windows security descriptor. The sections of a self-relative descriptor
may stand anywhere in it, and its fingerprint hashes a form that should depend on what the sections
say and not on where they stand. The form leaves out an access list that is null, so a null list
before another one reads like that one before a null list. Where an owner or a group is missing it
takes the first bytes of the descriptor for one. -/
namespace ContextRelay.NativeFs

open Library

/-! ## The source -/

/-- Why no form is returned: the bytes are no descriptor, or an index or a sum is out of range. -/
inductive Stop where
  | unrecognized | panic
deriving DecidableEq

def index (bytes : Bytes) (place : Nat) : Except Stop UInt8 := present bytes[place]? .panic

def slice (bytes : Bytes) (start stop : Nat) : Except Stop Bytes := do
  require (start ≤ stop ∧ stop ≤ bytes.length) .panic
  pure ((bytes.take stop).drop start)

/-- A sum of machine words. -/
def add (left right : Nat) : Except Stop Nat := do
  require (left + right < 2 ^ 64) .panic
  pure (left + right)

def fromLittleEndian (bytes : Bytes) : Nat := fromBigEndian bytes.reverse

def littleEndian (width value : Nat) : Bytes := (bigEndian width value).reverse

/-- The two bytes from a place, as a number. -/
def word (bytes : Bytes) (place : Nat) : Except Stop Nat := do
  let low ← index bytes place
  let high ← index bytes (← add place 1)
  pure (fromLittleEndian [low, high])

def offset (descriptor : Bytes) (start : Nat) : Except Stop Nat := do
  let raw ← slice descriptor start (← add start 4)
  pure (fromLittleEndian raw)

def sidLengthAt (descriptor : Bytes) (start : Nat) : Except Stop Nat := do
  require ((← add start 8) ≤ descriptor.length) .unrecognized
  let subAuthorities ← index descriptor (← add start 1)
  let length ← add 8 (subAuthorities.toNat * 4)
  require ((← add start length) ≤ descriptor.length) .unrecognized
  pure length

def sidSection (bytes : Bytes) : Except Stop Bytes := do
  slice bytes 0 (← sidLengthAt bytes 0)

/-- The loop over the entries of an access list. -/
def aceLoop (acl : Bytes) : Nat → Nat → Bytes → Except Stop Bytes
  | 0, _, stable => pure stable
  | count + 1, cursor, stable => do
    require ((← add cursor 4) ≤ acl.length) .unrecognized
    let aceSize ← word acl (← add cursor 2)
    require (4 ≤ aceSize) .unrecognized
    let next ← add cursor aceSize
    require (next ≤ acl.length) .unrecognized
    let ace ← slice acl cursor next
    aceLoop acl count next (stable ++ ace)

def aclSection (offset : Nat) (present : Bool) (descriptor : Bytes) : Except Stop Bytes :=
  if present = false ∨ offset = 0 then pure []
  else do
    require ((← add offset 8) ≤ descriptor.length) .unrecognized
    let acl ← slice descriptor offset descriptor.length
    let aceCount ← word acl 4
    let aclBytes ← word acl 2
    require ((← add offset aclBytes) ≤ descriptor.length) .unrecognized
    aceLoop acl aceCount 8 (littleEndian 4 aceCount)

def canonicalSecurityDescriptor (descriptor : Bytes) : Except Stop Bytes := do
  require (20 ≤ descriptor.length) .unrecognized
  require ((← index descriptor 0) = 1) .unrecognized
  let control ← word descriptor 2
  let owner ← offset descriptor 4
  let group ← offset descriptor 8
  let sacl ← offset descriptor 12
  let dacl ← offset descriptor 16
  require (owner ≤ descriptor.length ∧ group ≤ descriptor.length) .unrecognized
  let revision := [← index descriptor 0, ← index descriptor 1]
  let ownerSid ← sidSection (← slice descriptor owner descriptor.length)
  let groupSid ← sidSection (← slice descriptor group descriptor.length)
  let saclPart ← aclSection sacl (decide (control &&& 0x0008 ≠ 0)) descriptor
  let daclPart ← aclSection dacl (decide (control &&& 0x0004 ≠ 0)) descriptor
  pure ("cr-sd\x00".toUTF8.toList ++ (revision ++ (littleEndian 2 (control &&& 0xf0ff) ++
    (ownerSid ++ (groupSid ++ (saclPart ++ daclPart))))))

def stableSecurityDescriptor (descriptor : Bytes) : Except Stop Bytes :=
  match canonicalSecurityDescriptor descriptor with
  | .error .unrecognized => .ok descriptor
  | result => result

def equivalentSecurityDescriptors (first second : Bytes) : Except Stop Bool := do
  pure (decide ((← stableSecurityDescriptor first) = (← stableSecurityDescriptor second)))

/-! ## What a descriptor says -/

def wordAt (bytes : Bytes) (place : Nat) : Nat := fromLittleEndian ((bytes.drop place).take 2)

def sidSize (bytes : Bytes) : Nat := 8 + (bytes.getD 1 0).toNat * 4

def aceSize (bytes : Bytes) : Nat := wordAt bytes 2

def aces : Nat → Bytes → Option (List Bytes)
  | 0, _ => some []
  | count + 1, bytes => do
    let ace ← sizedFront aceSize 4 bytes
    let others ← aces count (bytes.drop ace.length)
    pure (ace :: others)

inductive AccessList where
  | absent
  | null
  | entries (aces : List Bytes)
deriving DecidableEq

def accessList (place : Nat) (present : Bool) (descriptor : Bytes) : Option AccessList :=
  if present = false then some .absent
  else if place = 0 then some .null
  else if place + 8 ≤ descriptor.length ∧ place + wordAt descriptor (place + 2) ≤ descriptor.length
  then (aces (wordAt descriptor (place + 4)) (descriptor.drop (place + 8))).map .entries
  else none

/-- The SID at a place, or none at the start of the descriptor. -/
def sid (place : Nat) (descriptor : Bytes) : Option (Option Bytes) :=
  if place = 0 then some none else (sizedFront sidSize 8 (descriptor.drop place)).map some

structure Contents where
  revision : Bytes
  control : Nat
  owner : Option Bytes
  group : Option Bytes
  sacl : AccessList
  dacl : AccessList
deriving DecidableEq

def contents (descriptor : Bytes) : Option Contents := do
  let offset (place : Nat) := fromLittleEndian ((descriptor.drop place).take 4)
  let control := wordAt descriptor 2
  guard (20 ≤ descriptor.length ∧ descriptor.head? = some 1)
  guard (offset 4 ≤ descriptor.length ∧ offset 8 ≤ descriptor.length)
  let owner ← sid (offset 4) descriptor
  let group ← sid (offset 8) descriptor
  let sacl ← accessList (offset 12) (decide (control &&& 0x0008 ≠ 0)) descriptor
  let dacl ← accessList (offset 16) (decide (control &&& 0x0004 ≠ 0)) descriptor
  pure ⟨descriptor.take 2, control &&& 0xf0ff, owner, group, sacl, dacl⟩

def AccessList.spell : AccessList → Bytes
  | .absent | .null => []
  | .entries aces => littleEndian 4 aces.length ++ aces.flatten

def Contents.spell (contents : Contents) (owner group : Bytes) : Bytes :=
  "cr-sd\x00".toUTF8.toList ++ (contents.revision ++ (littleEndian 2 contents.control ++
    (owner ++ (group ++ (contents.sacl.spell ++ contents.dacl.spell)))))

/-- What the form takes for a SID: for a missing one, the front of the whole descriptor. -/
def spellSid (descriptor : Bytes) : Option Bytes → Option Bytes
  | some sid => some sid
  | none => sizedFront sidSize 8 descriptor

def spelled (descriptor : Bytes) : Option Bytes := do
  let said ← contents descriptor
  let owner ← spellSid descriptor said.owner
  let group ← spellSid descriptor said.group
  pure (said.spell owner group)

/-! ## Sizes -/

theorem sidSize_take (bytes : Bytes) : sidSize (bytes.take 4) = sidSize bytes := by
  simp [sidSize, List.getD_eq_getElem?_getD]

theorem aceSize_take (bytes : Bytes) : aceSize (bytes.take 4) = aceSize bytes := by
  simp [aceSize, wordAt, List.drop_take, List.take_take]

theorem aces_ok (found : aces count bytes = some list) :
    list.length = count ∧ ∀ ace ∈ list, Sized aceSize ace := by
  induction count generalizing bytes list with
  | zero => simp_all [aces]
  | succ count ih =>
    simp only [aces, Option.bind_eq_bind, Option.bind_eq_some_iff, Option.pure_def,
      Option.some.injEq] at found
    obtain ⟨ace, first, others, rest, rfl⟩ := found
    obtain ⟨length, sized⟩ := ih rest
    exact ⟨congrArg Nat.succ length,
      List.forall_mem_cons.mpr ⟨sizedFront_sized aceSize_take le_rfl first, sized⟩⟩

/-! ## The source reads what the descriptor says -/

theorem add_eq (small : left + right < 2 ^ 64) : add left right = .ok (left + right) := by
  rw [add, require_pos small, ok_bind]
  rfl

theorem index_eq (inside : place < bytes.length) : index bytes place = .ok bytes[place] := by
  rw [index, List.getElem?_eq_getElem inside, present_some]

theorem slice_eq (inside : start ≤ stop ∧ stop ≤ bytes.length) :
    slice bytes start stop = .ok ((bytes.drop start).take (stop - start)) := by
  rw [slice, require_pos inside, ok_bind, List.drop_take]
  rfl

theorem take_two {bytes : Bytes} (inside : place + 2 ≤ bytes.length) :
    (bytes.drop place).take 2 = [bytes[place], bytes[place + 1]] := by
  rw [List.drop_eq_getElem_cons (by omega), List.take_succ_cons,
    List.drop_eq_getElem_cons (by omega), List.take_succ_cons, List.take_zero]

theorem word_eq {bytes : Bytes} (inside : place + 2 ≤ bytes.length) (small : place + 1 < 2 ^ 64) :
    word bytes place = .ok (wordAt bytes place) := by
  rw [word, index_eq (by omega), ok_bind, add_eq small, ok_bind, index_eq (by omega), ok_bind,
    wordAt, take_two inside]
  rfl

theorem slice_rest (inside : start ≤ bytes.length) :
    slice bytes start bytes.length = .ok (bytes.drop start) := by
  rw [slice_eq ⟨inside, le_rfl⟩, List.take_of_length_le (by rw [List.length_drop])]

theorem fromLittleEndian_take_lt (bytes : Bytes) (width : Nat) :
    fromLittleEndian (bytes.take width) < 256 ^ width := by
  have short : (bytes.take width).reverse.length ≤ width := by simp
  exact lt_of_lt_of_le (fromBigEndian_lt _) (Nat.pow_le_pow_right (by decide : 0 < 256) short)

theorem wordAt_lt (bytes : Bytes) (place : Nat) : wordAt bytes place < 65536 :=
  fromLittleEndian_take_lt _ 2

theorem sidSection_eq (bytes : Bytes) :
    sidSection bytes = present (sizedFront sidSize 8 bytes) .unrecognized := by
  unfold sidSection sidLengthAt sizedFront
  by_cases enough : 8 ≤ bytes.length
  · have small := (bytes[1]).toNat_lt
    have size : sidSize bytes = 8 + bytes[1].toNat * 4 := by
      rw [sidSize, List.getD_eq_getElem?_getD, List.getElem?_eq_getElem, Option.getD_some]
    have least : 8 ≤ sidSize bytes := by omega
    simp only [add_eq (show 0 + 8 < 2 ^ 64 by decide), ok_bind, Nat.zero_add, require_true,
      add_eq (show 0 + 1 < 2 ^ 64 by decide), index_eq (show 1 < bytes.length by omega),
      add_eq (show 8 + bytes[1].toNat * 4 < 2 ^ 64 by omega), ← size,
      add_eq (show 0 + sidSize bytes < 2 ^ 64 by omega), enough, least, true_and]
    by_cases fits : sidSize bytes ≤ bytes.length
    · rw [require_pos fits, ok_bind, if_pos fits]
      exact slice_eq ⟨Nat.zero_le _, fits⟩
    · simp only [require, if_neg fits]
      rfl
  · rw [add_eq (by decide), ok_bind, Nat.zero_add, require, if_neg enough, if_neg (by tauto)]
    rfl

theorem aceLoop_eq (count cursor : Nat) (stable : Bytes)
    (room : cursor + 65536 * (count + 1) < 2 ^ 64) :
    aceLoop acl count cursor stable =
      present ((aces count (acl.drop cursor)).map (stable ++ ·.flatten)) .unrecognized := by
  induction count generalizing cursor stable with
  | zero => simp [aceLoop, aces, present]
  | succ count ih =>
    have at4 := add_eq (show cursor + 4 < 2 ^ 64 by omega)
    have at2 := add_eq (show cursor + 2 < 2 ^ 64 by omega)
    rw [aceLoop, aces, sizedFront, List.length_drop, at4, ok_bind, at2, ok_bind]
    by_cases enough : cursor + 4 ≤ acl.length
    · have same : wordAt acl (cursor + 2) = aceSize (acl.drop cursor) := by
        rw [aceSize, wordAt, wordAt, List.drop_drop]
      have short : aceSize (acl.drop cursor) < 65536 := wordAt_lt _ _
      rw [require_pos enough, ok_bind, word_eq (by omega) (by omega), ok_bind, same]
      by_cases least : 4 ≤ aceSize (acl.drop cursor)
      · rw [require_pos least, ok_bind, add_eq (by omega), ok_bind]
        by_cases fits : cursor + aceSize (acl.drop cursor) ≤ acl.length
        · have less : cursor + aceSize (acl.drop cursor) + 65536 * (count + 1) ≤
              cursor + 65536 * (count + 1 + 1) := by omega
          rw [require_pos fits, ok_bind, slice_eq ⟨by omega, fits⟩, ok_bind,
            ih _ _ (lt_of_le_of_lt less room), if_pos ⟨by omega, least, by omega⟩,
            Nat.add_sub_cancel_left, Option.bind_eq_bind, Option.bind_some,
            List.length_take_of_le (by rw [List.length_drop]; omega), List.drop_drop]
          cases aces count (acl.drop (cursor + aceSize (acl.drop cursor))) <;> simp
        · rw [if_neg (by omega)]
          simp only [require, if_neg fits]
          rfl
      · rw [if_neg (by omega)]
        simp only [require, if_neg least]
        rfl
    · rw [if_neg (by omega)]
      simp only [require, if_neg enough]
      rfl

theorem aclSection_eq (small : place < 256 ^ 4) (flag : Bool) :
    aclSection place flag descriptor =
      present ((accessList place flag descriptor).map AccessList.spell) .unrecognized := by
  unfold aclSection accessList
  by_cases absent : flag = false
  · simp [absent, present, AccessList.spell]
  by_cases null : place = 0
  · simp [absent, null, present, AccessList.spell]
  rw [if_neg (by tauto), if_neg absent, if_neg null, add_eq (by omega), ok_bind]
  by_cases enough : place + 8 ≤ descriptor.length
  · have at4 : wordAt (descriptor.drop place) 4 = wordAt descriptor (place + 4) := by
      rw [wordAt, wordAt, List.drop_drop]
    have at2 : wordAt (descriptor.drop place) 2 = wordAt descriptor (place + 2) := by
      rw [wordAt, wordAt, List.drop_drop]
    have long : 8 ≤ (descriptor.drop place).length := by rw [List.length_drop]; omega
    have count := wordAt_lt descriptor (place + 4)
    have bytes := wordAt_lt descriptor (place + 2)
    rw [require_pos enough, ok_bind, slice_rest (by omega), ok_bind,
      word_eq (by omega) (by omega), ok_bind, word_eq (by omega) (by omega), ok_bind, at4, at2,
      add_eq (by omega), ok_bind]
    by_cases fits : place + wordAt descriptor (place + 2) ≤ descriptor.length
    · rw [require_pos fits, ok_bind, aceLoop_eq _ _ _ (by omega), if_pos ⟨enough, fits⟩,
        List.drop_drop, Option.map_map]
      cases found : aces (wordAt descriptor (place + 4)) (descriptor.drop (place + 8)) with
      | none => rfl
      | some list => simp [AccessList.spell, (aces_ok found).1]
    · rw [if_neg (by tauto)]
      simp only [require, if_neg fits]
      rfl
  · rw [if_neg (by tauto)]
    simp only [require, if_neg enough]
    rfl

theorem sid_bind_spellSid (place : Nat) (descriptor : Bytes) :
    (sid place descriptor).bind (spellSid descriptor) =
      sizedFront sidSize 8 (descriptor.drop place) := by
  unfold sid
  split
  · rename_i start
    rw [start]
    rfl
  · cases sizedFront sidSize 8 (descriptor.drop place) <;> rfl

/-- The canonical form spells what the descriptor says, and nothing goes out of range. -/
theorem canonicalSecurityDescriptor_eq (descriptor : Bytes) :
    canonicalSecurityDescriptor descriptor = present (spelled descriptor) .unrecognized := by
  unfold canonicalSecurityDescriptor spelled contents
  by_cases long : 20 ≤ descriptor.length
  · have offset_eq (place : Nat) (inside : place ≤ 16) :
        offset descriptor place = .ok (fromLittleEndian ((descriptor.drop place).take 4)) := by
      rw [offset, add_eq (by omega), ok_bind, slice_eq ⟨by omega, by omega⟩, ok_bind,
        Nat.add_sub_cancel_left]
      rfl
    have control : word descriptor 2 = .ok (wordAt descriptor 2) :=
      word_eq (by omega) (by decide)
    have first : descriptor.head? = some descriptor[0] := by
      rw [List.head?_eq_getElem?, List.getElem?_eq_getElem]
    have revision : descriptor.take 2 = [descriptor[0], descriptor[1]] :=
      take_two (show 0 + 2 ≤ descriptor.length by omega)
    simp only [ok_bind, index_eq (show 0 < descriptor.length by omega), require_true,
      index_eq (show 1 < descriptor.length by omega), control, offset_eq 4 (by decide),
      offset_eq 8 (by decide), offset_eq 12 (by decide), offset_eq 16 le_rfl, long, true_and, first,
      revision, Option.some.injEq, present_bind, present_guard, bind_assoc]
    refine congrArg _ (funext fun _ => ?_)
    by_cases inside : fromLittleEndian ((descriptor.drop 4).take 4) ≤ descriptor.length ∧
        fromLittleEndian ((descriptor.drop 8).take 4) ≤ descriptor.length
    · simp only [require_pos inside, ok_bind, slice_rest inside.1, slice_rest inside.2, sidSection_eq,
        aclSection_eq (fromLittleEndian_take_lt _ 4), present_map, bind_assoc, pure_bind]
      rw [← sid_bind_spellSid, ← sid_bind_spellSid]
      -- The source spells a SID as soon as it is read; every failure is the same.
      rcases sid (fromLittleEndian ((descriptor.drop 4).take 4)) descriptor with _ | owner
      · rfl
      rcases sid (fromLittleEndian ((descriptor.drop 8).take 4)) descriptor with _ | group
      all_goals simp only [Option.bind_some, Option.bind_none, Option.pure_def, present_some, ok_bind]
      · cases spellSid descriptor owner <;> rfl
      · cases spellSid descriptor owner <;> cases spellSid descriptor group <;>
          cases accessList _ (decide (wordAt descriptor 2 &&& 8 ≠ 0)) descriptor <;>
          cases accessList _ (decide (wordAt descriptor 2 &&& 4 ≠ 0)) descriptor <;> rfl
    · simp only [require, if_neg inside]
      rfl
  · simp only [require, long, if_false, false_and]
    rfl

/-! ## What two equal forms say -/

/-- The one has a null system list where the other has a null discretionary list, and their other
lists are the same. -/
def Exchanged (first second : Contents) : Prop :=
  first.sacl = .null ∧ (∃ aces, first.dacl = .entries aces) ∧
    second = { first with sacl := first.dacl, dacl := .null }

def AccessList.Sound : AccessList → Prop
  | .absent | .null => True
  | .entries aces => aces.length < 65536 ∧ ∀ ace ∈ aces, Sized aceSize ace

/-- What the contents of a descriptor satisfy. -/
structure Contents.Sound (contents : Contents) : Prop where
  revision : contents.revision.length = 2
  control : contents.control < 256 ^ 2
  owner : ∀ sid, contents.owner = some sid → Sized sidSize sid
  group : ∀ sid, contents.group = some sid → Sized sidSize sid
  sacl : contents.sacl.Sound
  dacl : contents.dacl.Sound
  saclPresent : contents.sacl = .absent ↔ contents.control &&& 0x0008 = 0
  daclPresent : contents.dacl = .absent ↔ contents.control &&& 0x0004 = 0

theorem littleEndian_append_iff (small : first < 256 ^ width) (smallToo : second < 256 ^ width) :
    littleEndian width first ++ rest = littleEndian width second ++ other ↔
      first = second ∧ rest = other := by
  refine ⟨fun same => ?_, fun ⟨same, left⟩ => same ▸ left ▸ rfl⟩
  obtain ⟨same, left⟩ := List.append_inj same (by simp [littleEndian])
  rw [← fromBigEndian_bigEndian small, List.reverse_injective same, fromBigEndian_bigEndian smallToo]
  exact ⟨rfl, left⟩

theorem entries_append_iff {rest other : Bytes} (sound : (AccessList.entries first).Sound)
    (soundToo : (AccessList.entries second).Sound) :
    (AccessList.entries first).spell ++ rest = (AccessList.entries second).spell ++ other ↔
      first = second ∧ rest = other := by
  have small := lt_trans sound.1 (show 65536 < 256 ^ 4 by decide)
  have smallToo := lt_trans soundToo.1 (show 65536 < 256 ^ 4 by decide)
  rw [AccessList.spell, AccessList.spell, List.append_assoc, List.append_assoc,
    littleEndian_append_iff small smallToo]
  constructor
  · rintro ⟨count, same⟩
    exact (flatten_append_iff sound.2 soundToo.2 count).mp same
  · rintro ⟨rfl, rfl⟩
    exact ⟨rfl, rfl⟩

theorem entries_append_ne_nil (aces : List Bytes) (rest : Bytes) :
    (AccessList.entries aces).spell ++ rest ≠ [] := by
  refine List.ne_nil_of_length_pos ?_
  simp [AccessList.spell, littleEndian]

theorem accessList_ok (found : accessList place flag descriptor = some list) :
    list.Sound ∧ (list = .absent ↔ flag = false) := by
  unfold accessList at found
  split_ifs at found with absent
  · obtain rfl := Option.some.inj found
    exact ⟨True.intro, by simp [absent]⟩
  · obtain rfl := Option.some.inj found
    exact ⟨True.intro, by simp [absent]⟩
  · obtain ⟨aces, read, rfl⟩ := Option.map_eq_some_iff.mp found
    obtain ⟨count, sized⟩ := aces_ok read
    exact ⟨⟨count ▸ wordAt_lt _ _, sized⟩, by simp [absent]⟩

theorem sid_sized (read : sid place descriptor = some found) (own : found = some bytes) :
    Sized sidSize bytes := by
  unfold sid at read
  split at read
  · rw [own] at read
    cases read
  · obtain ⟨front, isFront, rfl⟩ := Option.map_eq_some_iff.mp read
    obtain rfl := Option.some.inj own
    exact sizedFront_sized sidSize_take (by decide) isFront

theorem contents_sound (read : contents descriptor = some said) : said.Sound := by
  simp only [contents, Option.bind_eq_bind, Option.bind_eq_some_iff, Option.guard_eq_some',
    exists_const, Option.pure_def, Option.some.injEq] at read
  obtain ⟨⟨long, _⟩, _, owner, ownerRead, group, groupRead, sacl, saclRead, dacl, daclRead, rfl⟩ := read
  obtain ⟨saclSound, saclPresent⟩ := accessList_ok saclRead
  obtain ⟨daclSound, daclPresent⟩ := accessList_ok daclRead
  exact {
    revision := List.length_take_of_le (by omega)
    control := lt_of_le_of_lt Nat.and_le_left (wordAt_lt _ _)
    owner := fun _ => sid_sized ownerRead
    group := fun _ => sid_sized groupRead
    sacl := saclSound
    dacl := daclSound
    saclPresent := by rw [saclPresent, Nat.and_assoc]; simp
    daclPresent := by rw [daclPresent, Nat.and_assoc]; simp }

section

variable {sacl dacl otherSacl otherDacl : AccessList}

/-- What spells a list of entries and another list is that list of entries before a null one. -/
theorem entries_of_spell {aces : List Bytes} (sound : dacl.Sound)
    (listed : (AccessList.entries aces).Sound) (same : dacl = .absent ↔ otherDacl = .absent)
    (equal : dacl.spell = (AccessList.entries aces).spell ++ otherDacl.spell) :
    dacl = .entries aces ∧ otherDacl = .null := by
  cases dacl with
  | absent => exact absurd equal.symm (entries_append_ne_nil _ _)
  | null => exact absurd equal.symm (entries_append_ne_nil _ _)
  | entries found =>
    rw [← List.append_nil (AccessList.entries found).spell, entries_append_iff sound listed] at equal
    obtain ⟨rfl, nothing⟩ := equal
    cases otherDacl with
    | absent => cases same.mpr rfl
    | null => exact ⟨rfl, rfl⟩
    | entries others => exact absurd nothing.symm (by simpa using entries_append_ne_nil others [])

theorem spell_injective (sound : dacl.Sound) (soundToo : otherDacl.Sound)
    (same : dacl = .absent ↔ otherDacl = .absent) (equal : dacl.spell = otherDacl.spell) :
    dacl = otherDacl := by
  cases otherDacl with
  | absent => exact same.mpr rfl
  | null =>
    cases dacl with
    | absent => exact (same.mp rfl).symm
    | null => rfl
    | entries aces => exact absurd ((List.append_nil _).trans equal) (entries_append_ne_nil aces [])
  | entries aces =>
    have listed : dacl = .entries aces ∧ AccessList.null = .null :=
      entries_of_spell sound soundToo (by simp [same]) (equal.trans (List.append_nil _).symm)
    exact listed.1

/-- Two lists in a row are determined by their spelling, unless one of each pair is null. -/
theorem lists_of_spell (sound : sacl.Sound) (daclSound : dacl.Sound)
    (soundToo : otherSacl.Sound) (daclSoundToo : otherDacl.Sound)
    (same : sacl = .absent ↔ otherSacl = .absent) (sameToo : dacl = .absent ↔ otherDacl = .absent)
    (equal : sacl.spell ++ dacl.spell = otherSacl.spell ++ otherDacl.spell) :
    (sacl = otherSacl ∧ dacl = otherDacl) ∨
      (sacl = .null ∧ otherDacl = .null ∧ ∃ aces, dacl = .entries aces ∧ otherSacl = .entries aces) ∨
      (otherSacl = .null ∧ dacl = .null ∧ ∃ aces, otherDacl = .entries aces ∧ sacl = .entries aces) := by
  cases sacl with
  | absent =>
    obtain rfl := same.mp rfl
    exact .inl ⟨rfl, spell_injective daclSound daclSoundToo sameToo equal⟩
  | null =>
    cases otherSacl with
    | absent => cases same.mpr rfl
    | null => exact .inl ⟨rfl, spell_injective daclSound daclSoundToo sameToo equal⟩
    | entries aces =>
      obtain ⟨rfl, rfl⟩ := entries_of_spell daclSound soundToo sameToo equal
      exact .inr (.inl ⟨rfl, rfl, aces, rfl, rfl⟩)
  | entries aces =>
    cases otherSacl with
    | absent => cases same.mpr rfl
    | null =>
      obtain ⟨rfl, rfl⟩ := entries_of_spell daclSoundToo sound sameToo.symm equal.symm
      exact .inr (.inr ⟨rfl, rfl, aces, rfl, rfl⟩)
    | entries others =>
      obtain ⟨rfl, rest⟩ := (entries_append_iff sound soundToo).mp equal
      exact .inl ⟨rfl, spell_injective daclSound daclSoundToo sameToo rest⟩

end

theorem spell_iff (sound : said.Sound) (soundToo : other.Sound) (hasOwner : said.owner = some owner)
    (hasGroup : said.group = some group) (hasOwnerToo : other.owner = some otherOwner)
    (hasGroupToo : other.group = some otherGroup) :
    said.spell owner group = other.spell otherOwner otherGroup ↔
      said = other ∨ Exchanged said other ∨ Exchanged other said := by
  constructor
  · intro equal
    rw [Contents.spell, Contents.spell, List.append_right_inj] at equal
    obtain ⟨revision, equal⟩ := List.append_inj equal (by rw [sound.revision, soundToo.revision])
    obtain ⟨control, equal⟩ := (littleEndian_append_iff sound.control soundToo.control).mp equal
    obtain ⟨owners, equal⟩ :=
      ((sound.owner _ hasOwner).append_iff (soundToo.owner _ hasOwnerToo)).mp equal
    obtain ⟨groups, equal⟩ :=
      ((sound.group _ hasGroup).append_iff (soundToo.group _ hasGroupToo)).mp equal
    have saclPresent := sound.saclPresent.trans (control ▸ soundToo.saclPresent.symm)
    have daclPresent := sound.daclPresent.trans (control ▸ soundToo.daclPresent.symm)
    have lists := lists_of_spell sound.sacl sound.dacl soundToo.sacl soundToo.dacl saclPresent
      daclPresent equal
    cases said
    cases other
    simp only at revision control hasOwner hasGroup hasOwnerToo hasGroupToo lists
    subst revision control owners groups hasOwner hasGroup hasOwnerToo hasGroupToo
    rcases lists with ⟨rfl, rfl⟩ | ⟨rfl, rfl, aces, rfl, rfl⟩ | ⟨rfl, rfl, aces, rfl, rfl⟩
    · exact .inl rfl
    · exact .inr (.inl ⟨rfl, ⟨aces, rfl⟩, rfl⟩)
    · exact .inr (.inr ⟨rfl, ⟨aces, rfl⟩, rfl⟩)
  · intro same
    have sids : other.owner = said.owner ∧ other.group = said.group := by
      rcases same with rfl | ⟨_, _, rfl⟩ | ⟨_, _, rfl⟩ <;> exact ⟨rfl, rfl⟩
    obtain rfl := Option.some.inj (hasOwnerToo.symm.trans (sids.1.trans hasOwner))
    obtain rfl := Option.some.inj (hasGroupToo.symm.trans (sids.2.trans hasGroup))
    rcases same with rfl | ⟨null, _, rfl⟩ | ⟨null, _, rfl⟩
    · rfl
    · simp [Contents.spell, AccessList.spell, null]
    · simp [Contents.spell, AccessList.spell, null]

theorem not_exchanged_self (said : Contents) : ¬ Exchanged said said := by
  rintro ⟨null, ⟨aces, listed⟩, same⟩
  have kept := congrArg Contents.sacl same
  rw [null, listed] at kept
  cases kept

/-- A descriptor that names an owner and a group. -/
def Contents.Owned (contents : Contents) : Prop :=
  contents.owner.isSome ∧ contents.group.isSome

theorem spelled_owned (formed : spelled descriptor = some form) :
    ∃ said, contents descriptor = some said ∧ (said.Owned → ∃ owner group,
      said.owner = some owner ∧ said.group = some group ∧ form = said.spell owner group) := by
  simp only [spelled, Option.bind_eq_bind, Option.bind_eq_some_iff, Option.pure_def,
    Option.some.injEq] at formed
  obtain ⟨said, read, owner, isOwner, group, isGroup, rfl⟩ := formed
  refine ⟨said, read, fun ⟨hasOwner, hasGroup⟩ => ⟨owner, group, ?_, ?_, rfl⟩⟩
  · obtain ⟨_, found⟩ := Option.isSome_iff_exists.mp hasOwner
    rw [found] at isOwner ⊢
    exact isOwner
  · obtain ⟨_, found⟩ := Option.isSome_iff_exists.mp hasGroup
    rw [found] at isGroup ⊢
    exact isGroup

/-- No index and no sum goes out of range. The form of descriptors that name an owner and a group
depends only on what they say, and it tells those apart that say different things unless their
lists are exchanged. -/
theorem canonical_form_tells_contents_apart (descriptor : Bytes) {first second form other : Bytes}
    (formed : canonicalSecurityDescriptor first = .ok form)
    (formedToo : canonicalSecurityDescriptor second = .ok other) :
    canonicalSecurityDescriptor descriptor ≠ .error .panic ∧
    ∃ said saidToo, contents first = some said ∧ contents second = some saidToo ∧
      (said.Owned → saidToo.Owned → (said = saidToo → form = other) ∧
        ((form = other ↔ said = saidToo) ↔ ¬ (Exchanged said saidToo ∨ Exchanged saidToo said))) := by
  constructor
  · rw [canonicalSecurityDescriptor_eq]
    cases spelled descriptor <;> simp [present]
  · rw [canonicalSecurityDescriptor_eq, present_eq_ok] at formed formedToo
    obtain ⟨said, read, spells⟩ := spelled_owned formed
    obtain ⟨saidToo, readToo, spellsToo⟩ := spelled_owned formedToo
    refine ⟨said, saidToo, read, readToo, fun owned ownedToo => ?_⟩
    obtain ⟨owner, group, hasOwner, hasGroup, rfl⟩ := spells owned
    obtain ⟨ownerToo, groupToo, hasOwnerToo, hasGroupToo, rfl⟩ := spellsToo ownedToo
    rw [spell_iff (contents_sound read) (contents_sound readToo) hasOwner hasGroup hasOwnerToo
      hasGroupToo]
    refine ⟨.inl, fun exact exchanged => ?_, or_iff_left⟩
    obtain rfl := exact.mp (.inr exchanged)
    exact not_exchanged_self said (or_self_iff.mp exchanged)

namespace Sample

/-- A descriptor with an owner, an empty access list at 28, and the offsets of its two lists. -/
def descriptor (sacl dacl : UInt8) : Bytes :=
  [1, 0, 0x0c, 0x80, 20, 0, 0, 0, 20, 0, 0, 0, sacl, 0, 0, 0, dacl, 0, 0, 0] ++
    [1, 0, 0, 0, 0, 0, 0, 5] ++ [2, 0, 8, 0, 0, 0, 0, 0]

end Sample

/-- A file that nobody may open and a file that everybody may change have the same form: the empty
discretionary list of the one is spelled like the empty system list of the other. -/
theorem null_list_is_ambiguous :
    equivalentSecurityDescriptors (Sample.descriptor 0 28) (Sample.descriptor 28 0) = .ok true ∧
    canonicalSecurityDescriptor (Sample.descriptor 0 28) =
      canonicalSecurityDescriptor (Sample.descriptor 28 0) ∧
    (canonicalSecurityDescriptor (Sample.descriptor 0 28)).isOk = true ∧
    (contents (Sample.descriptor 0 28)).map (fun said => (said.sacl, said.dacl)) =
      some (.null, .entries []) ∧
    (contents (Sample.descriptor 28 0)).map (fun said => (said.sacl, said.dacl)) =
      some (.entries [], .null) := by
  decide +kernel

namespace Sample

/-- A descriptor with the list before the owner. -/
def relaid : Bytes :=
  [1, 0, 0x0c, 0x80, 28, 0, 0, 0, 28, 0, 0, 0, 20, 0, 0, 0, 20, 0, 0, 0] ++
    [2, 0, 8, 0, 0, 0, 0, 0] ++ [1, 0, 0, 0, 0, 0, 0, 5]

/-- A descriptor without an owner, with an inheritance bit of its control word set or not. -/
def ownerless (inherited : UInt8) : Bytes :=
  [1, 0, 0x00, 0x80 + inherited, 0, 0, 0, 0, 20, 0, 0, 0, 0, 0, 0, 0, 0, 0, 0, 0] ++
    [1, 0, 0, 0, 0, 0, 0, 5]

end Sample

/-- Two layouts of the same sections say the same and have the same form. -/
theorem canonical_form_tells_sample_apart : ∃ form said,
    canonicalSecurityDescriptor (Sample.descriptor 28 28) = .ok form ∧
      canonicalSecurityDescriptor Sample.relaid = .ok form ∧
      contents (Sample.descriptor 28 28) = some said ∧ contents Sample.relaid = some said ∧
      Sample.descriptor 28 28 ≠ Sample.relaid := by
  obtain ⟨form, formed⟩ := exists_of_isOk
    (show (canonicalSecurityDescriptor (Sample.descriptor 28 28)).isOk = true by decide +kernel)
  obtain ⟨other, formedToo⟩ := exists_of_isOk
    (show (canonicalSecurityDescriptor Sample.relaid).isOk = true by decide +kernel)
  obtain ⟨_, said, saidToo, read, readToo, apart⟩ :=
    canonical_form_tells_contents_apart [] formed formedToo
  have same : contents (Sample.descriptor 28 28) = contents Sample.relaid := by decide +kernel
  obtain rfl := Option.some.inj (read.symm.trans (same.trans readToo))
  have owned : said.Owned := by
    have names : ((contents (Sample.descriptor 28 28)).all
      (fun said => said.owner.isSome && said.group.isSome)) = true := by decide +kernel
    simpa [read, Contents.Owned] using names
  obtain rfl := (apart owned owned).1 rfl
  exact ⟨form, said, formed, formedToo, read, readToo, by decide⟩

/-- Where the owner is missing, its place in the form has the control word with its inheritance
bits. -/
theorem missing_owner_spells_header :
    contents (Sample.ownerless 0) = contents (Sample.ownerless 4) ∧
    (canonicalSecurityDescriptor (Sample.ownerless 0)).isOk = true ∧
    equivalentSecurityDescriptors (Sample.ownerless 0) (Sample.ownerless 4) = .ok false := by
  decide +kernel

end ContextRelay.NativeFs
