import Mathlib.Tactic.Ring
import Taws.Buffers

/-!
# CBOR

Definite-length CBOR items with their preferred serialisation, and a decoder for them.

* `encode`, `decode` — the serialisation, and the decoder, which returns what follows the item.
* `decode_encode` — decoding the encoding of a well-sized item gives the item and what follows it.
-/

namespace Taws.Cbor

inductive Item where
  | unsigned (value : Nat)
  /-- The integer `-1 - value`. -/
  | negative (value : Nat)
  | bytes (data : Bytes)
  | text (data : Bytes)
  | array (items : List Item)
  | map (entries : List (Item × Item))

/-- The lowest `count` bytes of `value`, most significant first. -/
def bigEndian : Nat → Nat → Bytes
  | 0, _ => []
  | count + 1, value => UInt8.ofNat (value / 256 ^ count) :: bigEndian count value

def fromBigEndian (data : Bytes) : Nat := data.foldl (fun value byte => value * 256 + byte.toNat) 0

/-- The initial byte and the argument in as few bytes as possible. -/
def encodeHead (major argument : Nat) : Bytes :=
  if argument < 24 then [UInt8.ofNat (major * 32 + argument)]
  else if argument < 256 then UInt8.ofNat (major * 32 + 24) :: bigEndian 1 argument
  else if argument < 65536 then UInt8.ofNat (major * 32 + 25) :: bigEndian 2 argument
  else if argument < 4294967296 then UInt8.ofNat (major * 32 + 26) :: bigEndian 4 argument
  else UInt8.ofNat (major * 32 + 27) :: bigEndian 8 argument

mutual
def encode : Item → Bytes
  | .unsigned value => encodeHead 0 value
  | .negative value => encodeHead 1 value
  | .bytes data => encodeHead 2 data.length ++ data
  | .text data => encodeHead 3 data.length ++ data
  | .array items => encodeHead 4 items.length ++ encodeItems items
  | .map entries => encodeHead 5 entries.length ++ encodeEntries entries

def encodeItems : List Item → Bytes
  | [] => []
  | item :: items => encode item ++ encodeItems items

def encodeEntries : List (Item × Item) → Bytes
  | [] => []
  | (key, value) :: entries => encode key ++ (encode value ++ encodeEntries entries)
end

/-! ## Decoding -/

/-- The argument in the next `count` bytes. -/
def decodeArgument (major count : Nat) (input : Bytes) : Option (Nat × Nat × Bytes) :=
  if input.length < count then none
  else some (major, fromBigEndian (input.take count), input.drop count)

/-- The major type, the argument and the rest of the input. -/
def decodeHead : Bytes → Option (Nat × Nat × Bytes)
  | [] => none
  | initial :: input =>
    let major := initial.toNat / 32
    let info := initial.toNat % 32
    if info < 24 then some (major, info, input)
    else if info = 24 then decodeArgument major 1 input
    else if info = 25 then decodeArgument major 2 input
    else if info = 26 then decodeArgument major 4 input
    else if info = 27 then decodeArgument major 8 input
    else none

def decodeString (length : Nat) (input : Bytes) : Option (Bytes × Bytes) :=
  if input.length < length then none else some (input.take length, input.drop length)

/-- `count` values, one after the other. -/
def decodeMany {α : Type} (decoder : Bytes → Option (α × Bytes)) : Nat → Bytes → Option (List α × Bytes)
  | 0, input => some ([], input)
  | count + 1, input => do
    let (value, rest) ← decoder input
    let (values, rest) ← decodeMany decoder count rest
    some (value :: values, rest)

def decodePair {α : Type} (decoder : Bytes → Option (α × Bytes)) (input : Bytes) :
    Option ((α × α) × Bytes) := do
  let (key, rest) ← decoder input
  let (value, rest) ← decoder rest
  some ((key, value), rest)

/-- The first item and what follows it; `fuel` bounds the nesting depth. -/
def decodeItem : Nat → Bytes → Option (Item × Bytes)
  | 0, _ => none
  | fuel + 1, input =>
    match decodeHead input with
    | none => none
    | some (major, argument, rest) =>
      match major with
      | 0 => some (.unsigned argument, rest)
      | 1 => some (.negative argument, rest)
      | 2 => (decodeString argument rest).map fun (data, rest) => (.bytes data, rest)
      | 3 => (decodeString argument rest).map fun (data, rest) => (.text data, rest)
      | 4 => (decodeMany (decodeItem fuel) argument rest).map fun (items, rest) => (.array items, rest)
      | 5 => (decodeMany (decodePair (decodeItem fuel)) argument rest).map
          fun (entries, rest) => (.map entries, rest)
      | _ => none

/-- Every item is longer than its nesting depth, so the length of the input is enough fuel. -/
def decode (input : Bytes) : Option (Item × Bytes) := decodeItem input.length input

/-! ## Heads -/

theorem bigEndian_length (count value : Nat) : (bigEndian count value).length = count := by
  induction count with
  | zero => rfl
  | succ count inductionHypothesis => simp [bigEndian, inductionHypothesis]

theorem foldl_bigEndian (count value start : Nat) :
    (bigEndian count value).foldl (fun value byte => value * 256 + byte.toNat) start =
      start * 256 ^ count + value % 256 ^ count := by
  induction count generalizing start with
  | zero => simp [bigEndian, Nat.mod_one]
  | succ count inductionHypothesis =>
    have digit : value % 256 ^ (count + 1) = value / 256 ^ count % 256 * 256 ^ count + value % 256 ^ count := by
      rw [Nat.pow_succ, Nat.mod_mul, Nat.add_comm, Nat.mul_comm]
    have byte : (UInt8.ofNat (value / 256 ^ count)).toNat = value / 256 ^ count % 256 := by simp
    rw [bigEndian, List.foldl_cons, inductionHypothesis, byte, digit]
    ring

theorem fromBigEndian_bigEndian {count value : Nat} (bound : value < 256 ^ count) :
    fromBigEndian (bigEndian count value) = value := by
  simp [fromBigEndian, foldl_bigEndian, Nat.mod_eq_of_lt bound]

theorem decodeArgument_bigEndian {count value : Nat} (major : Nat) (bound : value < 256 ^ count)
    (rest : Bytes) : decodeArgument major count (bigEndian count value ++ rest) = some (major, value, rest) := by
  have length := bigEndian_length count value
  have notShort : ¬ (bigEndian count value ++ rest).length < count := by simp [length]
  rw [decodeArgument, if_neg notShort, List.take_left' length, List.drop_left' length,
    fromBigEndian_bigEndian bound]

theorem initial_toNat {major info : Nat} (majorBound : major < 8) (infoBound : info < 32) :
    (UInt8.ofNat (major * 32 + info)).toNat = major * 32 + info := by
  simp
  omega

theorem decodeHead_initial {major info : Nat} (majorBound : major < 8) (infoBound : info < 32)
    (input : Bytes) :
    decodeHead (UInt8.ofNat (major * 32 + info) :: input) =
      if info < 24 then some (major, info, input)
      else if info = 24 then decodeArgument major 1 input
      else if info = 25 then decodeArgument major 2 input
      else if info = 26 then decodeArgument major 4 input
      else if info = 27 then decodeArgument major 8 input
      else none := by
  have quotient : (major * 32 + info) / 32 = major := by omega
  have remainder : (major * 32 + info) % 32 = info := by omega
  simp only [decodeHead, initial_toNat majorBound infoBound, quotient, remainder]

theorem decodeHead_encodeHead {major argument : Nat} (majorBound : major < 8)
    (bound : argument < 2 ^ 64) (rest : Bytes) :
    decodeHead (encodeHead major argument ++ rest) = some (major, argument, rest) := by
  unfold encodeHead
  split
  · next small =>
    rw [List.cons_append, decodeHead_initial majorBound (by omega), if_pos small, List.nil_append]
  · split
    · next oneByte =>
      rw [List.cons_append, decodeHead_initial majorBound (by decide)]
      exact decodeArgument_bigEndian major (show argument < 256 ^ 1 by omega) rest
    · split
      · next twoBytes =>
        rw [List.cons_append, decodeHead_initial majorBound (by decide)]
        exact decodeArgument_bigEndian major (show argument < 256 ^ 2 by omega) rest
      · split
        · next fourBytes =>
          rw [List.cons_append, decodeHead_initial majorBound (by decide)]
          exact decodeArgument_bigEndian major (show argument < 256 ^ 4 by omega) rest
        · rw [List.cons_append, decodeHead_initial majorBound (by decide)]
          exact decodeArgument_bigEndian major (show argument < 256 ^ 8 by omega) rest

theorem encodeHead_length_pos (major argument : Nat) : 0 < (encodeHead major argument).length := by
  unfold encodeHead
  repeat' split
  all_goals simp

theorem encode_length_pos (item : Item) : 0 < (encode item).length := by
  have positive := encodeHead_length_pos
  cases item <;> simp only [encode, List.length_append] <;> grind

theorem decodeString_append {data rest : Bytes} :
    decodeString data.length (data ++ rest) = some (data, rest) := by
  simp [decodeString]

/-! ## Items -/

mutual
/-- Every length and every integer of the item fits the 64-bit argument of a head. -/
def Sized : Item → Prop
  | .unsigned value => value < 2 ^ 64
  | .negative value => value < 2 ^ 64
  | .bytes data => data.length < 2 ^ 64
  | .text data => data.length < 2 ^ 64
  | .array items => items.length < 2 ^ 64 ∧ SizedItems items
  | .map entries => entries.length < 2 ^ 64 ∧ SizedEntries entries

def SizedItems : List Item → Prop
  | [] => True
  | item :: items => Sized item ∧ SizedItems items

def SizedEntries : List (Item × Item) → Prop
  | [] => True
  | (key, value) :: entries => Sized key ∧ Sized value ∧ SizedEntries entries
end

mutual
theorem decodeItem_encode (item : Item) (sized : Sized item) (fuel : Nat)
    (enough : (encode item).length ≤ fuel) (rest : Bytes) :
    decodeItem fuel (encode item ++ rest) = some (item, rest) := by
  cases fuel with
  | zero =>
    have positive := encode_length_pos item
    omega
  | succ fuel =>
    cases item with
    | unsigned value =>
      simp only [encode, decodeItem, decodeHead_encodeHead (show 0 < 8 by decide) sized]
    | negative value =>
      simp only [encode, decodeItem, decodeHead_encodeHead (show 1 < 8 by decide) sized]
    | bytes data =>
      simp only [encode, decodeItem, List.append_assoc,
        decodeHead_encodeHead (show 2 < 8 by decide) sized, decodeString_append, Option.map_some]
    | text data =>
      simp only [encode, decodeItem, List.append_assoc,
        decodeHead_encodeHead (show 3 < 8 by decide) sized, decodeString_append, Option.map_some]
    | array items =>
      have inner : (encodeItems items).length ≤ fuel := by
        have := encodeHead_length_pos 4 items.length
        simp only [encode, List.length_append] at enough
        omega
      simp only [encode, decodeItem, List.append_assoc,
        decodeHead_encodeHead (show 4 < 8 by decide) sized.1,
        decodeMany_encodeItems items sized.2 fuel inner rest, Option.map_some]
    | map entries =>
      have inner : (encodeEntries entries).length ≤ fuel := by
        have := encodeHead_length_pos 5 entries.length
        simp only [encode, List.length_append] at enough
        omega
      simp only [encode, decodeItem, List.append_assoc,
        decodeHead_encodeHead (show 5 < 8 by decide) sized.1,
        decodeMany_encodeEntries entries sized.2 fuel inner rest, Option.map_some]
termination_by sizeOf item

theorem decodeMany_encodeItems (items : List Item) (sized : SizedItems items) (fuel : Nat)
    (enough : (encodeItems items).length ≤ fuel) (rest : Bytes) :
    decodeMany (decodeItem fuel) items.length (encodeItems items ++ rest) = some (items, rest) := by
  cases items with
  | nil => rfl
  | cons item items =>
    simp only [encodeItems, List.length_append] at enough
    have head := decodeItem_encode item sized.1 fuel (by omega) (encodeItems items ++ rest)
    have tail := decodeMany_encodeItems items sized.2 fuel (by omega) rest
    simp [encodeItems, decodeMany, head, tail]
termination_by sizeOf items

theorem decodeMany_encodeEntries (entries : List (Item × Item)) (sized : SizedEntries entries)
    (fuel : Nat) (enough : (encodeEntries entries).length ≤ fuel) (rest : Bytes) :
    decodeMany (decodePair (decodeItem fuel)) entries.length (encodeEntries entries ++ rest) =
      some (entries, rest) := by
  match entries, sized, enough with
  | [], _, _ => rfl
  | (key, value) :: entries, sized, enough =>
    simp only [encodeEntries, List.length_append] at enough
    have first := decodeItem_encode key sized.1 fuel (by omega)
      (encode value ++ (encodeEntries entries ++ rest))
    have second := decodeItem_encode value sized.2.1 fuel (by omega) (encodeEntries entries ++ rest)
    have tail := decodeMany_encodeEntries entries sized.2.2 fuel (by omega) rest
    simp [encodeEntries, decodeMany, decodePair, first, second, tail]
termination_by sizeOf entries
end

theorem decode_encode {item : Item} (sized : Sized item) (rest : Bytes) :
    decode (encode item ++ rest) = some (item, rest) :=
  decodeItem_encode item sized _ (by simp) rest

end Taws.Cbor
