import Taws.Buffers
import Mathlib.Data.List.TakeWhile
import Mathlib.Data.Nat.Digits.Lemmas

/-!
# Texts

Texts in UTF-8, as a command line takes them apart.  A byte at which a character begins never stands inside
another one, so a text can be searched for white space byte by byte, valid or not.

* `spaces`, `spaceAt` — the characters that are white space.
* `fields`, `trimSpace` — the words of a text, and the text without the white space around it.
* `lines` — the lines of a text.
* `toLower` — lower case, for comparison with ASCII words.
* `parseInt`, `decimal` — integer literals, and how a number is written as one.
-/

namespace Taws.Text

/-- A text that is written out. -/
def ofString (text : String) : Bytes := text.toUTF8.data.toList

/-! ## White space -/

/-- The white space characters. -/
def spaces : List Bytes :=
  [[0x09], [0x0a], [0x0b], [0x0c], [0x0d], [0x20], [0xc2, 0x85], [0xc2, 0xa0], [0xe1, 0x9a, 0x80]] ++
    ([0x80, 0x81, 0x82, 0x83, 0x84, 0x85, 0x86, 0x87, 0x88, 0x89, 0x8a, 0xa8, 0xa9, 0xaf].map fun last =>
      [0xe2, 0x80, last]) ++
    [[0xe2, 0x81, 0x9f], [0xe3, 0x80, 0x80]]

/-- The white space character that a text begins with. -/
def spaceAt (text : Bytes) : Option Bytes := spaces.find? fun space => space.isPrefixOf text

/-- A word that has been read, if there is one. -/
def flush (word : Bytes) : List Bytes := if word = [] then [] else [word]

/-- `word` has been read so far; `skip` bytes of a white space character are left. -/
def fieldsFrom (word : Bytes) (skip : Nat) : Bytes → List Bytes
  | [] => flush word
  | byte :: text =>
    match skip with
    | left + 1 => fieldsFrom word left text
    | 0 =>
      match spaceAt (byte :: text) with
      | none => fieldsFrom (word ++ [byte]) 0 text
      | some space => flush word ++ fieldsFrom [] (space.length - 1) text

/-- The words between the white space. -/
def fields (text : Bytes) : List Bytes := fieldsFrom [] 0 text

def trimLeftFrom (skip : Nat) : Bytes → Bytes
  | [] => []
  | byte :: text =>
    match skip with
    | left + 1 => trimLeftFrom left text
    | 0 =>
      match spaceAt (byte :: text) with
      | none => byte :: text
      | some space => trimLeftFrom (space.length - 1) text

def trimLeft (text : Bytes) : Bytes := trimLeftFrom 0 text

def trimRight : Bytes → Bytes
  | [] => []
  | byte :: text => if trimLeft (byte :: text) = [] then [] else byte :: trimRight text

def trimSpace (text : Bytes) : Bytes := trimRight (trimLeft text)

theorem spaces_ne_nil : ∀ space ∈ spaces, space ≠ [] := by decide

/-- No white space begins with the byte. -/
def Solid (byte : UInt8) : Prop := ∀ space ∈ spaces, space.head? ≠ some byte

instance (byte : UInt8) : Decidable (Solid byte) :=
  inferInstanceAs (Decidable (∀ space ∈ spaces, space.head? ≠ some byte))

/-- The bytes of a white space character beyond its first one begin none. -/
theorem spaces_tail : ∀ space ∈ spaces, ∀ byte ∈ space.tail, Solid byte := by decide +kernel

/-- One that is longer than a byte has no byte that is one by itself. -/
theorem spaces_blank : ∀ space ∈ spaces, 0x20 ∉ space.tail := by decide

/-- No white space character is the beginning of another one. -/
theorem spaces_apart : ∀ space ∈ spaces, ∀ other ∈ spaces, space <+: other → space = other := by decide

theorem spaceAt_some {text space : Bytes} (found : spaceAt text = some space) :
    space ∈ spaces ∧ ∃ rest, text = space ++ rest := by
  rw [spaceAt] at found
  have isPrefix := List.find?_some found
  obtain ⟨rest, same⟩ := List.isPrefixOf_iff_prefix.mp isPrefix
  exact ⟨List.mem_of_find?_eq_some found, rest, same.symm⟩

theorem spaceAt_eq_none {text : Bytes} : spaceAt text = none ↔ ∀ space ∈ spaces, ¬ space <+: text := by
  simp only [spaceAt, List.find?_eq_none, List.isPrefixOf_iff_prefix]

theorem spaceAt_space {space : Bytes} (member : space ∈ spaces) (rest : Bytes) :
    spaceAt (space ++ rest) = some space := by
  cases found : spaceAt (space ++ rest) with
  | none => exact absurd (List.prefix_append space rest) (spaceAt_eq_none.mp found space member)
  | some other =>
    obtain ⟨otherMember, otherRest, same⟩ := spaceAt_some found
    have isPrefix : other <+: space ++ rest := ⟨otherRest, same.symm⟩
    cases List.prefix_or_prefix_of_prefix isPrefix (List.prefix_append space rest) with
    | inl shorter => rw [spaces_apart other otherMember space member shorter]
    | inr longer => rw [spaces_apart space member other otherMember longer]

theorem spaceAt_solid {byte : UInt8} (solid : Solid byte) (text : Bytes) : spaceAt (byte :: text) = none := by
  rw [spaceAt_eq_none]
  rintro space member ⟨more, same⟩
  cases space with
  | nil => exact spaces_ne_nil _ member rfl
  | cons first space =>
    apply solid _ member
    rw [List.head?_cons, (List.cons.inj same).1]

/-- The beginning of a text begins with no white space if the text does not. -/
theorem spaceAt_shorter {text longer : Bytes} (shorter : text <+: longer) (absent : spaceAt longer = none) :
    spaceAt text = none := by
  rw [spaceAt_eq_none] at absent ⊢
  intro space member isPrefix
  exact absent space member (isPrefix.trans shorter)

theorem fieldsFrom_skip (word skipped rest : Bytes) :
    fieldsFrom word skipped.length (skipped ++ rest) = fieldsFrom word 0 rest := by
  induction skipped with
  | nil => rfl
  | cons byte skipped inductionHypothesis => exact inductionHypothesis

theorem fieldsFrom_space {space : Bytes} (member : space ∈ spaces) (word rest : Bytes) :
    fieldsFrom word 0 (space ++ rest) = flush word ++ fieldsFrom [] 0 rest := by
  have found := spaceAt_space member rest
  cases space with
  | nil => exact absurd rfl (spaces_ne_nil _ member)
  | cons byte tail =>
    rw [List.cons_append] at found ⊢
    rw [fieldsFrom, found]
    exact congrArg (flush word ++ ·) (fieldsFrom_skip [] tail rest)

theorem trimLeftFrom_skip (skipped rest : Bytes) :
    trimLeftFrom skipped.length (skipped ++ rest) = trimLeft rest := by
  induction skipped with
  | nil => rfl
  | cons byte skipped inductionHypothesis => exact inductionHypothesis

theorem trimLeft_space {space : Bytes} (member : space ∈ spaces) (rest : Bytes) :
    trimLeft (space ++ rest) = trimLeft rest := by
  have found := spaceAt_space member rest
  cases space with
  | nil => exact absurd rfl (spaces_ne_nil _ member)
  | cons byte tail =>
    rw [List.cons_append] at found ⊢
    rw [trimLeft, trimLeftFrom, found]
    exact trimLeftFrom_skip tail rest

theorem trimLeft_solid {byte : UInt8} {text : Bytes} (absent : spaceAt (byte :: text) = none) :
    trimLeft (byte :: text) = byte :: text := by
  rw [trimLeft, trimLeftFrom, absent]

/-! ## Words -/

/-- Without white space. -/
def Unspaced (text : Bytes) : Prop := ∀ rest, rest <:+ text → spaceAt rest = none

instance (text : Bytes) : Decidable (Unspaced text) :=
  decidable_of_iff (∀ rest ∈ text.tails, spaceAt rest = none) (by simp [Unspaced])

theorem Unspaced.tail {byte : UInt8} {text : Bytes} (unspaced : Unspaced (byte :: text)) : Unspaced text :=
  fun rest isSuffix => unspaced rest (isSuffix.trans (List.suffix_cons byte text))

/-- Bytes that begin no white space can stand before a text. -/
theorem Unspaced.append {first text : Bytes} (solid : ∀ byte ∈ first, Solid byte) (unspaced : Unspaced text) :
    Unspaced (first ++ text) := by
  induction first with
  | nil => exact unspaced
  | cons byte first inductionHypothesis =>
    rw [List.forall_mem_cons] at solid
    intro rest isSuffix
    cases List.suffix_cons_iff.mp isSuffix with
    | inl whole =>
      rw [whole]
      exact spaceAt_solid solid.1 _
    | inr shorter => exact inductionHypothesis solid.2 rest shorter

/-- A byte that is a white space character is not in a text without white space. -/
theorem Unspaced.notMem {byte : UInt8} {text : Bytes} (blank : [byte] ∈ spaces) (unspaced : Unspaced text) :
    byte ∉ text := by
  intro member
  obtain ⟨before, after, rfl⟩ := List.append_of_mem member
  have absent := unspaced (byte :: after) (List.suffix_append before _)
  rw [← List.singleton_append, spaceAt_space blank] at absent
  cases absent

/-- A blank ends a word, and is not part of a longer white space character. -/
theorem spaceAt_blank {text rest : Bytes} (notEmpty : text ≠ []) (absent : spaceAt text = none) :
    spaceAt (text ++ 0x20 :: rest) = none := by
  rw [spaceAt_eq_none] at absent ⊢
  intro space member isPrefix
  by_cases fits : space.length ≤ text.length
  · exact absent space member (List.prefix_of_prefix_length_le isPrefix (List.prefix_append _ _) fits)
  · obtain ⟨more, same⟩ : text ++ [0x20] <+: space := by
      refine List.prefix_of_prefix_length_le ?_ isPrefix (by simpa using fits)
      rw [show text ++ 0x20 :: rest = (text ++ [0x20]) ++ rest by simp]
      exact List.prefix_append _ _
    apply spaces_blank space member
    rw [← same]
    cases text with
    | nil => exact absurd rfl notEmpty
    | cons byte text => simp

theorem flush_word {word : Bytes} (notEmpty : word ≠ []) : flush word = [word] := if_neg notEmpty

theorem fieldsFrom_word {word text : Bytes} (unspaced : Unspaced text) :
    fieldsFrom word 0 text = flush (word ++ text) := by
  induction text generalizing word with
  | nil => rw [List.append_nil]; rfl
  | cons byte text inductionHypothesis =>
    rw [fieldsFrom, unspaced _ List.suffix_rfl]
    simp only [inductionHypothesis unspaced.tail, List.append_assoc, List.singleton_append]

theorem fieldsFrom_blank {word text rest : Bytes} (unspaced : Unspaced text) :
    fieldsFrom word 0 (text ++ 0x20 :: rest) = flush (word ++ text) ++ fieldsFrom [] 0 rest := by
  induction text generalizing word with
  | nil =>
    have blank : [0x20] ∈ spaces := by decide
    rw [List.append_nil]
    exact fieldsFrom_space blank word rest
  | cons byte text inductionHypothesis =>
    have absent : spaceAt (byte :: text ++ 0x20 :: rest) = none :=
      spaceAt_blank (List.cons_ne_nil _ _) (unspaced _ List.suffix_rfl)
    rw [List.cons_append] at absent
    rw [List.cons_append, fieldsFrom, absent]
    simp only [inductionHypothesis unspaced.tail, List.append_assoc, List.singleton_append]

/-- Words with a blank between them. -/
def joinWords : List Bytes → Bytes
  | [] => []
  | [word] => word
  | word :: next :: words => word ++ 0x20 :: joinWords (next :: words)

theorem mem_joinWords {byte : UInt8} {words : List Bytes} (member : byte ∈ joinWords words) :
    byte = 0x20 ∨ ∃ word ∈ words, byte ∈ word := by
  induction words with
  | nil => cases member
  | cons word words inductionHypothesis =>
    cases words with
    | nil => exact .inr ⟨word, List.mem_singleton_self _, member⟩
    | cons next words =>
      rw [joinWords, List.mem_append, List.mem_cons] at member
      obtain inWord | isBlank | later := member
      · exact .inr ⟨word, List.mem_cons_self, inWord⟩
      · exact .inl isBlank
      · exact (inductionHypothesis later).imp id fun ⟨other, isWord, inOther⟩ =>
          ⟨other, List.mem_cons_of_mem _ isWord, inOther⟩

theorem fields_joinWords {words : List Bytes} (each : ∀ word ∈ words, word ≠ [] ∧ Unspaced word) :
    fields (joinWords words) = words := by
  induction words with
  | nil => rfl
  | cons word words inductionHypothesis =>
    rw [List.forall_mem_cons] at each
    obtain ⟨⟨notEmpty, unspaced⟩, later⟩ := each
    cases words with
    | nil => rw [joinWords, fields, fieldsFrom_word unspaced, List.nil_append, flush_word notEmpty]
    | cons next words =>
      have rest : fieldsFrom [] 0 (joinWords (next :: words)) = next :: words := inductionHypothesis later
      rw [joinWords, fields, fieldsFrom_blank unspaced, List.nil_append, flush_word notEmpty, rest]
      rfl

/-! ## Trimming -/

theorem trimRight_begins (text : Bytes) : trimRight text <+: text := by
  induction text with
  | nil => exact List.prefix_rfl
  | cons byte text inductionHypothesis =>
    rw [trimRight]
    split
    · exact List.nil_prefix
    · exact (List.prefix_cons_inj byte).mpr inductionHypothesis

/-- The bytes of a white space character beyond its first one stay if they have not been trimmed with it. -/
theorem trimRight_tail {tail : Bytes} (solid : ∀ byte ∈ tail, Solid byte) (rest : Bytes) :
    trimRight (tail ++ rest) = tail ++ trimRight rest := by
  induction tail with
  | nil => rfl
  | cons byte tail inductionHypothesis =>
    rw [List.forall_mem_cons] at solid
    rw [List.cons_append, trimRight, trimLeft_solid (spaceAt_solid solid.1 _), if_neg (List.cons_ne_nil _ _),
      inductionHypothesis solid.2]
    rfl

/-- Induction over a text, which begins with white space or with another byte. -/
theorem text_induction {motive : Bytes → Prop} (nil : motive [])
    (space : ∀ space ∈ spaces, ∀ rest, motive rest → motive (space ++ rest))
    (solid : ∀ byte rest, spaceAt (byte :: rest) = none → motive rest → motive (byte :: rest)) (text : Bytes) :
    motive text := by
  induction size : text.length using Nat.strong_induction_on generalizing text with
  | _ length inductionHypothesis =>
    cases text with
    | nil => exact nil
    | cons byte rest =>
      cases found : spaceAt (byte :: rest) with
      | none => exact solid byte rest found (inductionHypothesis rest.length (by simp [← size]) rest rfl)
      | some character =>
        obtain ⟨member, left, same⟩ := spaceAt_some found
        have positive := List.length_pos_of_ne_nil (spaces_ne_nil _ member)
        rw [same, List.length_append] at size
        rw [same]
        exact space character member left (inductionHypothesis left.length (by omega) left rfl)

theorem fieldsFrom_trimLeft (text : Bytes) : fieldsFrom [] 0 (trimLeft text) = fieldsFrom [] 0 text := by
  induction text using text_induction with
  | nil => rfl
  | space space member rest inductionHypothesis =>
    rw [trimLeft_space member, fieldsFrom_space member, inductionHypothesis]
    rfl
  | solid byte rest absent inductionHypothesis => rw [trimLeft_solid absent]

theorem fieldsFrom_trimRight (word text : Bytes) : fieldsFrom word 0 (trimRight text) = fieldsFrom word 0 text := by
  induction text using text_induction generalizing word with
  | nil => rfl
  | space space member rest inductionHypothesis =>
    cases space with
    | nil => exact absurd rfl (spaces_ne_nil _ member)
    | cons byte tail =>
      have tailStays := trimRight_tail (spaces_tail _ member) rest
      rw [List.tail_cons] at tailStays
      rw [fieldsFrom_space member, ← inductionHypothesis [], List.cons_append, trimRight, tailStays]
      split
      · next blank =>
        -- only white space is left, with no word in it
        rw [← List.cons_append, trimLeft_space member] at blank
        have noWords := fieldsFrom_trimLeft rest
        rw [blank] at noWords
        rw [inductionHypothesis [], ← noWords]
        exact (List.append_nil _).symm
      · exact fieldsFrom_space member word (trimRight rest)
  | solid byte rest absent inductionHypothesis =>
    have kept : trimRight (byte :: rest) = byte :: trimRight rest := by
      rw [trimRight, trimLeft_solid absent, if_neg (List.cons_ne_nil _ _)]
    have stillAbsent : spaceAt (byte :: trimRight rest) = none :=
      spaceAt_shorter ((List.prefix_cons_inj byte).mpr (trimRight_begins rest)) absent
    rw [kept, fieldsFrom, fieldsFrom, absent, stillAbsent]
    exact inductionHypothesis (word ++ [byte])

theorem fields_trimSpace (text : Bytes) : fields (trimSpace text) = fields text := by
  rw [fields, trimSpace, fieldsFrom_trimRight, fieldsFrom_trimLeft]
  rfl

theorem fieldsFrom_ne_nil {word : Bytes} (begun : word ≠ []) (text : Bytes) : fieldsFrom word 0 text ≠ [] := by
  induction text generalizing word with
  | nil => simp [fieldsFrom, flush, begun]
  | cons byte text inductionHypothesis =>
    rw [fieldsFrom]
    cases spaceAt (byte :: text) with
    | none => exact inductionHypothesis (List.append_ne_nil_of_right_ne_nil word (List.cons_ne_nil _ _))
    | some space => simp [flush, begun]

/-- A text that is not blank has a first word. -/
theorem fieldsFrom_of_trimLeft {text : Bytes} (notBlank : trimLeft text ≠ []) : fieldsFrom [] 0 text ≠ [] := by
  induction text using text_induction with
  | nil => exact absurd rfl notBlank
  | space space member rest inductionHypothesis =>
    rw [trimLeft_space member] at notBlank
    rw [fieldsFrom_space member]
    exact inductionHypothesis notBlank
  | solid byte rest absent inductionHypothesis =>
    rw [fieldsFrom, absent]
    exact fieldsFrom_ne_nil (List.cons_ne_nil _ _) rest

theorem fields_ne_nil {text : Bytes} (left : trimSpace text ≠ []) : fields text ≠ [] := by
  apply fieldsFrom_of_trimLeft
  intro blank
  rw [trimSpace, blank] at left
  exact left rfl

/-! ## Lines -/

def linesFrom (line : Bytes) : Bytes → List Bytes
  | [] => flush line
  | byte :: text => if byte = 0x0a then line :: linesFrom [] text else linesFrom (line ++ [byte]) text

def dropCr (line : Bytes) : Bytes := if line.getLast? = some 0x0d then line.dropLast else line

/-- The lines of a text, up to the first one that does not fit into a buffer of `size` bytes; whether there is
such a line. -/
def scanLines (size : Nat) (text : Bytes) : List Bytes × Bool :=
  let all := linesFrom [] text
  ((all.takeWhile fun line => line.length < size).map dropCr, all.any fun line => size ≤ line.length)

/-- Lines with their ends. -/
def joinLines (lines : List Bytes) : Bytes := lines.flatMap fun line => line ++ [0x0a]

theorem linesFrom_line {line text : Bytes} (rest : Bytes) (oneLine : 0x0a ∉ text) :
    linesFrom line (text ++ 0x0a :: rest) = (line ++ text) :: linesFrom [] rest := by
  induction text generalizing line with
  | nil => rw [List.nil_append, linesFrom, if_pos rfl, List.append_nil]
  | cons byte text inductionHypothesis =>
    rw [List.mem_cons, not_or] at oneLine
    rw [List.cons_append, linesFrom, if_neg (Ne.symm oneLine.1), inductionHypothesis oneLine.2, List.append_assoc]
    rfl

theorem linesFrom_joinLines {lines : List Bytes} (each : ∀ line ∈ lines, 0x0a ∉ line) :
    linesFrom [] (joinLines lines) = lines := by
  induction lines with
  | nil => rfl
  | cons line lines inductionHypothesis =>
    rw [List.forall_mem_cons] at each
    have split : joinLines (line :: lines) = line ++ 0x0a :: joinLines lines := by
      rw [joinLines, List.flatMap_cons, List.append_assoc]
      rfl
    rw [split, linesFrom_line _ each.1, List.nil_append, inductionHypothesis each.2]

theorem scanLines_joinLines {size : Nat} {lines : List Bytes}
    (each : ∀ line ∈ lines, 0x0a ∉ line ∧ line.getLast? ≠ some 0x0d ∧ line.length < size) :
    scanLines size (joinLines lines) = (lines, false) := by
  have whole : linesFrom [] (joinLines lines) = lines := linesFrom_joinLines fun line member => (each line member).1
  have fit : lines.takeWhile (fun line => line.length < size) = lines := by
    rw [List.takeWhile_eq_self_iff]
    exact fun line member => decide_eq_true (each line member).2.2
  have same : lines.map dropCr = lines := by
    rw [List.map_congr_left (g := id), List.map_id]
    exact fun line member => if_neg (each line member).2.1
  rw [scanLines, whole]
  refine Prod.ext ?_ ?_
  · rw [fit, same]
  · rw [List.any_eq_false]
    intro line member
    simpa using (each line member).2.2

/-! ## Lower case -/

/-- Lower case.  Beside the ASCII letters, K (the sign of the kelvin) and İ have an ASCII letter as their lower case;
other characters stay as they are. -/
def toLower : Bytes → Bytes
  | [] => []
  | 0xc4 :: 0xb0 :: text => 0x69 :: toLower text
  | 0xe2 :: 0x84 :: 0xaa :: text => 0x6b :: toLower text
  | byte :: text => (if 0x41 ≤ byte ∧ byte ≤ 0x5a then byte + 0x20 else byte) :: toLower text

/-! ## Integers -/

def lower (byte : UInt8) : UInt8 := byte ||| 0x20

def digitValue (byte : UInt8) : Option Nat :=
  if 0x30 ≤ byte ∧ byte ≤ 0x39 then some (byte.toNat - 0x30)
  else if 0x61 ≤ lower byte ∧ lower byte ≤ 0x7a then some ((lower byte).toNat - 0x61 + 10)
  else none

/-- The base that the prefix of a literal says, and the digits. -/
def basePrefix : Bytes → Nat × Bytes
  | 0x30 :: letter :: digits =>
    if digits ≠ [] ∧ lower letter = 0x62 then (2, digits)
    else if digits ≠ [] ∧ lower letter = 0x6f then (8, digits)
    else if digits ≠ [] ∧ lower letter = 0x78 then (16, digits)
    else (8, letter :: digits)
  | [0x30] => (8, [])
  | digits => (10, digits)

/-- One more digit, or an underscore. -/
def addDigit (base : Nat) (value : Nat) (byte : UInt8) : Option Nat :=
  if byte = 0x5f then some value
  else (digitValue byte).bind fun digit => if digit < base then some (value * base + digit) else none

/-- What `underscoreOK` has seen last. -/
inductive Saw where
  | beginning
  | digit
  | underscore
  | other
  deriving DecidableEq

def underscoreOkFrom (hex : Bool) (saw : Saw) : Bytes → Bool
  | [] => saw ≠ .underscore
  | byte :: text =>
    if (0x30 ≤ byte && byte ≤ 0x39) || (hex && (0x61 ≤ lower byte && lower byte ≤ 0x66)) then
      underscoreOkFrom hex .digit text
    else if byte = 0x5f then saw = .digit && underscoreOkFrom hex .underscore text
    else saw ≠ .underscore && underscoreOkFrom hex .other text

/-- Every underscore stands between digits, as which the prefix counts. -/
def underscoreOk : Bytes → Bool
  | 0x30 :: letter :: text =>
    if lower letter = 0x62 ∨ lower letter = 0x6f ∨ lower letter = 0x78 then
      underscoreOkFrom (lower letter = 0x78) .digit text
    else underscoreOkFrom false .beginning (0x30 :: letter :: text)
  | text => underscoreOkFrom false .beginning text

/-- `strconv.ParseUint` with base 0, without the limit of the size. -/
def parseUint (text : Bytes) : Option Nat :=
  if text = [] then none
  else
    ((basePrefix text).2.foldlM (addDigit (basePrefix text).1) 0).filter fun _ =>
      !(0x5f ∈ (basePrefix text).2) || underscoreOk text

/-- `strconv.ParseInt` with base 0 and 64 bits; `none` for an error. -/
def parseInt : Bytes → Option Int
  | 0x2d :: text => (parseUint text).bind fun value => if value ≤ 2 ^ 63 then some (-value) else none
  | 0x2b :: text => (parseUint text).bind fun value => if value < 2 ^ 63 then some value else none
  | text => (parseUint text).bind fun value => if value < 2 ^ 63 then some value else none

/-- A number in decimal digits. -/
def decimalNat (value : Nat) : Bytes :=
  if value = 0 then [0x30] else (Nat.digits 10 value).reverse.map fun digit => UInt8.ofNat (0x30 + digit)

def decimal : Int → Bytes
  | .ofNat value => decimalNat value
  | .negSucc value => 0x2d :: decimalNat (value + 1)

theorem digit_byte : ∀ digit < 10, digitValue (UInt8.ofNat (0x30 + digit)) = some digit ∧
    UInt8.ofNat (0x30 + digit) ∉ [0x2b, 0x2d, 0x5f] ∧
    (UInt8.ofNat (0x30 + digit) = 0x30 → digit = 0) := by decide

theorem addDigit_byte (value : Nat) {digit : Nat} (isDigit : digit < 10) :
    addDigit 10 value (UInt8.ofNat (0x30 + digit)) = some (value * 10 + digit) := by
  obtain ⟨isValue, others, _⟩ := digit_byte digit isDigit
  have noUnderscore : UInt8.ofNat (0x30 + digit) ≠ 0x5f := fun same => others (by simp [same])
  rw [addDigit, if_neg noUnderscore, isValue, Option.bind_some, if_pos isDigit]

theorem foldlM_addDigit {digits : List Nat} (areDigits : ∀ digit ∈ digits, digit < 10) (value : Nat) :
    (digits.map fun digit => UInt8.ofNat (0x30 + digit)).foldlM (addDigit 10) value =
      some (digits.foldl (fun value digit => value * 10 + digit) value) := by
  induction digits generalizing value with
  | nil => rfl
  | cons digit digits inductionHypothesis =>
    rw [List.forall_mem_cons] at areDigits
    rw [List.map_cons, List.foldlM_cons, addDigit_byte value areDigits.1]
    exact inductionHypothesis areDigits.2 _

theorem foldl_digits (value : Nat) :
    (Nat.digits 10 value).reverse.foldl (fun value digit => value * 10 + digit) 0 = value := by
  have reads := Nat.ofDigits_digits 10 value
  rw [Nat.ofDigits_eq_foldr] at reads
  rw [List.foldl_reverse]
  refine Eq.trans ?_ reads
  congr 1
  funext digit value
  rw [Nat.mul_comm, Nat.add_comm]
  rfl

/-- The digits, the first of which is not 0. -/
theorem decimalNat_pos {value : Nat} (positive : value ≠ 0) :
    ∃ digit digits, (Nat.digits 10 value).reverse = digit :: digits ∧ digit ≠ 0 ∧
      ∀ other ∈ digit :: digits, other < 10 := by
  have notEmpty : Nat.digits 10 value ≠ [] := Nat.digits_ne_nil_iff_ne_zero.mpr positive
  have isLast := List.head_reverse (List.reverse_ne_nil_iff.mpr notEmpty)
  have notZero := Nat.getLast_digit_ne_zero 10 positive
  have areDigits : ∀ other ∈ (Nat.digits 10 value).reverse, other < 10 :=
    fun other member => Nat.digits_lt_base (by decide) (List.mem_reverse.mp member)
  cases isDigits : (Nat.digits 10 value).reverse with
  | nil => exact absurd (List.reverse_eq_nil_iff.mp isDigits) notEmpty
  | cons digit digits =>
    rw [isDigits] at areDigits
    refine ⟨digit, digits, rfl, ?_, areDigits⟩
    simp only [isDigits, List.head_cons] at isLast
    rwa [isLast]

theorem basePrefix_decimal {first : UInt8} (notZero : first ≠ 0x30) (text : Bytes) :
    basePrefix (first :: text) = (10, first :: text) := by
  unfold basePrefix
  split
  · next same => exact absurd (List.cons.inj same).1 notZero
  · next same => exact absurd (List.cons.inj same).1 notZero
  · rfl

theorem parseUint_decimalNat (value : Nat) : parseUint (decimalNat value) = some value := by
  by_cases isZero : value = 0
  · rw [isZero]
    decide
  obtain ⟨digit, digits, isDigits, notZero, areDigits⟩ := decimalNat_pos isZero
  have read := foldl_digits value
  have noUnderscore : 0x5f ∉ (digit :: digits).map fun digit => UInt8.ofNat (0x30 + digit) := by
    intro member
    obtain ⟨other, isOther, same⟩ := List.mem_map.mp member
    exact (digit_byte other (areDigits other isOther)).2.1 (by simp [same])
  have firstByte : UInt8.ofNat (0x30 + digit) ≠ 0x30 := by
    intro same
    exact notZero ((digit_byte digit (areDigits digit List.mem_cons_self)).2.2 same)
  have fold := foldlM_addDigit areDigits 0
  rw [isDigits] at read
  rw [read] at fold
  rw [decimalNat, if_neg isZero, isDigits]
  rw [List.map_cons] at fold noUnderscore ⊢
  rw [parseUint, if_neg (List.cons_ne_nil _ _), basePrefix_decimal firstByte, fold, Option.filter_some,
    decide_eq_false noUnderscore]
  rfl

/-- The first byte of a number without a sign is no sign. -/
theorem decimalNat_head (value : Nat) : ∃ first text, decimalNat value = first :: text ∧ first ≠ 0x2d ∧ first ≠ 0x2b := by
  by_cases isZero : value = 0
  · exact ⟨0x30, [], by rw [decimalNat, if_pos isZero], by decide, by decide⟩
  · obtain ⟨digit, digits, isDigits, _, areDigits⟩ := decimalNat_pos isZero
    have others := (digit_byte digit (areDigits digit List.mem_cons_self)).2.1
    refine ⟨UInt8.ofNat (0x30 + digit), digits.map fun digit => UInt8.ofNat (0x30 + digit), ?_, ?_, ?_⟩
    · rw [decimalNat, if_neg isZero, isDigits, List.map_cons]
    · exact fun same => others (by simp [same])
    · exact fun same => others (by simp [same])

theorem digit_solid : ∀ digit < 10, Solid (UInt8.ofNat (0x30 + digit)) := by decide +kernel

theorem decimalNat_solid (value : Nat) : ∀ byte ∈ decimalNat value, Solid byte := by
  intro byte member
  rw [decimalNat] at member
  split at member
  · rw [List.mem_singleton.mp member]
    decide
  · obtain ⟨digit, isDigit, rfl⟩ := List.mem_map.mp member
    exact digit_solid digit (Nat.digits_lt_base (by decide) (List.mem_reverse.mp isDigit))

/-- There is no white space in a number. -/
theorem decimal_unspaced (value : Int) : Unspaced (decimal value) := by
  have solid : ∀ byte ∈ decimal value, Solid byte := by
    cases value with
    | ofNat value => exact decimalNat_solid value
    | negSucc value => exact List.forall_mem_cons.mpr ⟨by decide, decimalNat_solid (value + 1)⟩
  have empty : Unspaced [] := by decide
  have unspaced := Unspaced.append solid empty
  rwa [List.append_nil] at unspaced

/-- A number that fits in 64 bits is read as it was written. -/
theorem parseInt_decimal {value : Int} (least : -2 ^ 63 ≤ value) (greatest : value < 2 ^ 63) :
    parseInt (decimal value) = some value := by
  cases value with
  | ofNat value =>
    obtain ⟨first, text, same, noMinus, noPlus⟩ := decimalNat_head value
    have read := parseUint_decimalNat value
    rw [decimal, same]
    rw [same] at read
    have fits : value < 2 ^ 63 := by
      rw [Int.ofNat_eq_natCast] at greatest
      omega
    unfold parseInt
    split
    · next isMinus => exact absurd (List.cons.inj isMinus).1 noMinus
    · next isPlus => exact absurd (List.cons.inj isPlus).1 noPlus
    · rw [read, Option.bind_some, if_pos fits]
      rfl
  | negSucc value =>
    have fits : value + 1 ≤ 2 ^ 63 := by
      rw [Int.negSucc_eq] at least
      omega
    rw [decimal, parseInt, parseUint_decimalNat, Option.bind_some, if_pos fits, Int.negSucc_eq]
    push_cast
    rfl

end Taws.Text
