import StoreSaas.Schema.CatalogueStatements

/-! # What Postgres reads as a UUID

The `:id` of a route reaches a `uuid` column as text.  Postgres takes the digits in either
case, with braces around them or without, and a hyphen after any group of four digits or
not; what it gives back is the text form of `Uuid.text`, which is one of these.
-/

namespace StoreSaas.Uuid

def hexValue (letter : Char) : Option Nat :=
  let value := "0123456789abcdef".toList.idxOf letter.toLower
  if value < 16 then some value else none

/-- So many digits after what has been read. -/
def readDigits : Nat → Nat → List Char → Option (Nat × List Char)
  | 0, read, rest => some (read, rest)
  | _ + 1, _, [] => none
  | count + 1, read, letter :: rest => (hexValue letter).bind fun value => readDigits count (16 * read + value) rest

def skipHyphen : List Char → List Char
  | '-' :: rest => rest
  | rest => rest

/-- So many groups of four digits and one more, with hyphens between them or not. -/
def readGroups : Nat → Nat → List Char → Option (Nat × List Char)
  | 0, read, rest => readDigits 4 read rest
  | groups + 1, read, rest => (readDigits 4 read rest).bind fun group => readGroups groups group.1 (skipHyphen group.2)

def ofChars (letters : List Char) : RouteId :=
  let inBraces := letters.head? = some '\x7b'
  (readGroups 7 0 (if inBraces then letters.tail else letters)).bind fun read =>
    if read.2 = (if inBraces then ['\x7d'] else []) then some (BitVec.ofNat 128 read.1) else none

def ofText (text : String) : RouteId := ofChars text.toList

/-! ## The text form -/

theorem hexValue_hexDigit {digit : Nat} (small : digit < 16) : hexValue (hexDigit digit) = some digit := by
  have all : ∀ digit < 16, hexValue (hexDigit digit) = some digit := by decide
  exact all digit small

theorem hexDigit_ne_hyphen {digit : Nat} (small : digit < 16) : hexDigit digit ≠ '-' := by
  have all : ∀ digit < 16, hexDigit digit ≠ '-' := by decide
  exact all digit small

theorem hexDigit_ne_brace {digit : Nat} (small : digit < 16) : hexDigit digit ≠ '\x7b' := by
  have all : ∀ digit < 16, hexDigit digit ≠ '\x7b' := by decide
  exact all digit small

theorem digits_succ (id : Uuid) (start count : Nat) :
    digits id start (count + 1) = hexDigit (id.toNat / 16 ^ (31 - start) % 16) :: digits id (start + 1) count := by
  unfold digits
  rw [List.range'_succ, List.map_cons]

theorem digits_add (id : Uuid) (start count more : Nat) :
    digits id start (count + more) = digits id start count ++ digits id (start + count) more := by
  unfold digits
  rw [← List.map_append, List.range'_append_1]

/-- What the digits up to a position come to. -/
theorem readDigits_digits (id : Uuid) {start count : Nat} (inside : start + count ≤ 32) (rest : List Char) :
    readDigits count (id.toNat / 16 ^ (32 - start)) (digits id start count ++ rest) =
      some (id.toNat / 16 ^ (32 - (start + count)), rest) := by
  induction count generalizing start with
  | zero => rfl
  | succ count ih =>
    have small : id.toNat / 16 ^ (31 - start) % 16 < 16 := Nat.mod_lt _ (by decide)
    have before : id.toNat / 16 ^ (32 - start) = id.toNat / 16 ^ (31 - start) / 16 := by
      rw [show 32 - start = (31 - start) + 1 by omega, Nat.pow_succ, Nat.div_div_eq_div_mul]
    have next : 16 * (id.toNat / 16 ^ (32 - start)) + id.toNat / 16 ^ (31 - start) % 16 =
        id.toNat / 16 ^ (32 - (start + 1)) := by
      rw [before, Nat.div_add_mod, show 32 - (start + 1) = 31 - start by omega]
    rw [digits_succ, List.cons_append, readDigits, hexValue_hexDigit small, Option.bind_some, next,
      ih (by omega), show start + 1 + count = start + (count + 1) by omega]

theorem skipHyphen_digits (id : Uuid) (start count : Nat) (rest : List Char) :
    skipHyphen (digits id start (count + 1) ++ rest) = digits id start (count + 1) ++ rest := by
  have small : id.toNat / 16 ^ (31 - start) % 16 < 16 := Nat.mod_lt _ (by decide)
  rw [digits_succ, List.cons_append]
  unfold skipHyphen
  split
  next isHyphen => exact absurd (List.cons.inj isHyphen).1 (hexDigit_ne_hyphen small)
  next => rfl

/-- A group of four digits, and what is read after it. -/
theorem readGroups_digits (id : Uuid) {start : Nat} (inside : start + 4 ≤ 32) (groups : Nat) (rest : List Char) :
    readGroups (groups + 1) (id.toNat / 16 ^ (32 - start)) (digits id start 4 ++ rest) =
      readGroups groups (id.toNat / 16 ^ (32 - (start + 4))) (skipHyphen rest) := by
  rw [readGroups, readDigits_digits id inside, Option.bind_some]

theorem readGroups_chars (id : Uuid) : readGroups 7 0 (chars id) = some (id.toNat, []) := by
  have nothing : readGroups 7 0 = readGroups 7 (id.toNat / 16 ^ (32 - 0)) :=
    congrArg _ (Nat.div_eq_of_lt id.isLt).symm
  have dash (rest : List Char) : skipHyphen ('-' :: rest) = rest := rfl
  have split (start : Nat) (rest : List Char) :
      skipHyphen (digits id start 4 ++ rest) = digits id start 4 ++ rest := skipHyphen_digits id start 3 rest
  unfold chars
  rw [nothing, digits_add id 0 4 4, digits_add id 20 4 8, digits_add id (20 + 4) 4 4,
    ← List.append_nil (digits id (20 + 4 + 4) 4)]
  simp only [List.append_assoc, List.cons_append]
  rw [readGroups_digits id (by decide), split, readGroups_digits id (by decide), dash, readGroups_digits id (by decide),
    dash, readGroups_digits id (by decide), dash, readGroups_digits id (by decide), dash,
    readGroups_digits id (by decide), split, readGroups_digits id (by decide), split]
  have last := readDigits_digits id (show 28 + 4 ≤ 32 by decide) []
  rw [Nat.sub_self, Nat.pow_zero, Nat.div_one] at last
  exact last

/-- The text of a UUID is read as that UUID. -/
theorem ofText_text (id : Uuid) : ofText id.text = some id := by
  have small : id.toNat / 16 ^ (31 - 0) % 16 < 16 := Nat.mod_lt _ (by decide)
  have plain : (chars id).head? ≠ some '\x7b' := by
    intro braced
    unfold chars at braced
    simp only [digits_succ, List.cons_append, List.head?_cons] at braced
    exact hexDigit_ne_brace small (Option.some.inj braced)
  unfold ofText text ofChars
  simp only [String.toList_ofList, plain, if_false, readGroups_chars, Option.bind_some, if_true]
  exact congrArg some (BitVec.eq_of_toNat_eq (BitVec.toNat_ofNat .. ▸ Nat.mod_eq_of_lt id.isLt))

end StoreSaas.Uuid
