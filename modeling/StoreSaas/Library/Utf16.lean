import Mathlib.Logic.Basic

/-! # Strings of UTF-16 units

A string is any sequence of units; `scalars` reads the pairs of surrogates and takes U+FFFD
for a surrogate by itself, as an encoder to UTF-8 does.  On the strings that encode a
sequence of characters nothing is lost.
-/

namespace StoreSaas.Utf16

abbrev Text := List UInt16

def isHigh (unit : UInt16) : Bool := decide (0xD800 ≤ unit.toNat) && decide (unit.toNat < 0xDC00)
def isLow (unit : UInt16) : Bool := decide (0xDC00 ≤ unit.toNat) && decide (unit.toNat < 0xE000)

/-- The character of a unit that is not half of a pair. -/
def single (unit : UInt16) : Char := if isHigh unit || isLow unit then Char.ofNat 0xFFFD else Char.ofNat unit.toNat

def pair (high low : UInt16) : Char := Char.ofNat (0x10000 + (high.toNat - 0xD800) * 0x400 + (low.toNat - 0xDC00))

def scalars : Text → List Char
  | [] => []
  | [unit] => [single unit]
  | unit :: next :: rest =>
    if isHigh unit && isLow next then pair unit next :: scalars rest else single unit :: scalars (next :: rest)

/-- The bytes of the UTF-8 encoding. -/
def utf8 (text : Text) : ByteArray := (String.ofList (scalars text)).toByteArray

def encodeChar (letter : Char) : Text :=
  if letter.toNat < 0x10000 then [UInt16.ofNat letter.toNat]
  else [UInt16.ofNat (0xD800 + (letter.toNat - 0x10000) / 0x400), UInt16.ofNat (0xDC00 + (letter.toNat - 0x10000) % 0x400)]

def encode (letters : List Char) : Text := letters.flatMap encodeChar

/-- Every surrogate of the string is half of a pair. -/
def WellFormed (text : Text) : Prop := ∃ letters, text = encode letters

theorem utf8_inj {left right : Text} : utf8 left = utf8 right ↔ scalars left = scalars right := by
  rw [utf8, utf8, String.toByteArray_inj, String.ofList_inj]

theorem scalars_cons {unit : UInt16} (notHigh : isHigh unit = false) (rest : Text) :
    scalars (unit :: rest) = single unit :: scalars rest := by
  cases rest with
  | nil => rfl
  | cons next rest => rw [scalars, notHigh, Bool.false_and, if_neg Bool.false_ne_true]

theorem toNat_lt (letter : Char) : letter.toNat < 0xD800 ∨ (0xDFFF < letter.toNat ∧ letter.toNat < 0x110000) :=
  letter.valid

theorem scalars_encodeChar (letter : Char) (rest : Text) :
    scalars (encodeChar letter ++ rest) = letter :: scalars rest := by
  have valid := toNat_lt letter
  by_cases small : letter.toNat < 0x10000
  · have units : (UInt16.ofNat letter.toNat).toNat = letter.toNat := UInt16.toNat_ofNat_of_lt' small
    have notHigh : isHigh (UInt16.ofNat letter.toNat) = false := by
      simp only [isHigh, units, Bool.and_eq_false_iff, decide_eq_false_iff_not]
      omega
    have notLow : isLow (UInt16.ofNat letter.toNat) = false := by
      simp only [isLow, units, Bool.and_eq_false_iff, decide_eq_false_iff_not]
      omega
    rw [encodeChar, if_pos small, List.singleton_append, scalars_cons notHigh, single, notHigh, notLow, units,
      if_neg (by decide), Char.ofNat_toNat]
  · have high : (UInt16.ofNat (0xD800 + (letter.toNat - 0x10000) / 0x400)).toNat =
        0xD800 + (letter.toNat - 0x10000) / 0x400 := UInt16.toNat_ofNat_of_lt' (by change _ < 65536; omega)
    have low : (UInt16.ofNat (0xDC00 + (letter.toNat - 0x10000) % 0x400)).toNat =
        0xDC00 + (letter.toNat - 0x10000) % 0x400 := UInt16.toNat_ofNat_of_lt' (by change _ < 65536; omega)
    have isPair : (isHigh (UInt16.ofNat (0xD800 + (letter.toNat - 0x10000) / 0x400)) &&
        isLow (UInt16.ofNat (0xDC00 + (letter.toNat - 0x10000) % 0x400))) = true := by
      simp only [isHigh, isLow, high, low, Bool.and_eq_true, decide_eq_true_eq]
      omega
    have code : 0x10000 + (0xD800 + (letter.toNat - 0x10000) / 0x400 - 0xD800) * 0x400 +
        (0xDC00 + (letter.toNat - 0x10000) % 0x400 - 0xDC00) = letter.toNat := by omega
    rw [encodeChar, if_neg small, List.cons_append, List.singleton_append, scalars, if_pos isPair, pair, high, low, code,
      Char.ofNat_toNat]

theorem scalars_encode (letters : List Char) : scalars (encode letters) = letters := by
  induction letters with
  | nil => rfl
  | cons letter rest ih =>
    change scalars (encodeChar letter ++ encode rest) = _
    rw [scalars_encodeChar, ih]

/-- Of strings without unpaired surrogates, different ones have different encodings. -/
theorem WellFormed.eq_of_scalars {left right : Text} (isLeft : WellFormed left) (isRight : WellFormed right)
    (same : scalars left = scalars right) : left = right := by
  obtain ⟨letters, rfl⟩ := isLeft
  obtain ⟨others, rfl⟩ := isRight
  rw [scalars_encode, scalars_encode] at same
  rw [same]

end StoreSaas.Utf16
