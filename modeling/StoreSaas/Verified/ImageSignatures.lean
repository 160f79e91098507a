import StoreSaas.Services.Uploads

/-! # What the signature check accepts

Each format is given by the bytes it begins with, and where.  The table of checks agrees
with that wherever it is asked for one of its own keys and, for WEBP, wherever the bytes
it decodes are ASCII.
-/

namespace StoreSaas

/-! ## The formats -/

inductive ImageFormat where
  | png
  | jpeg
  | webp
  deriving DecidableEq

namespace ImageFormat

def mimeType : ImageFormat → String
  | .png => "image/png"
  | .jpeg => "image/jpeg"
  | .webp => "image/webp"

/-- The magic bytes, each group with its offset. -/
def magic : ImageFormat → List (Nat × Bytes)
  | .png => [(0, [0x89, 0x50, 0x4e, 0x47, 0x0d, 0x0a, 0x1a, 0x0a])]
  | .jpeg => [(0, [0xff, 0xd8, 0xff])]
  | .webp => [(0, [0x52, 0x49, 0x46, 0x46]), (8, [0x57, 0x45, 0x42, 0x50])]

/-- The buffer has the magic bytes of the format. -/
def Begins (format : ImageFormat) (buffer : Bytes) : Prop :=
  ∀ group ∈ format.magic, (buffer.drop group.1).take group.2.length = group.2

instance (format : ImageFormat) (buffer : Bytes) : Decidable (format.Begins buffer) :=
  inferInstanceAs (Decidable (∀ _ ∈ _, _))

theorem mimeType_inj {left right : ImageFormat} (same : left.mimeType = right.mimeType) : left = right := by
  cases left <;> cases right <;> first | rfl | exact absurd same (by decide)

end ImageFormat

/-! ## Decoded bytes -/

/-- A byte that `toString('ascii')` keeps as it is. -/
def IsAscii (byte : UInt8) : Prop := byte.toNat < 128

instance (byte : UInt8) : Decidable (IsAscii byte) := inferInstanceAs (Decidable (_ < _))

theorem asciiChar_inj {left right : UInt8} (isLeft : IsAscii left) (isRight : IsAscii right)
    (same : asciiChar left = asciiChar right) : left = right := by
  have codes : ∀ code < 128, (Char.ofNat code).toNat = code := by decide
  have code {byte : UInt8} (isAscii : IsAscii byte) : (asciiChar byte).toNat = byte.toNat := by
    rw [asciiChar, Nat.mod_eq_of_lt isAscii, codes _ isAscii]
  exact UInt8.toNat_inj.mp (by rw [← code isLeft, ← code isRight, same])

theorem map_asciiChar_inj {left right : Bytes} (isLeft : ∀ byte ∈ left, IsAscii byte)
    (isRight : ∀ byte ∈ right, IsAscii byte) (same : left.map asciiChar = right.map asciiChar) : left = right := by
  induction left generalizing right with
  | nil => exact (List.map_eq_nil_iff.mp same.symm).symm
  | cons byte rest ih =>
    cases right with
    | nil => cases same
    | cons other others =>
      obtain ⟨head, tail⟩ := List.cons.inj same
      rw [List.forall_mem_cons] at isLeft isRight
      rw [asciiChar_inj isLeft.1 isRight.1 head, ih isLeft.2 isRight.2 tail]

/-- The text is read in these bytes exactly if they are its own, as long as none is above 127. -/
theorem asciiSlice_eq_iff {buf text : Bytes} {start stop : Nat}
    (isAscii : ∀ byte ∈ (buf.take stop).drop start, IsAscii byte) (isText : ∀ byte ∈ text, IsAscii byte) :
    asciiSlice buf start stop = text.map asciiChar ↔ (buf.take stop).drop start = text :=
  ⟨map_asciiChar_inj isAscii isText, fun same => by rw [asciiSlice, same]⟩

/-! ## The table of checks -/

/-- The bytes that the check for WEBP decodes. -/
def decodedBytes (buffer : Bytes) : Bytes := buffer.take 4 ++ (buffer.take 12).drop 8

/-- The check for WEBP takes some byte above 127 for one of its letters. -/
def MisreadsWebp (buffer : Bytes) : Prop :=
  12 ≤ buffer.length ∧ asciiSlice buffer 0 4 = "RIFF".toList ∧ asciiSlice buffer 8 12 = "WEBP".toList ∧
    ∃ byte ∈ decodedBytes buffer, ¬ IsAscii byte

instance (buffer : Bytes) : Decidable (MisreadsWebp buffer) := inferInstanceAs (Decidable (_ ∧ _ ∧ _ ∧ _))

theorem isTruthy_of_own {mime : String} {check : Bytes → Bool} (own : SIGNATURES mime = some check) (buffer : Bytes) :
    isTruthy (matchesImageSignature buffer mime) = check buffer := by
  rw [matchesImageSignature, own]
  rfl

theorem isTruthy_png (buffer : Bytes) :
    isTruthy (matchesImageSignature buffer "image/png") = true ↔ ImageFormat.png.Begins buffer := by
  rw [isTruthy_of_own rfl, ImageFormat.Begins, ImageFormat.magic, List.forall_mem_singleton, List.drop_zero]
  rcases buffer with
    _ | ⟨b0, _ | ⟨b1, _ | ⟨b2, _ | ⟨b3, _ | ⟨b4, _ | ⟨b5, _ | ⟨b6, _ | ⟨b7, rest⟩⟩⟩⟩⟩⟩⟩⟩ <;>
    simp [and_assoc]

theorem isTruthy_jpeg (buffer : Bytes) :
    isTruthy (matchesImageSignature buffer "image/jpeg") = true ↔ ImageFormat.jpeg.Begins buffer := by
  rw [isTruthy_of_own rfl, ImageFormat.Begins, ImageFormat.magic, List.forall_mem_singleton, List.drop_zero]
  rcases buffer with _ | ⟨b0, _ | ⟨b1, _ | ⟨b2, rest⟩⟩⟩ <;> simp [and_assoc]

theorem isTruthy_webp (buffer : Bytes) :
    isTruthy (matchesImageSignature buffer "image/webp") = true ↔
      12 ≤ buffer.length ∧ asciiSlice buffer 0 4 = "RIFF".toList ∧ asciiSlice buffer 8 12 = "WEBP".toList := by
  rw [isTruthy_of_own rfl]
  simp only [Bool.and_eq_true, decide_eq_true_eq, ge_iff_le, and_assoc]

theorem webp_begins_iff (buffer : Bytes) :
    ImageFormat.webp.Begins buffer ↔
      (buffer.take 4).drop 0 = [0x52, 0x49, 0x46, 0x46] ∧ (buffer.take 12).drop 8 = [0x57, 0x45, 0x42, 0x50] := by
  rw [ImageFormat.Begins, ImageFormat.magic, List.forall_mem_cons, List.forall_mem_singleton]
  simp only [List.drop_zero, List.drop_take, List.length_cons, List.length_nil]

/-- Of the WEBP headers that the check accepts, those with a byte above 127 are none. -/
theorem webp_truthy_iff (buffer : Bytes) :
    (isTruthy (matchesImageSignature buffer "image/webp") = true ↔ ImageFormat.webp.Begins buffer) ↔
      ¬ MisreadsWebp buffer := by
  rw [isTruthy_webp, webp_begins_iff]
  have riff : ∀ byte ∈ ([0x52, 0x49, 0x46, 0x46] : Bytes), IsAscii byte := by decide +kernel
  have webp : ∀ byte ∈ ([0x57, 0x45, 0x42, 0x50] : Bytes), IsAscii byte := by decide +kernel
  have isRiff : "RIFF".toList = ([0x52, 0x49, 0x46, 0x46] : Bytes).map asciiChar := by decide
  have isWebp : "WEBP".toList = ([0x57, 0x45, 0x42, 0x50] : Bytes).map asciiChar := by decide
  constructor
  · rintro agrees ⟨long, readsRiff, readsWebp, byte, decoded, isHigh⟩
    obtain ⟨isHead, isTail⟩ := agrees.mp ⟨long, readsRiff, readsWebp⟩
    obtain head | tail := List.mem_append.mp decoded
    · exact isHigh (riff byte (isHead ▸ head))
    · exact isHigh (webp byte (isTail ▸ tail))
  · intro reads
    constructor
    · rintro ⟨long, readsRiff, readsWebp⟩
      have isAscii : ∀ byte ∈ decodedBytes buffer, IsAscii byte := by
        intro byte decoded
        by_contra isHigh
        exact reads ⟨long, readsRiff, readsWebp, byte, decoded, isHigh⟩
      refine ⟨(asciiSlice_eq_iff (fun byte head => isAscii byte ?_) riff).mp (readsRiff.trans isRiff),
        (asciiSlice_eq_iff (fun byte tail => isAscii byte ?_) webp).mp (readsWebp.trans isWebp)⟩
      · exact List.mem_append_left _ head
      · exact List.mem_append_right _ tail
    · rintro ⟨isHead, isTail⟩
      refine ⟨?_, ?_, ?_⟩
      · have four : ((buffer.take 12).drop 8).length = 4 := by rw [isTail]; rfl
        rw [List.length_drop, List.length_take] at four
        omega
      · rw [asciiSlice, isHead, isRiff]
      · rw [asciiSlice, isTail, isWebp]

/-! ## Keys that the table does not have -/

theorem SIGNATURES_eq_none {mime : String} (other : ∀ format : ImageFormat, format.mimeType ≠ mime) :
    SIGNATURES mime = none := by
  unfold SIGNATURES
  split
  · exact absurd rfl (other .png)
  · exact absurd rfl (other .jpeg)
  · exact absurd rfl (other .webp)
  · rfl

theorem isTruthy_of_foreign {mime : String} (other : ∀ format : ImageFormat, format.mimeType ≠ mime) (buffer : Bytes) :
    isTruthy (matchesImageSignature buffer mime) = true ↔ mime = "constructor" ∨ mime = "toString" := by
  rw [matchesImageSignature, SIGNATURES_eq_none other]
  dsimp only
  by_cases isConstructor : mime = "constructor"
  · subst isConstructor
    exact iff_of_true rfl (Or.inl rfl)
  · by_cases isToString : mime = "toString"
    · subst isToString
      exact iff_of_true rfl (Or.inr rfl)
    · refine iff_of_false ?_ (not_or.mpr ⟨isConstructor, isToString⟩)
      rw [callInherited, if_neg isConstructor, if_neg isToString]
      split <;> exact Bool.false_ne_true

/-! ## The check as a whole -/

/-- The claimed type is a format of which the buffer has the magic bytes. -/
def IsImageOf (mime : String) (buffer : Bytes) : Prop :=
  ∃ format : ImageFormat, format.mimeType = mime ∧ format.Begins buffer

/-- The two traps of the check: a name that every object has, and letters with the high bit set. -/
def TrapsSignatureCheck (mime : String) (buffer : Bytes) : Prop :=
  mime = "constructor" ∨ mime = "toString" ∨ (mime = "image/webp" ∧ MisreadsWebp buffer)

instance (mime : String) (buffer : Bytes) : Decidable (TrapsSignatureCheck mime buffer) :=
  inferInstanceAs (Decidable (_ ∨ _ ∨ (_ ∧ _)))

theorem isImageOf_iff {format : ImageFormat} (buffer : Bytes) :
    IsImageOf format.mimeType buffer ↔ format.Begins buffer :=
  ⟨fun ⟨_, same, begins⟩ => ImageFormat.mimeType_inj same ▸ begins, fun begins => ⟨format, rfl, begins⟩⟩

theorem matchesImageSignature_iff (buffer : Bytes) (claimedMimeType : String) :
    (isTruthy (matchesImageSignature buffer claimedMimeType) = true ↔ IsImageOf claimedMimeType buffer) ↔
      ¬ TrapsSignatureCheck claimedMimeType buffer := by
  by_cases own : ∃ format : ImageFormat, format.mimeType = claimedMimeType
  · obtain ⟨format, rfl⟩ := own
    rw [isImageOf_iff]
    cases format with
    | png =>
      refine iff_of_true (isTruthy_png buffer) ?_
      rintro (trapped | trapped | ⟨trapped, -⟩) <;> exact absurd trapped (by decide)
    | jpeg =>
      refine iff_of_true (isTruthy_jpeg buffer) ?_
      rintro (trapped | trapped | ⟨trapped, -⟩) <;> exact absurd trapped (by decide)
    | webp =>
      refine (webp_truthy_iff buffer).trans (not_congr ?_)
      refine ⟨fun misreads => Or.inr (Or.inr ⟨rfl, misreads⟩), ?_⟩
      rintro (trapped | trapped | ⟨-, misreads⟩)
      · exact absurd trapped (by decide)
      · exact absurd trapped (by decide)
      · exact misreads
  · have other : ∀ format : ImageFormat, format.mimeType ≠ claimedMimeType := not_exists.mp own
    have isNone : ¬ IsImageOf claimedMimeType buffer := fun ⟨format, same, _⟩ => other format same
    rw [iff_false_intro isNone, iff_false, isTruthy_of_foreign other]
    refine not_congr ⟨Or.imp_right Or.inl, ?_⟩
    rintro (trapped | trapped | ⟨isWebp, -⟩)
    · exact Or.inl trapped
    · exact Or.inr trapped
    · exact absurd isWebp.symm (other .webp)

/-- Bytes that begin no image, under the name of a method that every object has. -/
theorem not_matchesImageSignature_iff :
    ¬ (isTruthy (matchesImageSignature [0x3c, 0x68, 0x74, 0x6d, 0x6c, 0x3e] "constructor") = true ↔
      IsImageOf "constructor" [0x3c, 0x68, 0x74, 0x6d, 0x6c, 0x3e]) := by
  rintro ⟨accepted, -⟩
  obtain ⟨format, same, -⟩ := accepted rfl
  revert same
  cases format <;> decide

end StoreSaas
