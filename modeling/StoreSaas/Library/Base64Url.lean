import Mathlib.Data.List.Basic

/-! # Base64url without padding

Three bytes become four letters, so that a prefix of the bytes whose length is a
multiple of three determines the corresponding prefix of the text, whatever follows.
-/

namespace StoreSaas.Base64Url

def alphabet : List Char :=
  "ABCDEFGHIJKLMNOPQRSTUVWXYZabcdefghijklmnopqrstuvwxyz0123456789-_".toList

/-- The letter of a group of six bits. -/
def letter (group : Nat) : UInt8 := UInt8.ofNat ((alphabet.getD (group % 64) 'A').toNat)

def encode : List UInt8 → List UInt8
  | [] => []
  | [first] => [letter (first.toNat / 4), letter (first.toNat * 16)]
  | [first, second] =>
    [letter (first.toNat / 4), letter (first.toNat * 16 + second.toNat / 16), letter (second.toNat * 4)]
  | first :: second :: third :: rest =>
    letter (first.toNat / 4) :: letter (first.toNat * 16 + second.toNat / 16) ::
      letter (second.toNat * 4 + third.toNat / 64) :: letter third.toNat :: encode rest

/-- Whole groups of three bytes are encoded by themselves. -/
theorem encode_append {groups : Nat} {head : List UInt8} (tail : List UInt8)
    (whole : head.length = 3 * groups) : encode (head ++ tail) = encode head ++ encode tail := by
  induction groups generalizing head with
  | zero =>
    rw [List.eq_nil_of_length_eq_zero whole]
    rfl
  | succ groups ih =>
    match head, whole with
    | first :: second :: third :: rest, whole =>
      have restWhole : rest.length = 3 * groups := by simp only [List.length_cons] at whole; omega
      simp only [List.cons_append, encode, ih restWhole]

theorem length_encode {groups : Nat} {bytes : List UInt8} (whole : bytes.length = 3 * groups) :
    (encode bytes).length = 4 * groups := by
  induction groups generalizing bytes with
  | zero =>
    rw [List.eq_nil_of_length_eq_zero whole]
    rfl
  | succ groups ih =>
    match bytes, whole with
    | first :: second :: third :: rest, whole =>
      have restWhole : rest.length = 3 * groups := by simp only [List.length_cons] at whole; omega
      simp only [encode, List.length_cons, ih restWhole]
      omega

end StoreSaas.Base64Url
