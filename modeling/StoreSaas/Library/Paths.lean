import Mathlib.Data.List.DropRight

/-! # POSIX file names

`basename` and `extname` of a path, as Node's `path` has them, and what a name ends in
once something free of slashes is put behind it.
-/

namespace StoreSaas.Path

/-- `path.basename`: the last portion of the path, trailing slashes aside. -/
def basename (path : List Char) : List Char := (path.rdropWhile (· = '/')).rtakeWhile (· ≠ '/')

/-- `path.extname`: from the last dot of the last portion on, unless that dot is its first character
    or the portion is `..`. -/
def extname (path : List Char) : List Char :=
  let base := basename path
  if base = ['.', '.'] ∨ (base.rdropWhile (· ≠ '.')).length ≤ 1 then [] else '.' :: base.rtakeWhile (· ≠ '.')

example : extname "photo.tar.png".toList = ".png".toList := by decide
example : extname ".htaccess".toList = [] := by decide

/-- A dot, and none after it. -/
def IsExtension (extension : List Char) : Prop := ∃ rest, extension = '.' :: rest ∧ '.' ∉ rest

theorem isExtension_extname {path : List Char} (named : extname path ≠ []) : IsExtension (extname path) := by
  unfold extname at named ⊢
  dsimp only at named ⊢
  split
  next none => rw [if_pos none] at named; exact absurd rfl named
  next =>
    refine ⟨_, rfl, fun dotted => ?_⟩
    have plain := List.mem_rtakeWhile_imp dotted
    simp at plain

theorem slash_notMem_extname (path : List Char) : '/' ∉ extname path := by
  unfold extname
  dsimp only
  split
  next => exact List.not_mem_nil
  next =>
    intro slashed
    obtain isDot | inBase := List.mem_cons.mp slashed
    · cases isDot
    · have inPortion : '/' ∈ basename path := (List.rtakeWhile_suffix _ _).mem inBase
      have plain := List.mem_rtakeWhile_imp inPortion
      simp at plain

/-- What stands behind without a slash belongs to the last portion. -/
theorem suffix_basename {front back : List Char} (named : back ≠ []) (plain : '/' ∉ back) :
    back <:+ basename (front ++ back) := by
  have keeps : (front ++ back).rdropWhile (· = '/') = front ++ back := by
    rw [List.rdropWhile_eq_self_iff]
    intro _ isSlash
    rw [List.getLast_append_of_ne_nil _ named] at isSlash
    exact plain (of_decide_eq_true isSlash ▸ List.getLast_mem named)
  rw [basename, keeps, List.rtakeWhile, List.reverse_append, List.takeWhile_append_of_pos, List.reverse_append,
    List.reverse_reverse]
  · exact List.suffix_append _ _
  · intro letter inBack
    exact decide_eq_true fun isSlash => plain (isSlash ▸ List.mem_reverse.mp inBack)

/-- Of two extensions that a name ends in, neither is longer. -/
theorem suffix_unique {name left right : List Char} (isLeft : IsExtension left) (isRight : IsExtension right)
    (endsLeft : left <:+ name) (endsRight : right <:+ name) : left = right := by
  have within {longer shorter : List Char} (isLonger : IsExtension longer) (isShorter : IsExtension shorter)
      (ends : shorter <:+ longer) : shorter = longer := by
    obtain ⟨rest, rfl, plain⟩ := isLonger
    obtain ⟨tail, rfl, -⟩ := isShorter
    obtain same | inside := List.suffix_cons_iff.mp ends
    · exact same
    · exact absurd (inside.mem List.mem_cons_self) plain
  obtain inside | inside := List.suffix_or_suffix_of_suffix endsLeft endsRight
  · exact within isRight isLeft inside
  · exact (within isLeft isRight inside).symm

end StoreSaas.Path
