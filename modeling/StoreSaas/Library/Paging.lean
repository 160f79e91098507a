import Mathlib.Data.List.Perm.Subperm
import Mathlib.Data.List.Sort

/-! # Pages of a sorted list

A query sorts rows by a key and leaves rows of one key in any order, which may be another
for each page.  The pages put together hold each row once, whatever the orders, exactly if
no boundary between pages falls inside a group of rows with one key.
-/

namespace StoreSaas.Paging

variable {Row : Type} {key : Row → Nat}

/-- Rows in an order in which a query may return them, the greatest key first. -/
structure Arranges (key : Row → Nat) (rows arranged : List Row) : Prop where
  perm : arranged.Perm rows
  sorted : arranged.Pairwise fun left right => key right ≤ key left

def page (limit number : Nat) (rows : List Row) : List Row := (rows.drop ((number - 1) * limit)).take limit

/-- The first pages put together, each from a query of its own. -/
def firstPages (limit : Nat) (queries : Nat → List Row) : Nat → List Row
  | 0 => []
  | count + 1 => firstPages limit queries count ++ page limit (count + 1) (queries (count + 1))

theorem firstPages_eq_flatMap (limit : Nat) (queries : Nat → List Row) (count : Nat) :
    firstPages limit queries count = (List.range' 1 count).flatMap fun number => page limit number (queries number) := by
  induction count with
  | zero => rfl
  | succ count ih =>
    rw [firstPages, ih, List.range'_concat, List.flatMap_append, List.flatMap_singleton, Nat.one_mul, Nat.add_comm 1 count]

/-- As many pages as it takes, and at least one. -/
def pageCount (total limit : Nat) : Nat := max 1 ((total + limit - 1) / limit)

theorem length_le_pageCount {limit : Nat} (positive : 1 ≤ limit) (total : Nat) :
    total ≤ pageCount total limit * limit := by
  have ceil : total ≤ (total + limit - 1) / limit * limit := by
    have remainder := Nat.div_add_mod' (total + limit - 1) limit
    have small := Nat.mod_lt (total + limit - 1) positive
    omega
  exact ceil.trans (Nat.mul_le_mul_right limit (Nat.le_max_right _ _))

theorem lt_pageCount {limit total number : Nat} (positive : 1 ≤ limit) (more : number * limit < total) :
    number < pageCount total limit := by
  refine Nat.lt_of_lt_of_le ?_ (Nat.le_max_right _ _)
  rw [Nat.lt_iff_add_one_le, Nat.le_div_iff_mul_le positive, Nat.add_mul, Nat.one_mul]
  omega

theorem page_eq_nil {limit number : Nat} {rows : List Row} (beyond : rows.length ≤ (number - 1) * limit) :
    page limit number rows = [] := by
  rw [page, List.drop_eq_nil_of_le beyond, List.take_nil]

theorem take_append_page (limit count : Nat) (rows : List Row) :
    rows.take (count * limit) ++ page limit (count + 1) rows = rows.take ((count + 1) * limit) := by
  rw [page, Nat.add_sub_cancel, Nat.add_mul, Nat.one_mul, List.take_add]

theorem firstPages_isPrefix (limit : Nat) (queries : Nat → List Row) {count more : Nat} (fewer : count ≤ more) :
    firstPages limit queries count <+: firstPages limit queries more := by
  induction fewer with
  | refl => exact List.prefix_rfl
  | step _ ih => exact ih.trans (List.prefix_append _ _)

/-! ## Boundaries -/

/-- The first `count` rows hold some rows of one key and leave out others. -/
def Cuts (key : Row → Nat) (rows : List Row) (count : Nat) : Prop :=
  ∃ shared, rows.countP (fun row => shared < key row) < count ∧ count < rows.countP fun row => shared ≤ key row

namespace Arranges

variable {rows arranged : List Row} {count : Nat}

/-- A row among the first ones has fewer rows before its group. -/
theorem countP_lt_of_mem_take (arranges : Arranges key rows arranged) {row : Row} (early : row ∈ arranged.take count) :
    rows.countP (fun other => key row < key other) < count := by
  obtain ⟨before, after, isSplit⟩ := List.append_of_mem early
  have whole : arranged = before ++ row :: (after ++ arranged.drop count) := by
    rw [← List.cons_append, ← List.append_assoc, ← isSplit, List.take_append_drop]
  have rest := (List.pairwise_append.mp (whole ▸ arranges.sorted)).2.1
  have none : (row :: (after ++ arranged.drop count)).countP (fun other => key row < key other) = 0 := by
    rw [List.countP_eq_zero]
    intro other later isGreater
    obtain rfl | later := List.mem_cons.mp later
    · exact Nat.lt_irrefl _ (of_decide_eq_true isGreater)
    · exact absurd (of_decide_eq_true isGreater) (Nat.not_lt.mpr ((List.pairwise_cons.mp rest).1 other later))
  have few : before.length < count := by
    have taken := congrArg List.length isSplit
    rw [List.length_append, List.length_cons] at taken
    have := List.length_take_le count arranged
    omega
  rw [← arranges.perm.countP_eq, whole, List.countP_append, none, Nat.add_zero]
  exact Nat.lt_of_le_of_lt List.countP_le_length few

/-- A row behind the first ones has all of them, and itself, down to the end of its group. -/
theorem lt_countP_of_mem_drop (arranges : Arranges key rows arranged) {row : Row} (late : row ∈ arranged.drop count) :
    count < rows.countP fun other => key row ≤ key other := by
  obtain ⟨before, after, isSplit⟩ := List.append_of_mem late
  have whole : arranged = (arranged.take count ++ before ++ [row]) ++ after := by
    rw [List.append_assoc, List.append_assoc, List.singleton_append, ← isSplit, List.take_append_drop]
  have first := (List.pairwise_append.mp (whole ▸ arranges.sorted)).1
  have all : (arranged.take count ++ before ++ [row]).countP (fun other => key row ≤ key other) =
      (arranged.take count ++ before ++ [row]).length := by
    rw [List.countP_eq_length]
    intro other earlier
    refine decide_eq_true ?_
    obtain earlier | isRow := List.mem_append.mp earlier
    · exact (List.pairwise_append.mp first).2.2 other earlier row (List.mem_singleton_self row)
    · exact Nat.le_of_eq (congrArg key (List.mem_singleton.mp isRow).symm)
  have enough : (arranged.take count).length = count := by
    have present : count < arranged.length := by
      by_contra short
      rw [List.drop_eq_nil_of_le (Nat.not_lt.mp short)] at late
      cases late
    rw [List.length_take]
    omega
  rw [← arranges.perm.countP_eq, whole, List.countP_append, all, List.length_append, List.length_append, enough,
    List.length_singleton]
  omega

/-- Where no group is cut, the first rows are those whose groups begin early. -/
theorem take_eq_filter (arranges : Arranges key rows arranged) (clean : ¬ Cuts key rows count) :
    arranged.take count =
      arranged.filter fun row => rows.countP (fun other => key row < key other) < count := by
  have early : (arranged.take count).filter (fun row => rows.countP (fun other => key row < key other) < count) =
      arranged.take count :=
    List.filter_eq_self.mpr fun row taken => decide_eq_true (arranges.countP_lt_of_mem_take taken)
  have late : (arranged.drop count).filter (fun row => rows.countP (fun other => key row < key other) < count) = [] := by
    refine List.filter_eq_nil_iff.mpr fun row dropped isEarly => clean ⟨key row, ?_, ?_⟩
    · exact of_decide_eq_true isEarly
    · exact arranges.lt_countP_of_mem_drop dropped
  conv_rhs => rw [← List.take_append_drop count arranged, List.filter_append, early, late, List.append_nil]

theorem take_perm {other : List Row} (arranges : Arranges key rows arranged) (arrangesOther : Arranges key rows other)
    (clean : ¬ Cuts key rows count) : (arranged.take count).Perm (other.take count) := by
  rw [arranges.take_eq_filter clean, arrangesOther.take_eq_filter clean]
  exact (arranges.perm.trans arrangesOther.perm.symm).filter _

end Arranges

variable {rows : List Row} {limit : Nat} {queries : Nat → List Row}

/-- The pages of queries with clean boundaries are the pages of any one of them. -/
theorem firstPages_perm (arranges : ∀ number, Arranges key rows (queries number))
    (clean : ∀ number, ¬ Cuts key rows (number * limit)) (count : Nat) :
    (firstPages limit queries count).Perm ((queries count).take (count * limit)) := by
  induction count with
  | zero => rw [Nat.zero_mul, List.take_zero]; exact .nil
  | succ count ih =>
    have moved := ih.trans ((arranges count).take_perm (arranges (count + 1)) (clean count))
    rw [firstPages, ← take_append_page limit count (queries (count + 1))]
    exact moved.append_right _

/-- Clean boundaries: every row once. -/
theorem firstPages_pageCount_perm (arranges : ∀ number, Arranges key rows (queries number))
    (clean : ∀ number, ¬ Cuts key rows (number * limit)) (positive : 1 ≤ limit) :
    (firstPages limit queries (pageCount rows.length limit)).Perm rows := by
  refine (firstPages_perm arranges clean _).trans ?_
  have all : (queries (pageCount rows.length limit)).length ≤ pageCount rows.length limit * limit := by
    rw [(arranges _).perm.length_eq]
    exact length_le_pageCount positive rows.length
  rw [List.take_of_length_le all]
  exact (arranges _).perm

/-- Pages of one order: every row once, wherever the boundaries fall. -/
theorem firstPages_const_perm {arranged : List Row} (arranges : Arranges key rows arranged) (positive : 1 ≤ limit) :
    (firstPages limit (fun _ => arranged) (pageCount rows.length limit)).Perm rows := by
  have pieces (count : Nat) : firstPages limit (fun _ => arranged) count = arranged.take (count * limit) := by
    induction count with
    | zero => rw [Nat.zero_mul, List.take_zero]; rfl
    | succ count ih => rw [firstPages, ih, take_append_page]
  rw [pieces, List.take_of_length_le]
  · exact arranges.perm
  · rw [arranges.perm.length_eq]
    exact length_le_pageCount positive rows.length

/-! ## A boundary inside a group -/

namespace Arranges

variable {arranged : List Row} {count : Nat}

theorem le_countP {property : Row → Bool} (arranges : Arranges key rows arranged) (fits : count ≤ rows.length)
    (all : ∀ row ∈ arranged.take count, property row = true) : count ≤ rows.countP property := by
  have taken : (arranged.take count).countP property = count := by
    rw [List.countP_eq_length.mpr all, List.length_take, arranges.perm.length_eq, Nat.min_eq_left fits]
  rw [← arranges.perm.countP_eq, ← List.take_append_drop count arranged, List.countP_append, taken]
  exact Nat.le_add_right _ _

theorem countP_le {property : Row → Bool} (arranges : Arranges key rows arranged)
    (none : ∀ row ∈ arranged.drop count, ¬ property row = true) : rows.countP property ≤ count := by
  rw [← arranges.perm.countP_eq, ← List.take_append_drop count arranged, List.countP_append,
    List.countP_eq_zero.mpr none, Nat.add_zero]
  exact List.countP_le_length.trans (List.length_take_le _ _)

/-- Where a group is cut, the rows on both sides have the same key. -/
theorem exists_of_cuts (arranges : Arranges key rows arranged) (cut : Cuts key rows count) :
    ∃ front left right back, arranged = front ++ left :: right :: back ∧ front.length + 1 = count ∧
      key left = key right := by
  obtain ⟨shared, fewer, more⟩ := cut
  have fits : count < rows.length := Nat.lt_of_lt_of_le more List.countP_le_length
  have inside : count < arranged.length := arranges.perm.length_eq.symm ▸ fits
  obtain ⟨before, rfl⟩ : ∃ before, count = before + 1 := ⟨count - 1, by omega⟩
  have isSplit : arranged =
      arranged.take before ++ arranged[before] :: arranged[before + 1] :: arranged.drop (before + 1 + 1) := by
    rw [← List.drop_eq_getElem_cons inside, ← List.drop_eq_getElem_cons, List.take_append_drop]
  have sorted := isSplit ▸ arranges.sorted
  have isTake : arranged.take (before + 1) = arranged.take before ++ [arranged[before]] :=
    (List.take_append_getElem _).symm
  have isDrop : arranged.drop (before + 1) = arranged[before + 1] :: arranged.drop (before + 1 + 1) :=
    List.drop_eq_getElem_cons inside
  have later := List.pairwise_cons.mp (List.pairwise_append.mp sorted).2.1
  have descends : key arranged[before + 1] ≤ key arranged[before] := later.1 _ List.mem_cons_self
  have atMost : key arranged[before] ≤ shared := by
    by_contra greater
    refine Nat.not_lt.mpr (arranges.le_countP (Nat.le_of_lt fits) fun row taken => decide_eq_true ?_) fewer
    rw [isTake] at taken
    obtain earlier | isRow := List.mem_append.mp taken
    · have := (List.pairwise_append.mp sorted).2.2 row earlier _ List.mem_cons_self
      omega
    · rw [List.mem_singleton.mp isRow]
      omega
  have atLeast : shared ≤ key arranged[before + 1] := by
    by_contra smaller
    refine Nat.not_lt.mpr (arranges.countP_le fun row dropped => ?_) more
    rw [isDrop] at dropped
    rw [decide_eq_true_iff]
    obtain isRow | behind := List.mem_cons.mp dropped
    · rw [isRow]
      omega
    · have := (List.pairwise_cons.mp later.2).1 row behind
      omega
  refine ⟨_, _, _, _, isSplit, ?_, by omega⟩
  rw [List.length_take, Nat.min_eq_left (by omega)]

/-- Neighbours with the same key may come the other way round. -/
theorem swap {front back : List Row} {left right : Row} (arranges : Arranges key rows (front ++ left :: right :: back))
    (same : key left = key right) : Arranges key rows (front ++ right :: left :: back) where
  perm := ((List.Perm.swap _ _ _).append_left front).trans arranges.perm
  sorted := by
    have sorted := arranges.sorted
    simp only [List.pairwise_append, List.pairwise_cons, List.forall_mem_cons, same] at sorted ⊢
    grind

end Arranges

theorem mem_page_last {front back : List Row} {left : Row} {number : Nat} (positive : 1 ≤ limit)
    (atEnd : front.length + 1 = (number + 1) * limit) : left ∈ page limit (number + 1) (front ++ left :: back) := by
  have widths : (number + 1) * limit = number * limit + limit := by rw [Nat.add_mul, Nat.one_mul]
  have whole : (front.drop (number * limit) ++ [left]).length = limit := by
    rw [List.length_append, List.length_drop, List.length_singleton]
    omega
  rw [page, Nat.add_sub_cancel, List.drop_append_of_le_length (by omega), ← List.singleton_append, ← List.append_assoc,
    List.take_append_of_le_length (Nat.le_of_eq whole.symm), List.take_of_length_le (Nat.le_of_eq whole)]
  exact List.mem_append_right _ (List.mem_singleton_self left)

theorem mem_page_first {front back : List Row} {left : Row} {number : Nat} (positive : 1 ≤ limit)
    (atStart : front.length = number * limit) : left ∈ page limit (number + 1) (front ++ left :: back) := by
  obtain ⟨fewer, isLimit⟩ : ∃ fewer, limit = fewer + 1 := ⟨limit - 1, by omega⟩
  rw [page, Nat.add_sub_cancel, ← atStart, List.drop_left, isLimit, List.take_succ_cons]
  exact List.mem_cons_self

/-- A boundary inside a group lets two queries show one row twice. -/
theorem exists_firstPages_not_nodup {arranged : List Row} (arranges : Arranges key rows arranged) (positive : 1 ≤ limit)
    {number : Nat} (cut : Cuts key rows (number * limit)) :
    ∃ swapped, Arranges key rows swapped ∧
      ¬ (firstPages limit (fun query => if query ≤ number then arranged else swapped)
        (pageCount rows.length limit)).Nodup := by
  obtain ⟨front, left, right, back, rfl, atEnd, same⟩ := arranges.exists_of_cuts cut
  refine ⟨_, arranges.swap same, fun nodup => ?_⟩
  have inside : number * limit < rows.length := by
    obtain ⟨shared, -, more⟩ := cut
    exact Nat.lt_of_lt_of_le more List.countP_le_length
  have later : number ≠ 0 := by
    rintro rfl
    rw [Nat.zero_mul] at atEnd
    omega
  obtain ⟨before, rfl⟩ : ∃ before, number = before + 1 := ⟨number - 1, by omega⟩
  have both := nodup.sublist (firstPages_isPrefix limit _ (lt_pageCount positive inside)).sublist
  rw [firstPages, firstPages, List.append_assoc, if_pos (Nat.le_refl _), if_neg (Nat.not_succ_le_self _)] at both
  have apart := (List.nodup_append.mp (List.nodup_append.mp both).2.1).2.2
  have again : front ++ right :: left :: back = (front ++ [right]) ++ left :: back := by
    rw [List.append_assoc, List.singleton_append]
  refine apart left (mem_page_last positive atEnd) left ?_ rfl
  rw [again]
  exact mem_page_first positive (by rw [List.length_append, List.length_singleton, atEnd])

/-! ## The page of one row -/

/-- The page on which the rows of a key begin. -/
def pageOfKey (key : Row → Nat) (rows : List Row) (limit shared : Nat) : Nat :=
  rows.countP (fun row => shared < key row) / limit + 1

/-- The rows of a key end on the page on which they begin. -/
def EndsOnPage (key : Row → Nat) (rows : List Row) (limit shared : Nat) : Prop :=
  rows.countP (fun row => shared ≤ key row) ≤ pageOfKey key rows limit shared * limit

/-- The rows before those of a key end on its page or right before it. -/
theorem countP_lt_pageOfKey (key : Row → Nat) (positive : 1 ≤ limit) (rows : List Row) (shared : Nat) :
    (pageOfKey key rows limit shared - 1) * limit ≤ rows.countP (fun row => shared < key row) ∧
      rows.countP (fun row => shared < key row) < pageOfKey key rows limit shared * limit := by
  rw [pageOfKey, Nat.add_sub_cancel, Nat.add_mul, Nat.one_mul]
  have split := Nat.div_add_mod' (rows.countP fun row => shared < key row) limit
  have := Nat.mod_lt (rows.countP fun row => shared < key row) positive
  omega

section

variable {arranged : List Row} {row : Row} {number : Nat}

/-- Where a row that is on a page may stand in the whole list. -/
theorem Arranges.lt_of_mem_page (arranges : Arranges key rows arranged) (first : 1 ≤ number)
    (onPage : row ∈ page limit number arranged) :
    rows.countP (fun other => key row < key other) < number * limit ∧
      (number - 1) * limit < rows.countP fun other => key row ≤ key other := by
  obtain ⟨before, rfl⟩ : ∃ before, number = before + 1 := ⟨number - 1, by omega⟩
  have early : row ∈ arranged.take ((before + 1) * limit) :=
    take_append_page limit before arranged ▸ List.mem_append_right _ onPage
  exact ⟨arranges.countP_lt_of_mem_take early, arranges.lt_countP_of_mem_drop (List.mem_of_mem_take onPage)⟩

/-- A group that ends on its first page is on no other. -/
theorem Arranges.eq_pageOfKey (arranges : Arranges key rows arranged) (positive : 1 ≤ limit) (first : 1 ≤ number)
    (ends : EndsOnPage key rows limit (key row)) (onPage : row ∈ page limit number arranged) :
    number = pageOfKey key rows limit (key row) := by
  obtain ⟨early, late⟩ := arranges.lt_of_mem_page first onPage
  have notBefore := (countP_lt_pageOfKey key positive rows (key row)).1
  have below : pageOfKey key rows limit (key row) - 1 < number :=
    Nat.lt_of_mul_lt_mul_right (Nat.lt_of_le_of_lt notBefore early)
  have above : number - 1 < pageOfKey key rows limit (key row) :=
    Nat.lt_of_mul_lt_mul_right (Nat.lt_of_lt_of_le late ends)
  omega

/-- A group that ends on its first page has all its rows there, in whatever order. -/
theorem Arranges.mem_page (arranges : Arranges key rows arranged) (positive : 1 ≤ limit) (present : row ∈ rows)
    (ends : EndsOnPage key rows limit (key row)) : row ∈ page limit (pageOfKey key rows limit (key row)) arranged := by
  obtain ⟨notBefore, -⟩ := countP_lt_pageOfKey key positive rows (key row)
  obtain ⟨before, isNext⟩ : ∃ before, pageOfKey key rows limit (key row) = before + 1 := ⟨_, rfl⟩
  rw [EndsOnPage, isNext] at ends
  rw [isNext, Nat.add_sub_cancel] at notBefore
  have taken : row ∈ arranged.take ((before + 1) * limit) := by
    have inList := arranges.perm.mem_iff.mpr present
    rw [← List.take_append_drop ((before + 1) * limit) arranged] at inList
    refine (List.mem_append.mp inList).resolve_right fun late => ?_
    exact Nat.not_lt.mpr ends (arranges.lt_countP_of_mem_drop late)
  rw [isNext]
  rw [← take_append_page] at taken
  refine (List.mem_append.mp taken).resolve_left fun early => ?_
  exact Nat.not_lt.mpr notBefore (arranges.countP_lt_of_mem_take early)

/-! ### A row that is missed -/

variable (key) (marked : Row → Prop) [DecidablePred marked]

/-- The key with the marked row before the others of its key. -/
def withFirst (other : Row) : Nat := 2 * key other + if marked other then 1 else 0

/-- The key with the marked row behind the others of its key. -/
def withLast (other : Row) : Nat := 2 * key other + if marked other then 0 else 1

variable {key}

/-- A group that goes on behind its first page loses a row that comes last on that page's query and first on all
    others. -/
theorem not_mem_page_of_not_endsOnPage (queries : Nat → List Row) (positive : 1 ≤ limit) (nodup : rows.Nodup)
    (present : row ∈ rows) (isMarked : marked row) (only : ∀ other ∈ rows, marked other → other = row)
    (goesOn : ¬ EndsOnPage key rows limit (key row))
    (atFirst : ∀ number, number ≠ pageOfKey key rows limit (key row) → Arranges (withFirst key marked) rows (queries number))
    (atLast : Arranges (withLast key marked) rows (queries (pageOfKey key rows limit (key row)))) (first : 1 ≤ number) :
    row ∉ page limit number (queries number) := by
  intro onPage
  obtain ⟨before, behind, rfl⟩ := List.append_of_mem present
  have apart : ∀ other ∈ before ++ behind, ¬ marked other := by
    intro other inRest isOther
    have others := List.nodup_middle.mp nodup
    obtain rfl := only other (by simp only [List.mem_append, List.mem_cons] at inRest ⊢; tauto) isOther
    exact (List.nodup_cons.mp others).1 inRest
  -- what the marked row adds to a count, and what the others do
  have counted (property : Row → Bool) : (before ++ row :: behind).countP property =
      (before ++ behind).countP property + if property row then 1 else 0 := by
    simp only [List.countP_append, List.countP_cons]
    omega
  have same (left right : Row → Bool) (agree : ∀ other, ¬ marked other → (left other = true ↔ right other = true)) :
      (before ++ behind).countP left = (before ++ behind).countP right :=
    List.countP_congr fun other inRest => agree other (apart other inRest)
  obtain ⟨notBefore, before'⟩ := countP_lt_pageOfKey key positive (before ++ row :: behind) (key row)
  by_cases isPage : number = pageOfKey key (before ++ row :: behind) limit (key row)
  · obtain ⟨early, -⟩ := (isPage ▸ atLast : Arranges _ _ (queries number)).lt_of_mem_page first onPage
    rw [EndsOnPage, ← isPage, counted, if_pos (decide_eq_true (Nat.le_refl _))] at goesOn
    rw [counted, if_neg (by simp), same _ (fun other => key row ≤ key other)] at early
    · omega
    · intro other isOther
      simp only [withLast, if_pos isMarked, if_neg isOther, decide_eq_true_eq]
      omega
  · obtain ⟨early, late⟩ := (atFirst number isPage).lt_of_mem_page first onPage
    rw [counted, if_neg (by simp), same _ (fun other => key row < key other)] at early
    · rw [counted, if_pos (by simp), same _ (fun other => key row < key other)] at late
      · rw [counted, if_neg (by simp)] at notBefore before'
        refine isPage ?_
        have below : pageOfKey key (before ++ row :: behind) limit (key row) - 1 < number :=
          Nat.lt_of_mul_lt_mul_right (Nat.lt_of_le_of_lt notBefore early)
        have above : number - 1 < pageOfKey key (before ++ row :: behind) limit (key row) :=
          Nat.lt_of_mul_lt_mul_right (Nat.lt_of_le_of_lt (Nat.le_of_lt_succ late) before')
        omega
      · intro other isOther
        simp only [withFirst, if_pos isMarked, if_neg isOther, decide_eq_true_eq]
        omega
    · intro other isOther
      simp only [withFirst, if_pos isMarked, if_neg isOther, decide_eq_true_eq]
      omega

end

end StoreSaas.Paging
