/-!
# Ascending lists of names

Names are listed in ascending order by code point. A set of names is listed by sorting them and
dropping each name that repeats the one before it.
-/

namespace AttributeProfiles.Names

/-- A name put at its place in an ascending list. -/
def place (name : String) : List String → List String
  | [] => [name]
  | n :: ns => if name ≤ n then name :: n :: ns else n :: place name ns

def sort (names : List String) : List String := names.foldr place []

/-- A list without the names that stand right behind the same name. -/
def dropRepeats : List String → List String
  | [] => []
  | [n] => [n]
  | m :: n :: ns => if m = n then dropRepeats (n :: ns) else m :: dropRepeats (n :: ns)

/-- The distinct names of a list, in ascending order. -/
def ascending (names : List String) : List String := dropRepeats (sort names)

theorem perm_place (name : String) (ns : List String) : (place name ns).Perm (name :: ns) := by
  fun_induction place name ns with
  | case1 | case2 => exact .refl _
  | case3 n ns h ih => exact (ih.cons n).trans (.swap name n ns)

theorem perm_sort (names : List String) : (sort names).Perm names := by
  induction names with
  | nil => exact .refl _
  | cons n ns ih => exact (perm_place n (sort ns)).trans (ih.cons n)

theorem pairwise_place (name : String) {ns : List String} (h : ns.Pairwise (· ≤ ·)) :
    (place name ns).Pairwise (· ≤ ·) := by
  fun_induction place name ns with
  | case1 => exact List.pairwise_singleton _ _
  | case2 n ns hle =>
    refine List.pairwise_cons.2 ⟨fun m hm => ?_, h⟩
    rcases List.mem_cons.1 hm with rfl | hm
    · exact hle
    · exact String.le_trans hle ((List.pairwise_cons.1 h).1 m hm)
  | case3 n ns hnle ih =>
    obtain ⟨hhead, htail⟩ := List.pairwise_cons.1 h
    refine List.pairwise_cons.2 ⟨fun m hm => ?_, ih htail⟩
    rcases List.mem_cons.1 ((perm_place name ns).mem_iff.1 hm) with rfl | hm
    · exact (String.le_total m n).resolve_left hnle
    · exact hhead m hm

theorem pairwise_sort (names : List String) : (sort names).Pairwise (· ≤ ·) := by
  induction names with
  | nil => exact .nil
  | cons n ns ih => exact pairwise_place n ih

theorem pairwise_lt_sort {names : List String} (h : names.Nodup) :
    (sort names).Pairwise (· < ·) := by
  have hdistinct : (sort names).Nodup := (perm_sort names).nodup_iff.2 h
  exact ((pairwise_sort names).and hdistinct).imp fun ⟨hle, hne⟩ => Std.lt_of_le_of_ne hle hne

@[simp] theorem mem_dropRepeats {name : String} {ns : List String} :
    name ∈ dropRepeats ns ↔ name ∈ ns := by
  fun_induction dropRepeats ns with
  | case1 => rfl
  | case2 n => rfl
  | case3 n ns ih => simp [ih]
  | case4 m n ns hne ih => rw [List.mem_cons, List.mem_cons, ih]

/-- In a sorted list equal names stand together, so no repetition is left. -/
theorem pairwise_dropRepeats {ns : List String} (h : ns.Pairwise (· ≤ ·)) :
    (dropRepeats ns).Pairwise (· < ·) := by
  fun_induction dropRepeats ns with
  | case1 => exact .nil
  | case2 n => exact List.pairwise_singleton _ _
  | case3 n ns ih => exact ih h.tail
  | case4 m n ns hne ih =>
    obtain ⟨hhead, htail⟩ := List.pairwise_cons.1 h
    refine List.pairwise_cons.2 ⟨fun k hk => ?_, ih htail⟩
    -- The name behind `m` is larger, and no later one is smaller than that.
    have hmn : m < n := Std.lt_of_le_of_ne (hhead n List.mem_cons_self) hne
    rcases List.mem_cons.1 (mem_dropRepeats.1 hk) with rfl | hk
    · exact hmn
    · exact Std.lt_of_lt_of_le hmn ((List.pairwise_cons.1 htail).1 k hk)

@[simp] theorem mem_ascending {name : String} {names : List String} :
    name ∈ ascending names ↔ name ∈ names := by
  rw [ascending, mem_dropRepeats, (perm_sort names).mem_iff]

theorem pairwise_ascending (names : List String) : (ascending names).Pairwise (· < ·) :=
  pairwise_dropRepeats (pairwise_sort names)

end AttributeProfiles.Names
