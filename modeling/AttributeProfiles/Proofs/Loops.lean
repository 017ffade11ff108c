import Mathlib.Data.List.Nodup

/-!
# Loops

The program's loops are folds. A property that each step brings about or keeps holds at the end if
some step brought it about: `foldl_iff`. And a loop may go through its elements in another order, as
long as steps that depend on each other stay in their relative order: `foldl_eq_of_reordered`.
-/

namespace AttributeProfiles.Loops

variable {α β : Type}

/-- A property that a step keeps, and brings about for some elements, holds after a loop if it held
before or one of these elements was there. -/
theorem foldl_iff {f : β → α → β} (p : β → Prop) {q : α → Prop}
    (step : ∀ b x, p (f b x) ↔ q x ∨ p b) (xs : List α) (b : β) :
    p (xs.foldl f b) ↔ (∃ x ∈ xs, q x) ∨ p b := by
  induction xs generalizing b with
  | nil => simp
  | cons x xs ih =>
    rw [List.foldl_cons, ih, step]
    simp only [List.exists_mem_cons_iff, or_assoc, or_left_comm]

theorem foldlM_congr {m : Type → Type} [Monad m] {f g : β → α → m β} {xs : List α}
    (h : ∀ x ∈ xs, ∀ b, f b x = g b x) (b : β) : xs.foldlM f b = xs.foldlM g b := by
  induction xs generalizing b with
  | nil => rfl
  | cons x xs ih =>
    rw [List.foldlM_cons, List.foldlM_cons, h x List.mem_cons_self b]
    congr 1
    funext c
    exact ih (fun y hy => h y (List.mem_cons_of_mem x hy)) c

theorem findSome?_flatMap {γ : Type} (f : α → List β) (g : β → Option γ) (xs : List α) :
    (xs.flatMap f).findSome? g = xs.findSome? fun x => (f x).findSome? g := by
  induction xs with
  | nil => rfl
  | cons x xs ih =>
    rw [List.flatMap_cons, List.findSome?_append, List.findSome?_cons, ih]
    cases (f x).findSome? g <;> rfl

theorem findSome?_filter {γ : Type} (keep : α → Bool) (g : α → Option γ) (xs : List α) :
    (xs.filter keep).findSome? g = xs.findSome? fun x => if keep x then g x else none := by
  induction xs with
  | nil => rfl
  | cons x xs ih =>
    cases hx : keep x with
    | true => rw [List.filter_cons_of_pos hx, List.findSome?_cons, List.findSome?_cons, ih, if_pos hx]
    | false => simp [hx, ih]

theorem flatMap_filter_eq {keep : α → Bool} {f : α → List β} {xs : List α}
    (h : ∀ x ∈ xs, keep x = false → f x = []) : (xs.filter keep).flatMap f = xs.flatMap f := by
  induction xs with
  | nil => rfl
  | cons x xs ih =>
    have htail := ih fun y hy => h y (List.mem_cons_of_mem x hy)
    cases hx : keep x with
    | true => rw [List.filter_cons_of_pos hx, List.flatMap_cons, List.flatMap_cons, htail]
    | false =>
      rw [List.filter_cons_of_neg (by simp [hx]), List.flatMap_cons, htail,
        h x List.mem_cons_self hx, List.nil_append]

/-- A step can be done first if it commutes with every step before it. -/
theorem foldl_append_cons_of_comm {f : β → α → β} {before : List α} {x : α}
    (comm : ∀ y ∈ before, ∀ b, f (f b y) x = f (f b x) y) (after : List α) (b : β) :
    (before ++ x :: after).foldl f b = (x :: (before ++ after)).foldl f b := by
  induction before generalizing b with
  | nil => rfl
  | cons y before ih =>
    have htail := ih (fun z hz => comm z (List.mem_cons_of_mem y hz)) (f b y)
    rw [List.cons_append, List.foldl_cons, htail, List.foldl_cons, comm y List.mem_cons_self b]
    rfl

theorem not_mem_of_sublist_pair {x y : α} {before after : List α}
    (nodup : (before ++ x :: after).Nodup) (h : [x, y].Sublist (before ++ x :: after)) :
    y ∉ before := by
  obtain ⟨_, hrest, hdisjoint⟩ := List.nodup_append.1 nodup
  obtain ⟨left, right, hpair, hleft, hright⟩ := List.sublist_append_iff.1 h
  cases left with
  | nil =>
    rw [List.nil_append] at hpair
    subst hpair
    intro hy
    exact hdisjoint y hy y (hright.subset (List.mem_cons_of_mem x List.mem_cons_self)) rfl
  | cons z left =>
    obtain ⟨rfl, -⟩ := List.cons.inj hpair
    exact absurd rfl (hdisjoint x (hleft.subset List.mem_cons_self) x List.mem_cons_self)

theorem sublist_append_of_not_mem {x : α} {part before after : List α} (hx : x ∉ part)
    (h : part.Sublist (before ++ x :: after)) : part.Sublist (before ++ after) := by
  obtain ⟨left, right, rfl, hleft, hright⟩ := List.sublist_append_iff.1 h
  refine hleft.append ?_
  cases hright with
  | cons _ hright => exact hright
  | cons_cons _ hright => exact absurd (List.mem_append_right left List.mem_cons_self) hx

/-- Two loops over the same elements end alike if independent steps commute and elements that
depend on each other come in the same relative order. -/
theorem foldl_eq_of_reordered {f : β → α → β} {depend : α → α → Prop} {xs ys : List α}
    (comm : ∀ x ∈ xs, ∀ y ∈ xs, x ≠ y → ¬ depend x y → ∀ b, f (f b y) x = f (f b x) y)
    (perm : xs.Perm ys) (nodup : xs.Nodup)
    (order : ∀ x y, depend x y → [x, y].Sublist xs → [x, y].Sublist ys) (b : β) :
    xs.foldl f b = ys.foldl f b := by
  induction xs generalizing ys b with
  | nil => rw [perm.nil_eq]
  | cons x xs ih =>
    obtain ⟨before, after, rfl⟩ := List.append_of_mem (perm.subset List.mem_cons_self)
    have hrest : xs.Perm (before ++ after) := (perm.trans List.perm_middle).cons_inv
    obtain ⟨hx, hnodup⟩ := List.nodup_cons.1 nodup
    -- What stands before `x` here follows it there, so it does not depend on it.
    have hcomm : ∀ y ∈ before, ∀ b, f (f b y) x = f (f b x) y := by
      intro y hy
      have hmem : y ∈ xs := hrest.symm.subset (List.mem_append_left after hy)
      have hne : x ≠ y := fun h => hx (h ▸ hmem)
      refine comm x List.mem_cons_self y (List.mem_cons_of_mem x hmem) hne fun hdepend => ?_
      have hpair : [x, y].Sublist (x :: xs) :=
        List.cons_sublist_cons.2 (List.singleton_sublist.2 hmem)
      exact not_mem_of_sublist_pair (perm.nodup_iff.1 nodup) (order x y hdepend hpair) hy
    rw [foldl_append_cons_of_comm hcomm, List.foldl_cons, List.foldl_cons]
    refine ih (fun y hy z hz => comm y (List.mem_cons_of_mem x hy) z (List.mem_cons_of_mem x hz))
      hrest hnodup (fun y z hdepend hpair => ?_) (f b x)
    have hpart : x ∉ [y, z] := fun h => hx (hpair.subset h)
    exact sublist_append_of_not_mem hpart (order y z hdepend (hpair.cons x))

end AttributeProfiles.Loops
