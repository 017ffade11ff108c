import AttributeProfiles.Logged
import Mathlib.Data.List.Forall2

/-!
# What loops log

A loop logs what its steps log, in the order of the steps. So a law that ties the log of one step to
what the step does is a law of the whole loop: if steps can be retold from their logs, loops can, and
if a step logs one event for each of certain things, so does the loop.
-/

namespace AttributeProfiles.Logged

variable {ε α β γ : Type}

@[simp] theorem mapM_events (f : α → Logged ε β) (xs : List α) :
    (xs.mapM f).events = xs.flatMap fun x => (f x).events := by
  induction xs with
  | nil => rfl
  | cons x xs ih => simp [ih]

/-- A loop ends where its log leads, if every step does. -/
theorem foldl_events_foldlM {f : β → α → Logged ε β} {g : β → ε → β}
    (step : ∀ b x, (f b x).events.foldl g b = (f b x).value) (xs : List α) (b : β) :
    (xs.foldlM f b).events.foldl g b = (xs.foldlM f b).value := by
  induction xs generalizing b with
  | nil => rfl
  | cons x xs ih =>
    rw [List.foldlM_cons, bind_events, List.foldl_append, step, ih, bind_value]

theorem forall_mem_events_foldlM {f : β → α → Logged ε β} {p : ε → Prop}
    (step : ∀ b x, ∀ e ∈ (f b x).events, p e) (xs : List α) (b : β) :
    ∀ e ∈ (xs.foldlM f b).events, p e := by
  induction xs generalizing b with
  | nil => simp
  | cons x xs ih =>
    intro e he
    rw [List.foldlM_cons, bind_events, List.mem_append] at he
    exact he.elim (step b x e) (ih _ e)

theorem forall₂_events_foldlM {f : β → α → Logged ε β} {r : γ → ε → Prop} {chosen : ε → Bool}
    {things : α → List γ}
    (step : ∀ b x, List.Forall₂ r (things x) ((f b x).events.filter chosen)) (xs : List α) (b : β) :
    List.Forall₂ r (xs.flatMap things) ((xs.foldlM f b).events.filter chosen) := by
  induction xs generalizing b with
  | nil => exact .nil
  | cons x xs ih =>
    rw [List.foldlM_cons, bind_events, List.filter_append, List.flatMap_cons]
    exact List.rel_append (step b x) (ih _)

end AttributeProfiles.Logged
