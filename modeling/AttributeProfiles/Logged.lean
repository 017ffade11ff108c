/-!
# Logged computations

A computation that logs gives its result together with the events that it logged, in their order.
What a loop returns and what it logs can then be stated apart from each other.
-/

namespace AttributeProfiles

/-- A result and the events logged on the way to it. -/
structure Logged (ε α : Type) where
  value : α
  events : List ε

namespace Logged

variable {ε α β : Type}

def log (event : ε) : Logged ε Unit := ⟨(), [event]⟩

instance : Monad (Logged ε) where
  pure a := ⟨a, []⟩
  bind x f := ⟨(f x.value).value, x.events ++ (f x.value).events⟩

@[simp] theorem pure_value (a : α) : (pure a : Logged ε α).value = a := rfl

@[simp] theorem pure_events (a : α) : (pure a : Logged ε α).events = [] := rfl

@[simp] theorem bind_value (x : Logged ε α) (f : α → Logged ε β) :
    (x >>= f).value = (f x.value).value := rfl

@[simp] theorem bind_events (x : Logged ε α) (f : α → Logged ε β) :
    (x >>= f).events = x.events ++ (f x.value).events := rfl

@[simp] theorem map_value (f : α → β) (x : Logged ε α) : (f <$> x).value = f x.value := rfl

@[simp] theorem map_events (f : α → β) (x : Logged ε α) : (f <$> x).events = x.events :=
  List.append_nil _

@[simp] theorem log_value (event : ε) : (log event).value = () := rfl

@[simp] theorem log_events (event : ε) : (log event).events = [event] := rfl

instance : LawfulMonad (Logged ε) := LawfulMonad.mk' (Logged ε)
  (fun x => by
    show (⟨x.value, x.events ++ []⟩ : Logged ε _) = x
    simp)
  (fun a f => by
    show (⟨(f a).value, [] ++ (f a).events⟩ : Logged ε _) = f a
    simp)
  (fun x f g => by
    show (⟨_, (x.events ++ (f x.value).events) ++ _⟩ : Logged ε _) = ⟨_, x.events ++ (_ ++ _)⟩
    simp)

@[simp] theorem foldlM_value (f : β → α → Logged ε β) (b : β) (xs : List α) :
    (xs.foldlM f b).value = xs.foldl (fun b a => (f b a).value) b := by
  induction xs generalizing b with
  | nil => rfl
  | cons x xs ih => simp [ih]

@[simp] theorem mapM_value (f : α → Logged ε β) (xs : List α) :
    (xs.mapM f).value = xs.map fun a => (f a).value := by
  induction xs with
  | nil => rfl
  | cons x xs ih => simp [ih]

end Logged

end AttributeProfiles
