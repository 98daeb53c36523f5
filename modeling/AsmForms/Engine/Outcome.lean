import AsmForms.Event

/-!
# Engine/Outcome — results together with what was reported on the way

An `Outcome` is a result or a violation, and the events up to it.  Outcomes are put together in
order: after a violation nothing further happens, so nothing further is reported.
-/

namespace AsmForms

/-- A result, and the events on the way to it. -/
structure Outcome (α : Type) where
  result : Except Violation α
  events : List Event

namespace Outcome

variable {α β : Type}

/-- The outcome with further events in front. -/
def after (events : List Event) (outcome : Outcome α) : Outcome α :=
  ⟨outcome.result, events ++ outcome.events⟩

/-- **Goes on with a result**; a violation stands as it is. -/
def bind (outcome : Outcome α) (next : α → Outcome β) : Outcome β :=
  match outcome.result with
  | .error violation => ⟨.error violation, outcome.events⟩
  | .ok value => (next value).after outcome.events

/-- The outcome with its result changed. -/
def map (f : α → β) (outcome : Outcome α) : Outcome β :=
  ⟨outcome.result.map f, outcome.events⟩

@[simp] theorem result_after (events : List Event) (outcome : Outcome α) :
    (outcome.after events).result = outcome.result := rfl

@[simp] theorem events_after (events : List Event) (outcome : Outcome α) :
    (outcome.after events).events = events ++ outcome.events := rfl

@[simp] theorem bind_ok (value : α) (events : List Event) (next : α → Outcome β) :
    bind ⟨.ok value, events⟩ next = (next value).after events := rfl

@[simp] theorem bind_error (violation : Violation) (events : List Event) (next : α → Outcome β) :
    bind ⟨.error violation, events⟩ next = ⟨.error violation, events⟩ := rfl

end Outcome

end AsmForms
