import Tailpost.Container.ContainerReader

/-!
# How long the container reader runs

The tail goroutine returns when it is stopped, and when the pod lookup behind a
stream returns an error.  The lookup fails when the pod is gone, but also when
the API server does not answer and when the 24 hours of the stream's context
are over; the reader treats them alike.
-/

namespace Tailpost.Container

open Tailpost.Transition

/-- Neither is `Stop` called nor is the pod deleted. -/
def Undisturbed (action : Action) : Prop :=
  action ≠ .stop ∧ action ≠ .deletePod

/-- The pod lookup is answered, and the context of the round has not expired
when it is made. -/
def Healthy (system : System) : Action → Prop
  | .tail (.lookup fails) => fails = false ∧ system.reader.expired = false
  | _ => True

instance Healthy.decidable (system : System) :
    (action : Action) → Decidable (Healthy system action)
  | .tail (.lookup fails) =>
      inferInstanceAs (Decidable (fails = false ∧ system.reader.expired = false))
  | .tail .select | .tail .streamFail | .tail .streamOk | .tail .line | .tail (.read _ _)
  | .tail .put | .tail .abort => isTrue trivial
  | .log _ | .receive | .expire | .deletePod | .stop => isTrue trivial

/-- A goroutine that has not returned can only have taken healthy steps. -/
theorem healthy_of_step {system after : System} {action : Action}
    (step : system.step action = some after) (alive : after.reader.pc ≠ .returned) :
    Healthy system action ∧ system.reader.pc ≠ .returned := by
  rcases System.step_cases step with
    ⟨text, clean, rfl, rfl⟩ | ⟨move, reader, rfl, moves, rfl⟩ |
      ⟨line, rest, rfl, pending, rfl⟩ | ⟨rfl, rfl⟩ | ⟨rfl, rfl⟩ | ⟨rfl, rfl⟩
  · exact ⟨trivial, alive⟩
  · cases moves with
    | exit | abort | gone => exact absurd rfl alive
    | found position live =>
        rw [position]
        exact ⟨⟨rfl, live⟩, Pc.noConfusion⟩
    | round position | streamFail position | streamOk position | line position
    | more position | fragment position | failed position | put position =>
        rw [position]
        exact ⟨trivial, Pc.noConfusion⟩
  · exact ⟨trivial, alive⟩
  · exact ⟨trivial, alive⟩
  · exact ⟨trivial, alive⟩
  · unfold ContainerReader.stop at alive
    split at alive <;> exact ⟨trivial, alive⟩

/-- The goroutine runs, and nothing was done that should end it. -/
structure Tailing (system : System) : Prop where
  alive : system.reader.pc ≠ .returned
  present : system.podExists = true
  open_stopCh : system.reader.stopCh = false

theorem tailing_of_step {system after : System} {action : Action} (tailing : Tailing system)
    (healthy : Healthy system action) (undisturbed : Undisturbed action)
    (step : system.step action = some after) : Tailing after := by
  rcases System.step_cases step with
    ⟨text, clean, rfl, rfl⟩ | ⟨move, reader, rfl, moves, rfl⟩ |
      ⟨line, rest, rfl, pending, rfl⟩ | ⟨rfl, rfl⟩ | ⟨rfl, rfl⟩ | ⟨rfl, rfl⟩
  · exact ⟨tailing.alive, tailing.present, tailing.open_stopCh⟩
  · cases moves with
    | exit _ stopped | abort _ stopped =>
        rw [tailing.open_stopCh] at stopped
        contradiction
    | gone _ reason => simp [healthy.1, healthy.2, tailing.present] at reason
    | round | streamFail | streamOk | line | more | fragment | failed | put | found =>
        exact ⟨Pc.noConfusion, tailing.present, tailing.open_stopCh⟩
  · exact ⟨tailing.alive, tailing.present, tailing.open_stopCh⟩
  · exact ⟨tailing.alive, tailing.present, tailing.open_stopCh⟩
  · exact absurd rfl undisturbed.2
  · exact absurd rfl undisturbed.1

/-- A started reader that is not stopped and whose pod exists is still tailing
exactly when every pod lookup so far was answered before the context of its
round expired. -/
theorem alive_iff_healthy {log : Log} {reader : ContainerReader} {final : System}
    {schedule : List Action} (started : ContainerReader.newContainerReader.start = .ok reader)
    (undisturbed : ∀ action ∈ schedule, Undisturbed action)
    (ran : run System.step (.create log reader) schedule = some final) :
    final.reader.pc ≠ .returned ↔
      Meets System.step Healthy (.create log reader) schedule := by
  cases started
  constructor
  · intro alive
    exact (meets_of_run (fun _ _ _ => healthy_of_step) ran alive).1
  · intro healthy
    have meets := healthy.and (meets_of_forall_mem _ undisturbed)
    have tailing : Tailing final := by
      apply invariant_of_run (fun _ _ _ holds met => tailing_of_step holds met.1 met.2) _ meets ran
      exact ⟨Pc.noConfusion, rfl, rfl⟩
    exact tailing.alive

/-- After a round that ends with an answered lookup the reader is still tailing, and all
lookups were answered in time. -/
theorem alive_iff_healthy_oneRound :
    ∃ reader final, ContainerReader.newContainerReader.start = .ok reader ∧
      run System.step (.create .empty reader)
        [.tail .select, .tail .streamOk, .tail (.read 0 (some .eof)),
          .tail (.lookup false)] = some final ∧
      final.reader.pc ≠ .returned ∧
      Meets System.step Healthy (.create .empty reader)
        [.tail .select, .tail .streamOk, .tail (.read 0 (some .eof)),
          .tail (.lookup false)] := by
  obtain ⟨reader, final, started, ran, alive⟩ : ∃ reader final,
      ContainerReader.newContainerReader.start = .ok reader ∧
      run System.step (.create .empty reader)
        [.tail .select, .tail .streamOk, .tail (.read 0 (some .eof)),
          .tail (.lookup false)] = some final ∧ final.reader.pc ≠ .returned :=
    ⟨_, _, rfl, rfl, Pc.noConfusion⟩
  exact ⟨reader, final, started, ran, alive,
    (alive_iff_healthy started (by simp [Undisturbed]) ran).mp alive⟩

/-- The stream lives until its context expires, the lookup that follows fails
under the same context, and the goroutine returns although the pod exists. -/
theorem expired_context_ends_tailing :
    ∃ reader final, ContainerReader.newContainerReader.start = .ok reader ∧
      run System.step (.create .empty reader)
        [.tail .select, .tail .streamOk, .expire, .tail (.read 0 (some .other)),
          .tail (.lookup false)] = some final ∧
      final.podExists = true ∧ final.reader.stopCh = false ∧
      final.reader.isRunning = true ∧ final.reader.pc = .returned := by
  exact ⟨_, _, rfl, rfl, rfl, rfl, rfl, rfl⟩

end Tailpost.Container
