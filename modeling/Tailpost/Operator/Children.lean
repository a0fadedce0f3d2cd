import Tailpost.Operator.Controller

/-!
# Reconciling one child

Triples for the operator's code: calls to the API server, code that tests the
error of a function, and the reconciliation of a child of any kind.  A child
that is reconciled without an error is settled: it was absent and is now the
desired object, or it needed an update and has taken over what the kind takes
over, or it needed none.
-/

namespace Tailpost.Operator

open Tailpost.Hoare
open Tailpost.Storage

/-! ## Rules for the operator's code -/

section Rules

variable {α β : Type} {run : Run} {pre : Session → Prop} {failed : Failure → Session → Prop}

/-- A call to the API server changes nothing by itself. -/
theorem triple_call {api : ApiCall} {context : String}
    (fails : ∀ message, run.fails api = some message → ∀ session, pre session →
      failed (.error (context ++ message)) session) :
    Triple pre (call run api context) (fun _ => pre) failed := by
  unfold call
  cases outcome : run.fails api with
  | none => exact Triple.pure fun _ holds => holds
  | some message => exact Triple.throw (fails message outcome)

theorem triple_checked {stage : Op α} {onError : String → Op β} {next : α → Op β}
    {middle : α → Session → Prop} {broken : Failure → Session → Prop}
    {post : β → Session → Prop} (first : Triple pre stage middle broken)
    (recovers : ∀ message, Triple (broken (.error message)) (onError message) post failed)
    (panics : ∀ session, broken .panic session → failed .panic session)
    (goesOn : ∀ value, Triple (middle value) (next value) post failed) :
    Triple pre (checked stage onError next) post failed := by
  unfold checked
  apply (first.attempt.weaken (fun _ => id) (fun _ _ => id) (fun _ _ => False.elim)).bind
  intro outcome
  cases outcome with
  | ok value => exact goesOn value
  | error failure =>
      cases failure with
      | error message => exact recovers message
      | panic => exact Triple.throw panics

end Rules

/-! ## Settled children -/

/-- An error is returned only when a call fails. -/
def Blames (run : Run) (failure : Failure) : Prop :=
  ∀ message, failure = .error message → ∃ api, run.fails api ≠ none

theorem blames_of_fails {run : Run} {api : ApiCall} {message : String} (failure : Failure)
    (fails : run.fails api = some message) : Blames run failure := by
  intro _ _
  exact ⟨api, by simp [fails]⟩

theorem blames_panic (run : Run) : Blames run .panic := by
  intro message same
  contradiction

namespace ChildKind

variable {α : Type} {key : α → NamespacedName} (kind : ChildKind key)

/-- The child that is stored after a successful reconciliation. -/
def settled (live : Option α) (desired : α) : Except Failure α :=
  match live with
  | none => .ok desired
  | some found =>
      match kind.needsUpdate found desired with
      | .ok true => .ok (kind.merge found desired)
      | .ok false => .ok found
      | .error failure => .error failure

variable {kind} {live : Option α} {desired object : α}

theorem key_of_settled (settled : kind.settled live desired = .ok object)
    (named : ∀ found, live = some found → key found = key desired) :
    key object = key desired := by
  unfold ChildKind.settled at settled
  split at settled
  · cases settled
    rfl
  · rename_i found
    split at settled
    · cases settled
      rw [kind.key_merge]
      exact named found rfl
    · cases settled
      exact named object rfl
    · contradiction

/-- A settled child needs no update. -/
theorem needsUpdate_of_settled (settled : kind.settled live desired = .ok object)
    (sound : kind.needsUpdate desired desired = .ok false) :
    kind.needsUpdate object desired = .ok false := by
  unfold ChildKind.settled at settled
  split at settled
  · cases settled
    exact sound
  · split at settled
    · cases settled
      rw [kind.needsUpdate_merge]
      exact sound
    · cases settled
      assumption
    · contradiction

/-- What an update does not take over from the desired object stays as it was. -/
theorem eq_getD_of_settled {β : Type} {field : α → β}
    (keeps : ∀ found desired, field (kind.merge found desired) = field found)
    (settled : kind.settled live desired = .ok object) :
    field object = (live.map field).getD (field desired) := by
  unfold ChildKind.settled at settled
  split at settled
  · cases settled
    rfl
  · rename_i found
    split at settled
    · cases settled
      exact keeps found desired
    · cases settled
      rfl
    · contradiction

/-- A child of this kind is settled, and nothing else of the cluster changes. -/
def Settles (kind : ChildKind key) (created : Except Failure α) (before after : Cluster) : Prop :=
  ∃ desired object, created = .ok desired ∧
    kind.settled ((kind.store before).get (key desired)) desired = .ok object ∧
    after = kind.withStore before ((kind.store before).put object)

/-- After a run the child that is stored is the settled one. -/
def Carries (kind : ChildKind key) (created : Except Failure α) (before after : Cluster) : Prop :=
  ∃ desired object, created = .ok desired ∧
    kind.settled ((kind.store before).get (key desired)) desired = .ok object ∧
    (kind.store after).get (key desired) = some object

theorem Settles.carries {created : Except Failure α} {before after : Cluster}
    (settles : kind.Settles created before after) : kind.Carries created before after := by
  rcases settles with ⟨desired, object, created, settled, rfl⟩
  have name := key_of_settled settled fun _ live => (kind.store before).named live
  refine ⟨desired, object, created, settled, ?_⟩
  rw [kind.store_withStore, ← name]
  exact Store.get_put_self _ _

/-- The child that is stored needs no update. -/
def UpToDate (kind : ChildKind key) (created : Except Failure α) (cluster : Cluster) : Prop :=
  ∃ desired live, created = .ok desired ∧
    (kind.store cluster).get (key desired) = some live ∧
    kind.needsUpdate live desired = .ok false

theorem UpToDate.of_get_eq {created : Except Failure α} {before after : Cluster}
    (upToDate : kind.UpToDate created before)
    (same : ∀ desired, created = .ok desired →
      (kind.store after).get (key desired) = (kind.store before).get (key desired)) :
    kind.UpToDate created after := by
  rcases upToDate with ⟨desired, live, created, stored, unneeded⟩
  exact ⟨desired, live, created, (same desired created).trans stored, unneeded⟩

theorem Carries.upToDate {created : Except Failure α} {before after : Cluster}
    (carries : kind.Carries created before after)
    (sound : ∀ {desired}, created = .ok desired →
      kind.needsUpdate desired desired = .ok false) : kind.UpToDate created after := by
  rcases carries with ⟨desired, object, created, settled, stored⟩
  exact ⟨desired, object, created, stored, needsUpdate_of_settled settled (sound created)⟩

end ChildKind

section Children

variable {α : Type} {key : α → NamespacedName} (kind : ChildKind key) (run : Run)
  (cluster : Cluster)

theorem call_spec (api : ApiCall) (context : String) :
    Triple (fun session => session.cluster = cluster) (call run api context)
      (fun _ session => session.cluster = cluster)
      (fun failure session => session.cluster = cluster ∧ Blames run failure) :=
  triple_call fun _ fails _ same => ⟨same, blames_of_fails _ fails⟩

theorem issue_spec (effect : Effect) {failed : Failure → Session → Prop} :
    Triple (fun session => session.cluster = cluster) (issue effect)
      (fun _ session => session.cluster = cluster) failed :=
  fun _ same => same

theorem write_spec (change : Cluster → Cluster) {failed : Failure → Session → Prop} :
    Triple (fun session => session.cluster = cluster) (write change)
      (fun _ session => session.cluster = change cluster) failed :=
  fun _ same => congrArg change same

theorem writeChild_spec (api : ApiCall) (effect : Effect) (verb past : String) (object : α) :
    Triple (fun session => session.cluster = cluster)
      (writeChild kind run api effect verb past object)
      (fun _ session =>
        session.cluster = kind.withStore cluster ((kind.store cluster).put object))
      (fun failure session => session.cluster = cluster ∧ Blames run failure) := by
  unfold writeChild
  apply (issue_spec cluster effect).bind
  intro _
  apply (call_spec run cluster api _).bind
  intro _
  apply (write_spec cluster _).bind
  intro _
  exact issue_spec _ _

/-- A child that is reconciled without an error is settled; otherwise nothing
was written. -/
theorem reconcileChild_spec (desired : α) :
    Triple (fun session => session.cluster = cluster) (reconcileChild kind run desired)
      (fun _ session => kind.Settles (.ok desired) cluster session.cluster)
      (fun failure session => session.cluster = cluster ∧ Blames run failure) := by
  unfold reconcileChild
  apply (call_spec run cluster _ _).bind
  intro _
  apply (call_spec run cluster _ _).bind
  intro _
  apply Triple.reads.bind
  intro session
  apply Triple.suppose (session.cluster = cluster)
  · rintro _ ⟨rfl, same⟩
    exact same
  · intro same
    rw [same]
    cases live : (kind.store cluster).get (key desired) with
    | none =>
        apply (writeChild_spec kind run cluster _ _ _ _ desired).weaken (fun _ => And.right)
        · intro _ state stored
          exact ⟨desired, desired, rfl, by rw [live]; rfl, stored⟩
        · exact fun _ _ => id
    | some found =>
        have tested : Triple (fun state => session = state ∧ state.cluster = cluster)
            (lift (kind.needsUpdate found desired))
            (fun needed state => state.cluster = cluster ∧
              kind.needsUpdate found desired = .ok needed)
            (fun failure state => state.cluster = cluster ∧ Blames run failure) := by
          apply Triple.lifts
          · intro needed result state holds
            exact ⟨holds.2, result⟩
          · intro failure result state holds
            exact ⟨holds.2, kind.eq_panic result ▸ blames_panic run⟩
        apply tested.bind
        intro needed
        apply Triple.suppose (kind.needsUpdate found desired = .ok needed) fun _ => And.right
        intro result
        cases needed with
        | true =>
            apply (writeChild_spec kind run cluster _ _ _ _ _).weaken (fun _ => And.left)
            · intro _ state stored
              exact ⟨desired, _, rfl, by simp [live, ChildKind.settled, result], stored⟩
            · exact fun _ _ => id
        | false =>
            apply Triple.pure
            intro state holds
            have name := (kind.store cluster).named live
            refine ⟨desired, found, rfl, by simp [live, ChildKind.settled, result], ?_⟩
            rw [Store.put_of_get (name ▸ live), kind.withStore_store]
            exact holds.1

/-- The same with the step that creates the desired object. -/
theorem reconcileCreated_spec {created : Except Failure α}
    (panics : ∀ {failure}, created = .error failure → failure = .panic) :
    Triple (fun session => session.cluster = cluster)
      (do reconcileChild kind run (← lift created))
      (fun _ session => kind.Settles created cluster session.cluster)
      (fun failure session => session.cluster = cluster ∧ Blames run failure) := by
  cases created with
  | ok desired => exact reconcileChild_spec kind run cluster desired
  | error failure =>
      cases panics rfl
      exact fun _ same => ⟨same, blames_panic run⟩

end Children

end Tailpost.Operator
