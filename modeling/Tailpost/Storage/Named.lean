import Mathlib.Logic.Function.Basic

/-!
# Stores of named objects

An API server keeps every object under the name the object itself carries.
-/

namespace Tailpost.Storage

universe u v

/-- A store that keeps each object under its own name. -/
@[ext]
structure Store {κ : Type u} {α : Type v} (name : α → κ) where
  get : κ → Option α
  named : ∀ {key object}, get key = some object → name object = key

namespace Store

variable {κ : Type u} {α : Type v} {name : α → κ}

/-- A store without objects. -/
def empty : Store name where
  get := fun _ => none
  named := by
    intro key object stored
    contradiction

variable [DecidableEq κ]

/-- Write an object under its name. -/
def put (store : Store name) (object : α) : Store name where
  get := Function.update store.get (name object) (some object)
  named := by
    intro key other stored
    by_cases same : key = name object
    · rw [same, Function.update_self] at stored
      cases stored
      exact same.symm
    · rw [Function.update_of_ne same] at stored
      exact store.named stored

@[simp]
theorem get_put_self (store : Store name) (object : α) :
    (store.put object).get (name object) = some object :=
  Function.update_self _ _ _

theorem get_put_of_ne (store : Store name) {object : α} {key : κ} (other : key ≠ name object) :
    (store.put object).get key = store.get key :=
  Function.update_of_ne other _ _

/-- A second object of the same name replaces the first. -/
theorem put_put (store : Store name) {first second : α} (same : name first = name second) :
    (store.put first).put second = store.put second := by
  apply Store.ext
  simp only [put, same, Function.update_idem]

/-- Writing back what is stored changes nothing. -/
theorem put_of_get {store : Store name} {object : α}
    (stored : store.get (name object) = some object) : store.put object = store := by
  apply Store.ext
  funext key
  by_cases same : key = name object
  · rw [same, get_put_self, stored]
  · exact store.get_put_of_ne same

/-- Remove the object of a name. -/
def erase (store : Store name) (key : κ) : Store name where
  get := Function.update store.get key none
  named := by
    intro found object stored
    by_cases same : found = key
    · rw [same, Function.update_self] at stored
      contradiction
    · rw [Function.update_of_ne same] at stored
      exact store.named stored

/-- What is left was there before. -/
theorem get_of_get_erase {store : Store name} {key found : κ} {object : α}
    (stored : (store.erase key).get found = some object) : store.get found = some object := by
  simp only [erase] at stored
  by_cases same : found = key
  · rw [same, Function.update_self] at stored
    contradiction
  · rwa [Function.update_of_ne same] at stored

/-- Whatever is found after a write was written or was there before. -/
theorem get_put_cases {store : Store name} {object found : α} {key : κ}
    (stored : (store.put object).get key = some found) :
    (key = name object ∧ found = object) ∨ store.get key = some found := by
  by_cases same : key = name object
  · rw [same, get_put_self] at stored
    exact Or.inl ⟨same, (Option.some.inj stored).symm⟩
  · rw [store.get_put_of_ne same] at stored
    exact Or.inr stored

/-- A write removes nothing. -/
theorem exists_get_put {store : Store name} {key : κ} {found : α}
    (stored : store.get key = some found) (object : α) :
    ∃ later, (store.put object).get key = some later := by
  by_cases same : key = name object
  · exact ⟨object, same ▸ store.get_put_self object⟩
  · exact ⟨found, (store.get_put_of_ne same).trans stored⟩

/-- Take over what another store holds under a name. -/
def graft (key : κ) (base own : Store name) : Store name where
  get := Function.update base.get key (own.get key)
  named := by
    intro found object stored
    by_cases same : found = key
    · rw [same, Function.update_self] at stored
      rw [same]
      exact own.named stored
    · rw [Function.update_of_ne same] at stored
      exact base.named stored

theorem get_graft_self (key : κ) (base own : Store name) :
    (graft key base own).get key = own.get key :=
  Function.update_self _ _ _

theorem graft_self (key : κ) (store : Store name) : graft key store store = store :=
  Store.ext (Function.update_eq_self _ _)

/-- An object of this name is written to what is taken over. -/
theorem put_graft {key : κ} (base own : Store name) {object : α} (named : name object = key) :
    (graft key base own).put object = graft key base (own.put object) := by
  apply Store.ext
  subst named
  simp only [put, graft, Function.update_idem, Function.update_self]

/-- What is taken over under different names is independent. -/
theorem graft_comm {key other : κ} (different : key ≠ other) (base own others : Store name) :
    graft other (graft key base own) others = graft key (graft other base others) own :=
  Store.ext (Function.update_comm different _ _ _)

end Store

end Tailpost.Storage
