import Mathlib.Data.List.Forall2
import Tailpost.Memory.Slice

/-!
# Objects and their deep copies

Pointers and slices refer to cells of a common memory.  What a reader finds by following
them depends on some of the cells only, and stays the same whatever is written to the
others.  A deep copy shows what its original shows and depends on cells that were allocated
for it, so that neither of the two can be changed through the other.
-/

namespace Tailpost.Memory

/-- Cells by address. -/
structure Objects (κ : Type) where
  cells : List κ

variable {κ ρ β γ : Type}

namespace Objects

/-- The next free address. -/
def size (objects : Objects κ) : Nat :=
  objects.cells.length

/-- The cell at an address. -/
def get (objects : Objects κ) (address : Nat) : Option κ :=
  objects.cells[address]?

/-- Allocate a cell. -/
def new (objects : Objects κ) (cell : κ) : Objects κ :=
  ⟨objects.cells ++ [cell]⟩

/-- The cell at an address is replaced. -/
def set (objects : Objects κ) (address : Nat) (cell : κ) : Objects κ :=
  ⟨objects.cells.set address cell⟩

/-- The cells of a part are the same. -/
def AgreesOn (part : Nat → Prop) (objects later : Objects κ) : Prop :=
  ∀ address, part address → later.get address = objects.get address

/-- Whatever becomes of the other cells, the reader finds this value. -/
def Shows (part : Nat → Prop) (objects : Objects κ) (read : Objects κ → Option β) (value : β) :
    Prop :=
  ∀ later, AgreesOn part objects later → read later = some value

/-- The cells that were allocated in between. -/
def Between (objects after : Objects κ) (address : Nat) : Prop :=
  objects.size ≤ address ∧ address < after.size

/-- Only new cells are written. -/
structure Grows (objects after : Objects κ) : Prop where
  size_le : objects.size ≤ after.size
  agrees : AgreesOn (· < objects.size) objects after

variable {objects middle after : Objects κ} {part wider : Nat → Prop}

theorem AgreesOn.trans (first : AgreesOn part objects middle)
    (second : AgreesOn part middle after) : AgreesOn part objects after :=
  fun address inside => (second address inside).trans (first address inside)

theorem AgreesOn.mono (agrees : AgreesOn wider objects after)
    (narrower : ∀ address, part address → wider address) : AgreesOn part objects after :=
  fun address inside => agrees address (narrower address inside)

theorem Grows.refl (objects : Objects κ) : Grows objects objects :=
  ⟨le_rfl, fun _ _ => rfl⟩

theorem Grows.trans (first : Grows objects middle) (second : Grows middle after) :
    Grows objects after where
  size_le := first.size_le.trans second.size_le
  agrees := first.agrees.trans
    (second.agrees.mono fun _ inside => inside.trans_le first.size_le)

theorem size_new (objects : Objects κ) (cell : κ) : (objects.new cell).size = objects.size + 1 := by
  simp [size, new]

theorem get_new_size (objects : Objects κ) (cell : κ) :
    (objects.new cell).get objects.size = some cell := by
  simp [get, new, size]

theorem grows_new (objects : Objects κ) (cell : κ) : Grows objects (objects.new cell) where
  size_le := by
    rw [size_new]
    exact Nat.le_succ _
  agrees := fun _ inside => List.getElem?_append_left inside

theorem size_set (objects : Objects κ) (address : Nat) (cell : κ) :
    (objects.set address cell).size = objects.size :=
  List.length_set

theorem get_set_of_ne {address other : Nat} (different : other ≠ address) (cell : κ) :
    (objects.set address cell).get other = objects.get other :=
  List.getElem?_set_ne different.symm

theorem get_set_self {address : Nat} (inside : address < objects.size) (cell : κ) :
    (objects.set address cell).get address = some cell :=
  List.getElem?_set_self inside

/-! ## Readers -/

namespace Shows

theorem now {read : Objects κ → Option β} {value : β} (shows : Shows part objects read value) :
    read objects = some value :=
  shows objects fun _ _ => rfl

theorem mono {read : Objects κ → Option β} {value : β} (shows : Shows part objects read value)
    (narrower : ∀ address, part address → wider address) : Shows wider objects read value :=
  fun later agrees => shows later (agrees.mono narrower)

theorem transport {read : Objects κ → Option β} {value : β}
    (shows : Shows part objects read value) (agrees : AgreesOn part objects after) :
    Shows part after read value :=
  fun later same => shows later (agrees.trans same)

theorem pure (value : β) : Shows part objects (fun _ => some value) value :=
  fun _ _ => rfl

theorem get {address : Nat} {cell : κ} (found : objects.get address = some cell)
    (inside : part address) : Shows part objects (fun later => later.get address) cell :=
  fun _ agrees => (agrees address inside).trans found

theorem bind {read : Objects κ → Option β} {next : β → Objects κ → Option γ} {value : β}
    {result : γ} (first : Shows part objects read value)
    (second : Shows part objects (next value) result) :
    Shows part objects (fun later => (read later).bind fun found => next found later) result := by
  intro later agrees
  change (read later).bind _ = some result
  rw [first later agrees]
  exact second later agrees

theorem mapM {read : ρ → Objects κ → Option β} {records : List ρ} {values : List β}
    (each : List.Forall₂ (fun record value => Shows part objects (read record) value)
      records values) :
    Shows part objects (fun later => records.mapM fun record => read record later) values := by
  induction each with
  | nil => exact pure []
  | cons first _ ih =>
      simp only [List.mapM_cons]
      exact first.bind (ih.bind (pure _))

/-- Cells that were allocated before stay as they are. -/
theorem carry {read : Objects κ → Option β} {value : β}
    (shows : Shows (Between objects middle) middle read value) (grows : Grows middle after) :
    Shows (Between objects after) after read value :=
  (shows.transport (grows.agrees.mono fun _ between => between.2)).mono
    fun _ between => ⟨between.1, between.2.trans_le grows.size_le⟩

end Shows

/-- What the reader finds depends on allocated cells only. -/
def Steady (read : Objects κ → Option β) : Prop :=
  ∀ objects value, read objects = some value → Shows (· < objects.size) objects read value

namespace Steady

theorem pure (value : β) : Steady fun _ : Objects κ => some value := by
  intro objects found same
  cases same
  exact Shows.pure _

theorem get (address : Nat) : Steady fun objects : Objects κ => objects.get address := by
  intro objects cell found
  exact Shows.get found (List.getElem?_eq_some_iff.mp found).1

theorem ofOption (value : Option β) : Steady fun _ : Objects κ => value := by
  intro objects found same _ _
  exact same

theorem bind {read : Objects κ → Option β} {next : β → Objects κ → Option γ}
    (first : Steady read) (second : ∀ value, Steady (next value)) :
    Steady fun objects => (read objects).bind fun found => next found objects := by
  intro objects result found
  obtain ⟨value, reads, rest⟩ := Option.bind_eq_some_iff.mp found
  exact (first objects value reads).bind (second value objects result rest)

theorem mapM {read : ρ → Objects κ → Option β} (each : ∀ record, Steady (read record))
    (records : List ρ) : Steady fun objects => records.mapM fun record => read record objects := by
  induction records with
  | nil => exact pure []
  | cons record records ih =>
      simp only [List.mapM_cons]
      exact (each record).bind fun value => ih.bind fun values => pure (value :: values)

end Steady

/-! ## Pointers and slices -/

/-- The cells that hold values of a type. -/
structure Embeds (κ ρ : Type) where
  wrap : ρ → κ
  unwrap : κ → Option ρ
  unwrap_wrap : ∀ value, unwrap (wrap value) = some value

/-- Cells that are told apart by a tag. -/
def Embeds.tagged {ι : Type} [DecidableEq ι] {Content : ι → Type} (tag : ι) :
    Embeds (Sigma Content) (Content tag) where
  wrap value := ⟨tag, value⟩
  unwrap cell := if same : cell.1 = tag then some (same ▸ cell.2) else none
  unwrap_wrap _ := dif_pos rfl

/-- The value at an address. -/
def deref (kind : Embeds κ ρ) (address : Nat) (objects : Objects κ) : Option ρ :=
  (objects.get address).bind kind.unwrap

/-- What is behind a pointer that may be nil. -/
def readObject (kind : Embeds κ ρ) (read : ρ → Objects κ → Option β) (pointer : Option Nat)
    (objects : Objects κ) : Option (Option β) :=
  match pointer with
  | none => some none
  | some address =>
      (deref kind address objects).bind fun record =>
        (read record objects).bind fun value => some (some value)

/-- The elements of a slice. -/
def elements (kind : Embeds κ (List ρ)) (slice : Slice) (objects : Objects κ) :
    Option (List ρ) :=
  (deref kind slice.address objects).bind fun array =>
    if slice.length ≤ array.length then some (array.take slice.length) else none

/-- What the elements of a slice that may be nil show. -/
def readSlice (kind : Embeds κ (List ρ)) (read : ρ → Objects κ → Option β)
    (slice : Option Slice) (objects : Objects κ) : Option (Option (List β)) :=
  match slice with
  | none => some none
  | some slice =>
      (elements kind slice objects).bind fun records =>
        (records.mapM fun record => read record objects).bind fun values => some (some values)

/-- Values that refer to no cell. -/
def plain (value : β) (_ : Objects κ) : Option β :=
  some value

/-- The assignment `*out = *in`, where nothing is shared by it. -/
def assign (value : β) (objects : Objects κ) : Option (β × Objects κ) :=
  some (value, objects)

/-- Allocate a zero value, and copy into it. -/
def copyObject (kind : Embeds κ ρ) (zero : ρ) (copy : ρ → Objects κ → Option (ρ × Objects κ))
    (pointer : Option Nat) (objects : Objects κ) : Option (Option Nat × Objects κ) :=
  match pointer with
  | none => some (none, objects)
  | some address => do
      let record ← deref kind address objects
      let (copied, after) ← copy record (objects.new (kind.wrap zero))
      some (some objects.size, after.set objects.size (kind.wrap copied))

/-- Copy elements into the array at an address, from a position on. -/
def fill (kind : Embeds κ (List ρ)) (copy : ρ → Objects κ → Option (ρ × Objects κ))
    (target : Nat) : Nat → List ρ → Objects κ → Option (Objects κ)
  | _, [], objects => some objects
  | position, element :: rest, objects => do
      let (copied, objects) ← copy element objects
      let array ← deref kind target objects
      fill kind copy target (position + 1) rest
        (objects.set target (kind.wrap (array.set position copied)))

/-- Allocate an array of zero values, and copy the elements into it one after the other. -/
def copySlice (kind : Embeds κ (List ρ)) (zero : ρ)
    (copy : ρ → Objects κ → Option (ρ × Objects κ)) (slice : Option Slice)
    (objects : Objects κ) : Option (Option Slice × Objects κ) :=
  match slice with
  | none => some (none, objects)
  | some slice => do
      let records ← elements kind slice objects
      let after ← fill kind copy objects.size 0 records
        (objects.new (kind.wrap (List.replicate records.length zero)))
      some (some ⟨objects.size, records.length⟩, after)

section Reading

variable {kind : Embeds κ ρ}

theorem steady_deref (address : Nat) : Steady (deref kind address) :=
  (Steady.get address).bind fun cell => Steady.ofOption (kind.unwrap cell)

theorem steady_plain (value : β) : Steady (plain value : Objects κ → Option β) :=
  Steady.pure value

theorem shows_deref {address : Nat} {value : ρ} (found : deref kind address objects = some value)
    (inside : part address) : Shows part objects (deref kind address) value := by
  intro later agrees
  rw [deref, agrees address inside]
  exact found

theorem deref_new_size (objects : Objects κ) (value : ρ) :
    deref kind objects.size (objects.new (kind.wrap value)) = some value := by
  rw [deref, get_new_size]
  exact kind.unwrap_wrap value

theorem steady_readObject {read : ρ → Objects κ → Option β}
    (each : ∀ record, Steady (read record)) (pointer : Option Nat) :
    Steady (readObject kind read pointer) := by
  cases pointer with
  | none => exact Steady.pure none
  | some address =>
      exact (steady_deref address).bind fun record =>
        (each record).bind fun value => Steady.pure (some value)

theorem steady_elements {kind : Embeds κ (List ρ)} (slice : Slice) :
    Steady (elements kind slice) :=
  (steady_deref slice.address).bind fun _ => Steady.ofOption _

theorem steady_readSlice {kind : Embeds κ (List ρ)} {read : ρ → Objects κ → Option β}
    (each : ∀ record, Steady (read record)) (slice : Option Slice) :
    Steady (readSlice kind read slice) := by
  cases slice with
  | none => exact Steady.pure none
  | some slice =>
      exact (steady_elements slice).bind fun records =>
        (Steady.mapM each records).bind fun values => Steady.pure (some values)

end Reading

/-! ## Deep copies -/

/-- A copy shows what its original shows, and depends on cells that were allocated for it. -/
def Copies (read : ρ → Objects κ → Option β)
    (copy : ρ → Objects κ → Option (ρ × Objects κ)) : Prop :=
  ∀ original objects value, read original objects = some value →
    ∃ result after, copy original objects = some (result, after) ∧ Grows objects after ∧
      Shows (Between objects after) after (read result) value

/-- What is read before other copies are made can be copied after them. -/
theorem Copies.afterwards {read : ρ → Objects κ → Option β}
    {copy : ρ → Objects κ → Option (ρ × Objects κ)} (copies : Copies read copy)
    {original : ρ} (steady : Steady (read original)) {value : β}
    (found : read original objects = some value) (grows : Grows objects middle) :
    ∃ result after, copy original middle = some (result, after) ∧ Grows middle after ∧
      Shows (Between objects after) after (read result) value := by
  have still : read original middle = some value := steady objects value found middle grows.agrees
  obtain ⟨result, after, copying, further, shows⟩ := copies original middle value still
  refine ⟨result, after, copying, further, shows.mono fun address between => ?_⟩
  exact ⟨grows.size_le.trans between.1, between.2⟩

theorem copies_assign : Copies (plain : β → Objects κ → Option β) assign := by
  intro original objects value found
  exact ⟨original, objects, rfl, Grows.refl objects, fun _ _ => found⟩

/-- A deep copy of what is behind a pointer. -/
theorem copies_object (kind : Embeds κ ρ) (zero : ρ) {read : ρ → Objects κ → Option β}
    {copy : ρ → Objects κ → Option (ρ × Objects κ)} (copies : Copies read copy)
    (steady : ∀ record, Steady (read record)) :
    Copies (readObject kind read) (copyObject kind zero copy) := by
  intro pointer objects value found
  cases pointer with
  | none =>
      cases found
      exact ⟨none, objects, rfl, Grows.refl objects, Shows.pure none⟩
  | some address =>
      obtain ⟨record, reads, rest⟩ := Option.bind_eq_some_iff.mp found
      obtain ⟨content, shown, same⟩ := Option.bind_eq_some_iff.mp rest
      cases same
      obtain ⟨copied, after, copying, grows, shows⟩ :=
        copies record _ content (steady record objects content shown _
          (grows_new objects (kind.wrap zero)).agrees)
      have inside : objects.size < after.size := by
        have larger := grows.size_le
        rw [size_new] at larger
        exact larger
      have stored : deref kind objects.size (after.set objects.size (kind.wrap copied)) =
          some copied := by
        rw [deref, get_set_self inside]
        exact kind.unwrap_wrap copied
      have unmoved : AgreesOn (Between (objects.new (kind.wrap zero)) after) after
          (after.set objects.size (kind.wrap copied)) := by
        intro other between
        have behind := between.1
        rw [size_new] at behind
        exact get_set_of_ne (Nat.ne_of_gt behind) _
      refine ⟨some objects.size, after.set objects.size (kind.wrap copied), ?_, ⟨?_, ?_⟩, ?_⟩
      · simp only [copyObject, reads, copying, Option.bind_eq_bind, Option.bind_some]
      · rw [size_set]
        exact inside.le
      · refine ((grows_new objects _).trans grows).agrees.trans fun other below => ?_
        exact get_set_of_ne (Nat.ne_of_lt below) _
      · have fresh : Between objects (after.set objects.size (kind.wrap copied)) objects.size := by
          rw [Between, size_set]
          exact ⟨le_rfl, inside⟩
        refine (shows_deref stored fresh).bind (Shows.bind ?_ (Shows.pure _))
        refine (shows.transport unmoved).mono fun other between => ?_
        rw [Between, size_new] at between
        rw [Between, size_set]
        exact ⟨(Nat.le_succ _).trans between.1, between.2⟩

section Filling

variable {kind : Embeds κ (List ρ)} {read : ρ → Objects κ → Option β}
  {copy : ρ → Objects κ → Option (ρ × Objects κ)} {zero : ρ} {base : Objects κ}

/-- The cells behind the array that is filled. -/
def Behind (base after : Objects κ) (address : Nat) : Prop :=
  base.size < address ∧ address < after.size

/-- The array at the first new address holds the copies of some elements and zero values. -/
structure Filled (kind : Embeds κ (List ρ)) (read : ρ → Objects κ → Option β) (zero : ρ)
    (base : Objects κ) (copied : List ρ) (values : List β) (left : Nat) (objects : Objects κ) :
    Prop where
  grows : Grows base objects
  allocated : base.size < objects.size
  array : deref kind base.size objects = some (copied ++ List.replicate left zero)
  shown : List.Forall₂ (fun record value => Shows (Behind base objects) objects (read record) value)
    copied values

/-- One element is copied and put into its place. -/
theorem Filled.step (copies : Copies read copy) {copied : List ρ} {values : List β} {left : Nat}
    (filled : Filled kind read zero base copied values (left + 1) objects) {element : ρ}
    {value : β} (reads : read element objects = some value) :
    ∃ result next, copy element objects = some (result, next) ∧
      deref kind base.size next = some (copied ++ List.replicate (left + 1) zero) ∧
      Filled kind read zero base (copied ++ [result]) (values ++ [value]) left
        (next.set base.size
          (kind.wrap ((copied ++ List.replicate (left + 1) zero).set copied.length result))) := by
  obtain ⟨result, next, copying, grows, shows⟩ := copies element objects value reads
  have array : deref kind base.size next = some (copied ++ List.replicate (left + 1) zero) :=
    (shows_deref filled.array filled.allocated : Shows (· < objects.size) objects _ _) next
      grows.agrees
  refine ⟨result, next, copying, array, ?_⟩
  have inside : base.size < next.size := filled.allocated.trans_le grows.size_le
  set stored := kind.wrap ((copied ++ List.replicate (left + 1) zero).set copied.length result)
  have others {address : Nat} (behind : base.size < address) :
      (next.set base.size stored).get address = next.get address :=
    get_set_of_ne behind.ne' stored
  refine ⟨⟨?_, ?_⟩, ?_, ?_, ?_⟩
  · rw [size_set]
    exact inside.le
  · refine (filled.grows.trans grows).agrees.trans fun address below => ?_
    exact get_set_of_ne (Nat.ne_of_lt below) stored
  · rw [size_set]
    exact inside
  · rw [deref, get_set_self inside]
    simp [stored, kind.unwrap_wrap, List.replicate_succ]
  · apply List.rel_append
    · refine filled.shown.imp fun record shown shows => ?_
      have unmoved : AgreesOn (Behind base objects) objects (next.set base.size stored) :=
        fun address behind => (others behind.1).trans (grows.agrees address behind.2)
      refine (shows.transport unmoved).mono fun address behind => ⟨behind.1, ?_⟩
      rw [size_set]
      exact behind.2.trans_le grows.size_le
    · refine .cons ?_ .nil
      have unmoved : AgreesOn (Between objects next) next (next.set base.size stored) :=
        fun address between => others (filled.allocated.trans_le between.1)
      refine (shows.transport unmoved).mono fun address between => ⟨?_, ?_⟩
      · exact filled.allocated.trans_le between.1
      · rw [size_set]
        exact between.2

/-- All the elements are copied. -/
theorem Filled.fill (copies : Copies read copy) (steady : ∀ record, Steady (read record))
    {records : List ρ} {results : List β}
    (reads : List.Forall₂ (fun record value => read record base = some value) records results) :
    ∀ {objects : Objects κ} {copied : List ρ} {values : List β},
      Filled kind read zero base copied values records.length objects →
      ∃ made after, Objects.fill kind copy base.size copied.length records objects = some after ∧
        made.length = copied.length + records.length ∧
        Filled kind read zero base made (values ++ results) 0 after := by
  induction reads with
  | nil =>
      intro objects copied values filled
      refine ⟨copied, objects, rfl, rfl, ?_⟩
      rw [List.append_nil]
      exact filled
  | @cons record value records results found _ ih =>
      intro objects copied values filled
      have still : read record objects = some value :=
        (steady record base value found) objects filled.grows.agrees
      obtain ⟨result, next, copying, array, stepped⟩ := filled.step copies still
      obtain ⟨made, after, filling, length, done⟩ := ih stepped
      refine ⟨made, after, ?_, ?_, ?_⟩
      · rw [List.length_append, List.length_singleton] at filling
        simp only [Objects.fill, copying, array, Option.bind_eq_bind, Option.bind_some]
        exact filling
      · rw [length, List.length_append, List.length_singleton, List.length_cons]
        omega
      · rwa [List.append_assoc] at done

theorem forall₂_of_mapM {f : ρ → Option β} {records : List ρ} {results : List β}
    (mapped : records.mapM f = some results) :
    List.Forall₂ (fun record value => f record = some value) records results := by
  induction records generalizing results with
  | nil =>
      cases mapped
      exact .nil
  | cons record records ih =>
      rw [List.mapM_cons] at mapped
      obtain ⟨value, found, rest⟩ := Option.bind_eq_some_iff.mp mapped
      obtain ⟨values, others, same⟩ := Option.bind_eq_some_iff.mp rest
      cases same
      exact .cons found (ih others)

/-- A deep copy of a slice. -/
theorem copies_slice (kind : Embeds κ (List ρ)) (zero : ρ) (copies : Copies read copy)
    (steady : ∀ record, Steady (read record)) :
    Copies (readSlice kind read) (copySlice kind zero copy) := by
  intro slice objects value found
  cases slice with
  | none =>
      cases found
      exact ⟨none, objects, rfl, Grows.refl objects, Shows.pure none⟩
  | some slice =>
      obtain ⟨records, listed, rest⟩ := Option.bind_eq_some_iff.mp found
      obtain ⟨results, reads, same⟩ := Option.bind_eq_some_iff.mp rest
      cases same
      have each : List.Forall₂ (fun record value => read record objects = some value)
          records results := forall₂_of_mapM reads
      have started : Filled kind read zero objects [] [] records.length
          (objects.new (kind.wrap (List.replicate records.length zero))) :=
        { grows := grows_new _ _
          allocated := by
            rw [size_new]
            exact Nat.lt_succ_self _
          array := deref_new_size _ _
          shown := .nil }
      obtain ⟨made, after, filling, length, filled⟩ := started.fill copies steady each
      refine ⟨some ⟨objects.size, records.length⟩, after, ?_, filled.grows, ?_⟩
      · simp only [copySlice, listed, Option.bind_eq_bind, Option.bind_some]
        rw [List.length_nil] at filling
        rw [filling]
        rfl
      · have array := filled.array
        rw [List.replicate_zero, List.append_nil] at array
        have whole : Shows (Between objects after) after
            (elements kind ⟨objects.size, records.length⟩) made := by
          refine (shows_deref array ⟨le_rfl, filled.allocated⟩).bind ?_
          rw [List.length_nil, Nat.zero_add] at length
          rw [if_pos length.ge, ← length, List.take_length]
          exact Shows.pure made
        refine whole.bind (Shows.bind (Shows.mapM ?_) (Shows.pure _))
        exact filled.shown.imp fun _ _ shows => shows.mono fun _ behind =>
          ⟨behind.1.le, behind.2⟩

end Filling

end Objects

end Tailpost.Memory
