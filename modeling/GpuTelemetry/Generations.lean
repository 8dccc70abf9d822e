/-!
# Two generations of entries

A store of keyed entries that outlive one cycle and no more: entries made or
seen again in the running cycle are `current`, those of the cycle before that
have not been seen again are `previous`. `rotate` ends the cycle and forgets what
was in neither.
-/

namespace GpuTelemetry

structure Generations (κ α : Type) where
  previous : List (κ × α) := []
  current : List (κ × α) := []

namespace Generations

variable {κ α : Type} [DecidableEq κ]

def find? (key : κ) (entries : List (κ × α)) : Option α :=
  (entries.find? fun e => e.1 = key).map Prod.snd

def without (key : κ) (entries : List (κ × α)) : List (κ × α) :=
  entries.filter fun e => e.1 ≠ key

/-- Takes the entry of a key out of the previous generation. -/
def takePrevious (key : κ) (store : Generations κ α) : Option α × Generations κ α :=
  (find? key store.previous, { store with previous := without key store.previous })

/-- Gives a key its entry in the running cycle. -/
def insert (key : κ) (value : α) (store : Generations κ α) : Generations κ α :=
  { store with current := (key, value) :: without key store.current }

/-- Ends the cycle. -/
def rotate (store : Generations κ α) : Generations κ α :=
  { previous := store.current, current := [] }

def contains (key : κ) (store : Generations κ α) : Bool :=
  (find? key store.previous).isSome || (find? key store.current).isSome

def size (store : Generations κ α) : Nat :=
  store.previous.length + store.current.length

/-! ## Looking up -/

@[simp] theorem find?_nil (key : κ) : find? key ([] : List (κ × α)) = none := rfl

theorem find?_cons (key : κ) (entry : κ × α) (entries : List (κ × α)) :
    find? key (entry :: entries) = if entry.1 = key then some entry.2 else find? key entries := by
  by_cases h : entry.1 = key <;> simp [find?, h]

/-- Taking a key out changes the look-up of that key only. -/
theorem find?_without (key other : κ) (entries : List (κ × α)) :
    find? other (without key entries) = if other = key then none else find? other entries := by
  induction entries with
  | nil => simp [without]
  | cons entry entries ih =>
      by_cases hentry : entry.1 = key
      · have hdrop : without key (entry :: entries) = without key entries := by
          simp [without, hentry]
        rw [hdrop, ih, find?_cons]
        split
        next => rfl
        next hother =>
          rw [if_neg]
          exact fun h => hother (h.symm.trans hentry)
      · have hkeep : without key (entry :: entries) = entry :: without key entries := by
          simp [without, hentry]
        rw [hkeep, find?_cons, find?_cons, ih]
        by_cases hother : entry.1 = other
        · have hne : other ≠ key := fun h => hentry (hother.trans h)
          simp [hother, hne]
        · simp [hother]

@[simp] theorem takePrevious_fst (key : κ) (store : Generations κ α) :
    (store.takePrevious key).1 = find? key store.previous := rfl

@[simp] theorem find?_takePrevious_previous (key other : κ) (store : Generations κ α) :
    find? other (store.takePrevious key).2.previous =
      if other = key then none else find? other store.previous :=
  find?_without key other store.previous

@[simp] theorem takePrevious_current (key : κ) (store : Generations κ α) :
    (store.takePrevious key).2.current = store.current := rfl

@[simp] theorem insert_previous (key : κ) (value : α) (store : Generations κ α) :
    (store.insert key value).previous = store.previous := rfl

@[simp] theorem find?_insert_current (key other : κ) (value : α) (store : Generations κ α) :
    find? other (store.insert key value).current =
      if other = key then some value else find? other store.current := by
  rw [insert, find?_cons, find?_without]
  by_cases h : other = key
  · simp [h]
  · rw [if_neg (fun hkey => h hkey.symm), if_neg h, if_neg h]

omit [DecidableEq κ] in
@[simp] theorem rotate_previous (store : Generations κ α) :
    store.rotate.previous = store.current := rfl

omit [DecidableEq κ] in
@[simp] theorem rotate_current (store : Generations κ α) : store.rotate.current = [] := rfl

end Generations

end GpuTelemetry
