/-!
# Values under names

A list of values, each under a name. There are two ways to put a value under a name: `put` keeps the
order in which names first came, `putSorted` keeps the names in the order of their characters. A
value under a name that is already there takes the place of the old one.
-/

namespace SchemaPatch

/-- Values, each under a name. -/
structure Keyed (β : Type) where
  /-- Names and values, in order. -/
  entries : List (String × β)
  deriving DecidableEq, Repr

namespace Keyed

variable {β : Type}

/-- No values. -/
def empty : Keyed β := ⟨[]⟩

/-- The names, in order. -/
def keys (m : Keyed β) : List String := m.entries.map Prod.fst

/-- The values, in order. -/
def values (m : Keyed β) : List β := m.entries.map Prod.snd

/-- How many values there are. -/
def size (m : Keyed β) : Nat := m.entries.length

/-- The first value under a name in a list. -/
def find? (k : String) : List (String × β) → Option β
  | [] => none
  | (k', v) :: rest => if k' = k then some v else find? k rest

/-- The value under a name. -/
def get? (m : Keyed β) (k : String) : Option β := find? k m.entries

/-- Whether there is a value under a name. -/
def contains (m : Keyed β) (k : String) : Bool := (m.get? k).isSome

/-- A list with a value put under a name: in its old place, or at the end. -/
def putIn (k : String) (v : β) : List (String × β) → List (String × β)
  | [] => [(k, v)]
  | (k', v') :: rest => if k' = k then (k, v) :: rest else (k', v') :: putIn k v rest

/-- Puts a value under a name: in its old place, or at the end. -/
def put (m : Keyed β) (k : String) (v : β) : Keyed β := ⟨putIn k v m.entries⟩

/-- A list in order of names, with a value put under a name. -/
def putSortedIn (k : String) (v : β) : List (String × β) → List (String × β)
  | [] => [(k, v)]
  | (k', v') :: rest =>
    if k' = k then (k, v) :: rest
    else if k < k' then (k, v) :: (k', v') :: rest
    else (k', v') :: putSortedIn k v rest

/-- Puts a value under a name where the order of names wants it. -/
def putSorted (m : Keyed β) (k : String) (v : β) : Keyed β := ⟨putSortedIn k v m.entries⟩

/-- A list with the first value under a name changed. -/
def modifyIn (k : String) (f : β → β) : List (String × β) → List (String × β)
  | [] => []
  | (k', v) :: rest => if k' = k then (k', f v) :: rest else (k', v) :: modifyIn k f rest

/-- Changes the value under a name, if there is one. -/
def modify (m : Keyed β) (k : String) (f : β → β) : Keyed β := ⟨modifyIn k f m.entries⟩

/-! ### Two lists side by side -/

/-- The values whose names the other list does not have, in order. -/
def missingFrom {γ : Type} (m : Keyed β) (m' : Keyed γ) : List β :=
  (m.entries.filter fun e => !m'.contains e.1).map Prod.snd

/-- The values whose names the other list has too, in order, each with the other's value. -/
def pairedWith {γ : Type} (m : Keyed β) (m' : Keyed γ) : List (β × γ) :=
  m.entries.filterMap fun e => (m'.get? e.1).map fun v => (e.2, v)

/-! ### What is found -/

@[simp] theorem get?_empty (k : String) : (empty : Keyed β).get? k = none := rfl

theorem get?_put (m : Keyed β) (k k' : String) (v : β) :
    (m.put k v).get? k' = if k = k' then some v else m.get? k' := by
  obtain ⟨l⟩ := m
  simp only [put, get?]
  induction l with
  | nil => simp [putIn, find?]
  | cons e l ih => grind [putIn, find?]

theorem get?_putSorted (m : Keyed β) (k k' : String) (v : β) :
    (m.putSorted k v).get? k' = if k = k' then some v else m.get? k' := by
  obtain ⟨l⟩ := m
  simp only [putSorted, get?]
  induction l with
  | nil => simp [putSortedIn, find?]
  | cons e l ih => grind [putSortedIn, find?]

theorem get?_modify (m : Keyed β) (k k' : String) (f : β → β) :
    (m.modify k f).get? k' = if k = k' then (m.get? k').map f else m.get? k' := by
  obtain ⟨l⟩ := m
  simp only [modify, get?]
  induction l with
  | nil => simp [modifyIn, find?]
  | cons e l ih => grind [modifyIn, find?]

/-! ### The order of names -/

theorem keys_put (m : Keyed β) (k : String) (v : β) :
    (m.put k v).keys = if k ∈ m.keys then m.keys else m.keys ++ [k] := by
  obtain ⟨l⟩ := m
  simp only [put, keys]
  induction l with
  | nil => simp [putIn]
  | cons e l ih => grind [putIn]

@[simp] theorem keys_modify (m : Keyed β) (k : String) (f : β → β) :
    (m.modify k f).keys = m.keys := by
  obtain ⟨l⟩ := m
  simp only [modify, keys]
  induction l with
  | nil => rfl
  | cons e l ih => grind [modifyIn]

end Keyed

end SchemaPatch
