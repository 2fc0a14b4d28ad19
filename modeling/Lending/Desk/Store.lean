/-!
# Stores

A store holds one record under each key; storing a record replaces the one under its key.

## Main definitions

* `Store`, `Store.insert`, `Store.find?`

## Main results

* `Store.find?_insert` — a look-up finds the record stored last under its key
-/

namespace Lending

/-- Records by key. -/
structure Store (κ α : Type) where
  entries : List (κ × α) := []

namespace Store

variable {κ α : Type} [DecidableEq κ]

/-- The store with a record under a key. -/
def insert (store : Store κ α) (key : κ) (record : α) : Store κ α :=
  ⟨(key, record) :: store.entries.filter fun entry => entry.1 ≠ key⟩

/-- The record under a key. -/
def find? (store : Store κ α) (key : κ) : Option α :=
  (store.entries.find? fun entry => entry.1 = key).map (·.2)

@[simp] theorem find?_empty (key : κ) : (⟨[]⟩ : Store κ α).find? key = none := rfl

/-- Storing a record changes what is found under its key and nothing else. -/
theorem find?_insert (store : Store κ α) (k l : κ) (a : α) :
    (store.insert k a).find? l = if l = k then some a else store.find? l := by
  unfold find? insert
  by_cases h : k = l
  · simp [h]
  · have h' : ¬ l = k := fun e => h e.symm
    simp only [List.find?_cons, h, decide_false, h', if_false]
    congr 1
    induction store.entries with
    | nil => rfl
    | cons e es ih =>
      by_cases hk : e.1 = k
      · have hl : ¬ e.1 = l := fun hl => h (hk ▸ hl)
        simp only [List.filter_cons, hk, ne_eq, not_true, decide_false, Bool.false_eq_true,
          if_false, List.find?_cons]
        rw [show decide (k = l) = false from decide_eq_false h]
        exact ih
      · by_cases hl : e.1 = l
        · simp [hl, h']
        · simpa [List.filter_cons, hk, hl, List.find?_cons] using ih

end Store

end Lending
