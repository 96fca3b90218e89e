/-
# Maps kept in shards

A map may be kept in several tables, each holding the keys that a function assigns to it.
Looking up, inserting and erasing a key concern the one table of the key; a search for a
value goes through the tables in turn, and through each in an order of the table's own. On
shards that hold each key in its own place all of this is what the whole map would do.
-/

import Mathlib.Data.List.AList
import Mathlib.Data.List.FinRange
import Mathlib.Logic.Function.Basic

namespace ClusterChat

/-- The tables of a map from `κ` to `ν`. -/
abbrev Shards (κ ν : Type*) (n : ℕ) := Fin n → AList fun _ : κ => ν

namespace Shards

variable {κ ν : Type*} [DecidableEq κ] {n : ℕ} (pick : κ → Fin n)

/-- All tables are empty. -/
def empty : Shards κ ν n := fun _ => ∅

def lookup (shards : Shards κ ν n) (key : κ) : Option ν := (shards (pick key)).lookup key

def insert (shards : Shards κ ν n) (key : κ) (value : ν) : Shards κ ν n :=
  Function.update shards (pick key) ((shards (pick key)).insert key value)

/-- Erase a key from one of the tables. -/
def eraseAt (shards : Shards κ ν n) (i : Fin n) (key : κ) : Shards κ ν n :=
  Function.update shards i ((shards i).erase key)

/-- Erase a key from the table it belongs to. -/
def erase (shards : Shards κ ν n) (key : κ) : Shards κ ν n := shards.eraseAt (pick key) key

/-- The first entry with a value, and the table it is in; `order` is the order in which the
entries of a table come. -/
def find [DecidableEq ν] (order : Fin n → List (Sigma fun _ : κ => ν) → List (Sigma fun _ : κ => ν))
    (shards : Shards κ ν n) (value : ν) : Option (Fin n × κ) :=
  (List.finRange n).findSome? fun i =>
    ((order i (shards i).entries).find? fun entry => entry.2 = value).map fun entry => (i, entry.1)

/-- Each key is in its own table. -/
def Placed (shards : Shards κ ν n) : Prop := ∀ i key, key ∈ shards i → pick key = i

variable {pick} {shards : Shards κ ν n} {key other : κ} {value : ν}

@[simp] theorem lookup_empty : (empty : Shards κ ν n).lookup pick key = none := rfl

theorem lookup_insert_self : (shards.insert pick key value).lookup pick key = some value := by
  rw [lookup, insert, Function.update_self, AList.lookup_insert]

theorem lookup_insert_ne (differ : other ≠ key) :
    (shards.insert pick key value).lookup pick other = shards.lookup pick other := by
  rw [lookup, lookup, insert]
  by_cases here : pick other = pick key
  · rw [here, Function.update_self, AList.lookup_insert_ne differ]
  · rw [Function.update_of_ne here]

theorem lookup_erase_self : (shards.erase pick key).lookup pick key = none := by
  rw [lookup, erase, eraseAt, Function.update_self, AList.lookup_erase]

theorem lookup_erase_ne (differ : other ≠ key) :
    (shards.erase pick key).lookup pick other = shards.lookup pick other := by
  rw [lookup, lookup, erase, eraseAt]
  by_cases here : pick other = pick key
  · rw [here, Function.update_self, AList.lookup_erase_ne differ]
  · rw [Function.update_of_ne here]

omit [DecidableEq κ] in
theorem placed_empty : (empty : Shards κ ν n).Placed pick :=
  fun _ key listed => absurd listed (AList.notMem_empty key)

omit [DecidableEq κ] in
/-- A table that is replaced by one with keys of its own. -/
theorem Placed.update (placed : shards.Placed pick) {i : Fin n} {table : AList fun _ : κ => ν}
    (own : ∀ key, key ∈ table → pick key = i) :
    Placed pick (Function.update shards i table : Shards κ ν n) := by
  intro j key listed
  by_cases here : j = i
  · subst here
    rw [Function.update_self] at listed
    exact own key listed
  · rw [Function.update_of_ne here] at listed
    exact placed j key listed

theorem Placed.insert (placed : shards.Placed pick) :
    (shards.insert pick key value).Placed pick := by
  refine placed.update fun other listed => ?_
  rcases (AList.mem_insert _).mp listed with rfl | old
  · rfl
  · exact placed _ other old

theorem Placed.eraseAt (placed : shards.Placed pick) (i : Fin n) (key : κ) :
    (shards.eraseAt i key).Placed pick :=
  placed.update fun other listed => placed i other (AList.mem_erase.mp listed).2

section Find

variable [DecidableEq ν]
  {order : Fin n → List (Sigma fun _ : κ => ν) → List (Sigma fun _ : κ => ν)}

/-- An entry that is found is in its own table, and is what a lookup finds. -/
theorem find_eq_some (placed : shards.Placed pick)
    (orders : ∀ i entries, (order i entries).Perm entries) {i : Fin n}
    (found : shards.find order value = some (i, key)) :
    pick key = i ∧ shards.lookup pick key = some value := by
  obtain ⟨j, -, found⟩ := List.exists_of_findSome?_eq_some found
  obtain ⟨⟨key', value'⟩, first, same⟩ := Option.map_eq_some_iff.mp found
  obtain ⟨rfl, rfl⟩ := Prod.mk.inj same
  have fits := List.find?_some first
  obtain rfl : value' = value := of_decide_eq_true fits
  have listed := (orders j _).mem_iff.mp (List.mem_of_find?_eq_some first)
  have here := AList.mem_lookup_iff.mpr listed
  have member : key' ∈ shards j := AList.lookup_isSome.mp (Option.isSome_of_mem here)
  have own := placed j key' member
  rw [lookup, own]
  exact ⟨rfl, here⟩

/-- A search that finds nothing has seen every entry. -/
theorem find_eq_none (orders : ∀ i entries, (order i entries).Perm entries)
    (missed : shards.find order value = none) (key : κ) : shards.lookup pick key ≠ some value := by
  intro present
  have table := List.findSome?_eq_none_iff.mp missed (pick key) (List.mem_finRange _)
  have none := List.find?_eq_none.mp (Option.map_eq_none_iff.mp table) ⟨key, value⟩
    ((orders _ _).mem_iff.mpr (AList.mem_lookup_iff.mp present))
  exact none (decide_eq_true rfl)

end Find

end Shards

end ClusterChat
