import Mathlib

/-!
# Overrides kept in two sets

A key may be set on, set off or left to a fallback.  Two finite sets keep that: the keys
set on and the keys set off.

Main results:

- Theorems {lit}`Represents.turnOn` and {lit}`Represents.turnOff`: putting a key into one
  set and taking it out of the other sets it.
- Theorem {lit}`Represents.disjoint`: no key is in both sets.
- Theorem {lit}`Represents.lookup`: asking one set after the other finds the setting.
-/

namespace Overrides

variable {κ : Type}

/-- The members of the two sets are the keys that {lit}`setting` sets. -/
structure Represents (on off : Finset κ) (setting : κ → Option Bool) : Prop where
  mem_on : ∀ key, key ∈ on ↔ setting key = some true
  mem_off : ∀ key, key ∈ off ↔ setting key = some false

namespace Represents

variable {on off : Finset κ} {setting : κ → Option Bool}

theorem empty : Represents (∅ : Finset κ) ∅ (fun _ => none) :=
  ⟨by simp, by simp⟩

theorem disjoint (hsets : Represents on off setting) : Disjoint on off := by
  rw [Finset.disjoint_left]
  intro key hon hoff
  rw [hsets.mem_on] at hon
  rw [hsets.mem_off, hon] at hoff
  cases hoff

section Changes

variable [DecidableEq κ] {members : Finset κ} {value : Bool}

theorem mem_insert_iff (hmembers : ∀ key, key ∈ members ↔ setting key = some value)
    (key other : κ) :
    other ∈ insert key members ↔ Function.update setting key (some value) other = some value := by
  by_cases hkey : other = key
  · simp [hkey]
  · simp [hkey, hmembers other]

theorem mem_erase_iff (hmembers : ∀ key, key ∈ members ↔ setting key = some value)
    {changed : Bool} (hchanged : changed ≠ value) (key other : κ) :
    other ∈ members.erase key ↔
      Function.update setting key (some changed) other = some value := by
  by_cases hkey : other = key
  · simp [hkey, hchanged]
  · simp [hkey, hmembers other]

theorem turnOn (hsets : Represents on off setting) (key : κ) :
    Represents (insert key on) (off.erase key) (Function.update setting key (some true)) where
  mem_on := mem_insert_iff hsets.mem_on key
  mem_off := mem_erase_iff hsets.mem_off (by decide) key

theorem turnOff (hsets : Represents on off setting) (key : κ) :
    Represents (on.erase key) (insert key off) (Function.update setting key (some false)) where
  mem_on := mem_erase_iff hsets.mem_on (by decide) key
  mem_off := mem_insert_iff hsets.mem_off key

theorem lookup (hsets : Represents on off setting) (fallback : Bool) (key : κ) :
    (if key ∈ off then false else if key ∈ on then true else fallback) =
      (setting key).getD fallback := by
  simp only [hsets.mem_off, hsets.mem_on]
  rcases setting key with _ | _ | _ <;> simp

end Changes

end Represents

end Overrides
