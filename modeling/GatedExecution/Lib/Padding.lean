import Mathlib

/-!
# Texts padded on the right

A text is stored in a field of fixed width by appending pads.  The field remembers the text
up to pads at its end.

Main results:

- Theorem {lit}`trimmed_rightpad`: padding changes nothing that trimming keeps.
- Theorem {lit}`rightpad_trimmed`: trimming changes nothing that padding keeps.
- Theorem {lit}`rightpad_eq_rightpad_iff`: equal fields hold texts that are equal when
  trimmed.
-/

namespace Padding

variable {α : Type} [DecidableEq α]

/-- A list without the pads at its end. -/
def trimmed (pad : α) (items : List α) : List α :=
  items.rdropWhile (· == pad)

variable (pad : α) (items : List α)

theorem trimmed_prefix_self : trimmed pad items <+: items :=
  List.rdropWhile_prefix _ items

theorem trimmed_concat_pad : trimmed pad (items ++ [pad]) = trimmed pad items :=
  List.rdropWhile_concat_pos _ items pad (beq_self_eq_true pad)

theorem trimmed_concat_of_ne {item : α} (hitem : item ≠ pad) :
    trimmed pad (items ++ [item]) = items ++ [item] :=
  List.rdropWhile_concat_neg _ items item (by simpa using hitem)

theorem trimmed_append_replicate (count : Nat) :
    trimmed pad (items ++ List.replicate count pad) = trimmed pad items := by
  induction count with
  | zero => rw [List.replicate_zero, List.append_nil]
  | succ count ih =>
      rw [List.replicate_succ', ← List.append_assoc, trimmed_concat_pad, ih]

/-- What trimming takes away is pads. -/
theorem trimmed_append_pads :
    trimmed pad items ++ List.replicate (items.length - (trimmed pad items).length) pad =
      items := by
  induction items using List.reverseRecOn with
  | nil => rfl
  | append_singleton items item ih =>
      by_cases hitem : item = pad
      · have hle := (trimmed_prefix_self pad items).length_le
        rw [hitem, trimmed_concat_pad, List.length_append, List.length_singleton,
          Nat.sub_add_comm hle, List.replicate_succ', ← List.append_assoc, ih]
      · rw [trimmed_concat_of_ne pad items hitem, Nat.sub_self, List.replicate_zero,
          List.append_nil]

theorem trimmed_rightpad (width : Nat) :
    trimmed pad (items.rightpad width pad) = trimmed pad items :=
  trimmed_append_replicate pad items _

theorem rightpad_trimmed {width : Nat} (hwidth : items.length ≤ width) :
    (trimmed pad items).rightpad width pad = items.rightpad width pad := by
  have hle := (trimmed_prefix_self pad items).length_le
  have hcount : width - (trimmed pad items).length =
      items.length - (trimmed pad items).length + (width - items.length) := by omega
  rw [List.rightpad, List.rightpad, hcount, List.replicate_add, ← List.append_assoc,
    trimmed_append_pads]

theorem rightpad_eq_rightpad_iff {items others : List α} {width : Nat}
    (hitems : items.length ≤ width) (hothers : others.length ≤ width) :
    items.rightpad width pad = others.rightpad width pad ↔
      trimmed pad items = trimmed pad others := by
  constructor
  · intro hsame
    rw [← trimmed_rightpad pad items width, hsame, trimmed_rightpad]
  · intro hsame
    rw [← rightpad_trimmed pad items hitems, hsame, rightpad_trimmed pad others hothers]

end Padding
