import Mathlib

/-!
# Lists cut at a separator

A scanner that looks for the next separator from a position on, against the pieces
{lit}`List.splitOn` cuts the list into; and lists without the items they begin and end
with.

Main results:

- Theorems {lit}`splitOn_drop_of_findFrom_none` and
  {lit}`splitOn_drop_of_findFrom_some`: the pieces of what is left at a position.
- Theorem {lit}`splitOn_append_cons`: the pieces on the two sides of a separator.
- Theorem {lit}`trim_eq_iff`: what trimming takes away and what it leaves.
- Theorem {lit}`trim_trim`: trimming twice is trimming once.
-/

namespace Separated

variable {α : Type}

/-! ## Searching for the next separator -/

section Find

variable [BEq α] {separator : α} {items : List α} {start place : Nat}

/-- The first place of the separator from a position on. -/
def findFrom (separator : α) (items : List α) (start : Nat) : Option Nat :=
  ((items.drop start).findIdx? (· == separator)).map (start + ·)

/-- The items from a position on, at most {lit}`count` of them. -/
def slice (items : List α) (start count : Nat) : List α :=
  (items.drop start).take count

theorem splitOn_drop_of_findFrom_none (hfind : findFrom separator items start = none) :
    (items.drop start).splitOn separator = [items.drop start] := by
  rw [findFrom, Option.map_eq_none_iff, List.findIdx?_eq_none_iff] at hfind
  exact List.splitOnP_eq_singleton hfind

theorem splitOn_drop_of_findFrom_some (hfind : findFrom separator items start = some place) :
    start ≤ place ∧ place < items.length ∧
      (items.drop start).splitOn separator =
        slice items start (place - start) :: (items.drop (place + 1)).splitOn separator := by
  rw [findFrom, Option.map_eq_some_iff] at hfind
  rcases hfind with ⟨index, hindex, rfl⟩
  rw [List.findIdx?_eq_some_iff_getElem] at hindex
  rcases hindex with ⟨hlt, hfound, hbefore⟩
  have hplace : start + index < items.length := by
    rw [List.length_drop] at hlt
    omega
  refine ⟨Nat.le_add_right _ _, hplace, ?_⟩
  have hsplit : items.drop start =
      (items.drop start).take index ++ (items.drop start)[index] ::
        (items.drop start).drop (index + 1) := by
    rw [List.getElem_cons_drop, List.take_append_drop]
  have hnone : ∀ item ∈ (items.drop start).take index, (item == separator) = false := by
    intro item hitem
    rcases List.mem_take_iff_getElem.mp hitem with ⟨j, hj, rfl⟩
    exact Bool.eq_false_of_not_eq_true (hbefore j (by omega))
  rw [slice, Nat.add_sub_cancel_left, Nat.add_assoc, ← List.drop_drop]
  nth_rewrite 1 [hsplit]
  exact List.splitOnP_append_cons_of_forall_mem hnone _ hfound _

end Find

theorem splitOn_append_cons [BEq α] [ReflBEq α] (separator : α) (before after : List α) :
    (before ++ separator :: after).splitOn separator =
      before.splitOn separator ++ after.splitOn separator :=
  List.splitOnP_append_cons before after BEq.rfl

theorem splitOn_eq_singleton [BEq α] [LawfulBEq α] {separator : α} {items : List α}
    (habsent : separator ∉ items) : items.splitOn separator = [items] := by
  apply List.splitOnP_eq_singleton
  intro item hitem
  rw [beq_eq_false_iff_ne]
  rintro rfl
  exact habsent hitem

/-! ## Trimming -/

/-- The list without the items with {lit}`p` that it begins and ends with. -/
def trim (p : α → Bool) (items : List α) : List α :=
  (items.dropWhile p).rdropWhile p

/-- What is left of a list without the items with {lit}`P` around it. -/
structure Trimmed (P : α → Prop) (items core : List α) : Prop where
  around : ∃ front back, items = front ++ core ++ back ∧ ∀ item ∈ front ++ back, P item
  head : ∀ item ∈ core.head?, ¬P item
  last : ∀ item ∈ core.getLast?, ¬P item

theorem trim_trimmed (p : α → Bool) (items : List α) :
    Trimmed (fun item => p item = true) items (trim p items) := by
  refine ⟨⟨items.takeWhile p, (items.dropWhile p).rtakeWhile p, ?_, ?_⟩, ?_, ?_⟩
  · rw [List.append_assoc, trim, List.rdropWhile_append_rtakeWhile,
      List.takeWhile_append_dropWhile]
  · intro item hitem
    rcases List.mem_append.mp hitem with hfront | hback
    · exact List.mem_takeWhile_imp hfront
    · exact List.mem_rtakeWhile_imp hback
  · intro item hhead
    -- The first item is that of the list whose end was trimmed.
    rcases List.rdropWhile_prefix p (items.dropWhile p) with ⟨rest, hrest⟩
    have hfirst : (items.dropWhile p).head? = some item := by
      rw [← hrest, List.head?_append]
      exact Option.or_eq_some_iff.mpr (Or.inl hhead)
    have hnot := List.head?_dropWhile_not p items
    rw [hfirst] at hnot
    exact Bool.not_eq_true _ ▸ hnot
  · intro item hlast
    rcases List.mem_getLast?_eq_getLast hlast with ⟨hne, rfl⟩
    exact List.rdropWhile_last_not p _ hne

theorem rdropWhile_append_eq {p : α → Bool} {core back : List α}
    (hback : ∀ item ∈ back, p item = true) (hlast : ∀ item ∈ core.getLast?, ¬p item = true) :
    (core ++ back).rdropWhile p = core := by
  induction back using List.reverseRecOn with
  | nil =>
      rw [List.append_nil, List.rdropWhile_eq_self_iff]
      exact fun hne => hlast _ (List.getLast?_eq_some_getLast hne)
  | append_singleton front item ih =>
      rw [← List.append_assoc, List.rdropWhile_concat_pos p _ item
        (hback item (List.mem_append_right _ List.mem_cons_self))]
      exact ih (fun other hmem => hback other (List.mem_append_left _ hmem))

theorem Trimmed.trim_eq {p : α → Bool} {items core : List α}
    (htrimmed : Trimmed (fun item => p item = true) items core) : trim p items = core := by
  rcases htrimmed.around with ⟨front, back, rfl, haround⟩
  have hfront : ∀ item ∈ front, p item = true :=
    fun item hmem => haround item (List.mem_append_left _ hmem)
  have hback : ∀ item ∈ back, p item = true :=
    fun item hmem => haround item (List.mem_append_right _ hmem)
  rw [trim, List.append_assoc, List.dropWhile_append_of_pos hfront]
  cases core with
  | nil =>
      rw [List.nil_append, List.dropWhile_eq_nil_iff.mpr hback, List.rdropWhile_nil]
  | cons first rest =>
      rw [List.cons_append, List.dropWhile_cons_of_neg (htrimmed.head first rfl)]
      exact rdropWhile_append_eq hback htrimmed.last

theorem trim_eq_iff {p : α → Bool} {items core : List α} :
    trim p items = core ↔ Trimmed (fun item => p item = true) items core := by
  constructor
  · rintro rfl
    exact trim_trimmed p items
  · exact Trimmed.trim_eq

/-- A list that does not begin or end with such items is left as it is. -/
theorem trim_eq_self {p : α → Bool} {items : List α}
    (hhead : ∀ item ∈ items.head?, ¬p item = true)
    (hlast : ∀ item ∈ items.getLast?, ¬p item = true) : trim p items = items :=
  Trimmed.trim_eq ⟨⟨[], [], (List.append_nil _).symm, fun _ hmem => by cases hmem⟩, hhead, hlast⟩

theorem trim_trim (p : α → Bool) (items : List α) : trim p (trim p items) = trim p items :=
  trim_eq_self (trim_trimmed p items).head (trim_trimmed p items).last

end Separated
