import GatedExecution.Lib.Separated

/-!
# Lines that assign to keys

A reader goes through items each of which may assign to one part of its state: what the
part holds at the end is the last assignment.  Whether a text contains a word is decided
behind a part of the text that does not have the word's first letter.

Main results:

- Theorem {lit}`foldl_eq_lastOr`: the last assignment is what is left.
- Theorem {lit}`infix_append_iff`: a word is not found across such a part.
- Theorem {lit}`splitOn_flatMap`: lines that each end with a separator are split again.
-/

namespace KeyedLines

/-- The last of what the items assign, or what was there before. -/
def lastOr {α β : Type} (assigned : α → Option β) (before : β) (items : List α) : β :=
  (items.filterMap assigned).getLast?.getD before

theorem lastOr_cons {α β : Type} (assigned : α → Option β) (before : β) (item : α)
    (rest : List α) :
    lastOr assigned before (item :: rest) =
      lastOr assigned ((assigned item).getD before) rest := by
  unfold lastOr
  cases hitem : assigned item with
  | none => rw [List.filterMap_cons_none hitem, Option.getD_none]
  | some value =>
      rw [List.filterMap_cons_some hitem, List.getLast?_cons, Option.getD_some]
      rfl

theorem foldl_eq_lastOr {σ α β : Type} {step : σ → α → σ} {part : σ → β}
    {assigned : α → Option β} {items : List α}
    (hstep : ∀ s, ∀ item ∈ items, part (step s item) = (assigned item).getD (part s)) (s : σ) :
    part (items.foldl step s) = lastOr assigned (part s) items := by
  induction items generalizing s with
  | nil => rfl
  | cons item rest ih =>
      rw [List.foldl_cons, lastOr_cons, ← hstep s item List.mem_cons_self]
      exact ih (fun s other hmem => hstep s other (List.mem_cons_of_mem _ hmem)) _

section Words

variable {α : Type} {front tail word : List α} {first : α}

theorem infix_append_iff (hfirst : word.head? = some first) (hfront : first ∉ front) :
    word <:+: front ++ tail ↔ word <:+: tail := by
  induction front with
  | nil => rw [List.nil_append]
  | cons item rest ih =>
      rw [List.mem_cons, not_or] at hfront
      rw [List.cons_append, List.infix_cons_iff, ih hfront.2]
      constructor
      · rintro (hhere | hlater)
        · -- The word would begin with this item.
          cases word with
          | nil => cases hfirst
          | cons head others =>
              cases hfirst
              exact absurd (List.cons_prefix_cons.mp hhere).1 hfront.1
        · exact hlater
      · exact Or.inr

theorem not_infix_of_not_mem {item : α} (hword : item ∈ word) (htext : item ∉ tail) :
    ¬word <:+: tail :=
  fun hfound => htext (hfound.subset hword)

end Words

theorem splitOn_flatMap {α : Type} [BEq α] [LawfulBEq α] {separator : α} {lines : List (List α)}
    (habsent : ∀ line ∈ lines, separator ∉ line) :
    (lines.flatMap (fun line => line ++ [separator])).splitOn separator = lines ++ [[]] := by
  induction lines with
  | nil => rfl
  | cons line rest ih =>
      rw [List.forall_mem_cons] at habsent
      rw [List.flatMap_cons, List.append_assoc, List.singleton_append,
        Separated.splitOn_append_cons, Separated.splitOn_eq_singleton habsent.1, ih habsent.2]
      rfl

end KeyedLines
