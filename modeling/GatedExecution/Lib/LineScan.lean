import GatedExecution.Lib.Separated

/-!
# Scanning a text piece by piece

A loop that looks for the next separator, processes what stands before it and goes on behind
it.  It is given fuel, and one round for every item of the text and one more are enough.  What
it collects, up to a limit, is what the pieces yield one by one.

Main results:

- Theorem {lit}`scanLines_eq`: the loop goes once over the pieces of the text.
- Theorem {lit}`foldl_collectStep`: collecting up to a limit is collecting and cutting off.
- Theorem {lit}`foldl_collects`: the same where a state keeps what was collected.
-/

namespace Separated

section Scan

variable {α σ : Type} [BEq α]

def scanLines (separator : α) (process : σ → List α → σ) (text : List α) :
    Nat → Nat → σ → Option σ
  | 0, _, _ => none
  | fuel + 1, offset, state =>
      if offset ≤ text.length then
        let next := findFrom separator text offset
        let state := process state (slice text offset (next.getD text.length - offset))
        match next with
        | none => some state
        | some place => scanLines separator process text fuel (place + 1) state
      else some state

theorem scanLines_eq (separator : α) (process : σ → List α → σ) (text : List α)
    {fuel offset : Nat} (hoffset : offset ≤ text.length) (hfuel : text.length < fuel + offset)
    (state : σ) :
    scanLines separator process text fuel offset state =
      some (((text.drop offset).splitOn separator).foldl process state) := by
  induction fuel generalizing offset state with
  | zero => omega
  | succ fuel ih =>
      rw [scanLines, if_pos hoffset]
      cases hfind : findFrom separator text offset with
      | none =>
          have hrest : slice text offset (text.length - offset) = text.drop offset := by
            rw [slice, ← List.length_drop, List.take_length]
          simp only [Option.getD_none, hrest, splitOn_drop_of_findFrom_none hfind,
            List.foldl_cons, List.foldl_nil]
      | some place =>
          rcases splitOn_drop_of_findFrom_some hfind with ⟨hstart, hplace, hpieces⟩
          rw [hpieces, List.foldl_cons]
          simp only [Option.getD_some]
          exact ih (by omega) (by omega) _

end Scan

section Collect

variable {β γ : Type}

/-- A limit of zero is none. -/
def atMost (limit : Nat) (items : List γ) : List γ :=
  if limit = 0 then items else items.take limit

def collectStep (limit : Nat) (find : β → Option γ) (found : List γ) (item : β) : List γ :=
  if limit ≠ 0 ∧ limit ≤ found.length then found else found ++ (find item).toList

theorem atMost_append_of_full {limit : Nat} {found : List γ} (hlimit : limit ≠ 0)
    (hfull : limit ≤ found.length) (rest : List γ) :
    atMost limit (found ++ rest) = atMost limit found := by
  rw [atMost, atMost, if_neg hlimit, if_neg hlimit, List.take_append_of_le_length hfull]

theorem foldl_collectStep (limit : Nat) (find : β → Option γ) (items : List β)
    {found : List γ} (hfound : atMost limit found = found) :
    items.foldl (collectStep limit find) found = atMost limit (found ++ items.filterMap find) := by
  induction items generalizing found with
  | nil => rw [List.foldl_nil, List.filterMap_nil, List.append_nil, hfound]
  | cons item rest ih =>
      rw [List.foldl_cons]
      by_cases hfull : limit ≠ 0 ∧ limit ≤ found.length
      · -- What follows is beyond the limit.
        rw [collectStep, if_pos hfull, ih hfound, atMost_append_of_full hfull.1 hfull.2,
          atMost_append_of_full hfull.1 hfull.2]
      · rw [collectStep, if_neg hfull, ih, List.append_assoc]
        · cases hfind : find item <;> simp [hfind]
        · rw [atMost]
          split
          · rfl
          · rename_i hlimit
            apply List.take_of_length_le
            have hroom : found.length < limit := Nat.lt_of_not_le (fun h => hfull ⟨hlimit, h⟩)
            rw [List.length_append]
            cases find item
            · exact Nat.le_of_lt hroom
            · exact hroom

theorem foldl_collects {σ : Type} (collected : σ → List γ) {process : σ → β → σ} {limit : Nat}
    {find : β → Option γ}
    (hprocess : ∀ state item,
      collected (process state item) = collectStep limit find (collected state) item)
    (state : σ) (hstate : collected state = []) (items : List β) :
    collected (items.foldl process state) = atMost limit (items.filterMap find) := by
  have hnone : atMost limit ([] : List γ) = [] := by rw [atMost, List.take_nil, ite_self]
  rw [← List.foldl_hom collected (fun state item => (hprocess state item).symm), hstate,
    foldl_collectStep limit find items hnone, List.nil_append]

end Collect

end Separated
