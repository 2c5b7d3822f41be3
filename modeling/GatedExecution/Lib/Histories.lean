import Mathlib

/-!
# Entries of a history and what came before them

A history is a list that grows at its end.  Statements about an entry and the entries
before it are stated for every place where the list can be cut.

Main results:

- Theorems {lit}`each_nil`, {lit}`each_concat` and {lit}`each_append`: the statement over
  a history that grows.
- Theorem {lit}`each_map`: the statement over the images of the entries.
- Theorem {lit}`latest_concat`: what the last entry of a kind says, one entry later.
- Theorem {lit}`foldl_field_eq_latest`: a field into which entries write holds what was
  written last.
- Theorem {lit}`latestSince_concat`: the same, where some entries end what came before.
-/

namespace Histories

variable {α β : Type} {P : List α → α → Prop} {history : List α}

/-- {lit}`P` holds of every entry and the list of the entries before it. -/
def Each (P : List α → α → Prop) (history : List α) : Prop :=
  ∀ before entry after, history = before ++ entry :: after → P before entry

theorem each_nil : Each P [] := by
  intro before entry after hsplit
  exact absurd hsplit (List.append_ne_nil_of_right_ne_nil before (List.cons_ne_nil _ _)).symm

theorem each_concat {entry : α} (hhistory : Each P history) (hentry : P history entry) :
    Each P (history ++ [entry]) := by
  intro before found after hsplit
  rcases List.eq_nil_or_concat after with rfl | ⟨front, last, rfl⟩
  · rcases List.append_inj' hsplit rfl with ⟨rfl, hlast⟩
    cases hlast
    exact hentry
  · rw [List.concat_eq_append, ← List.cons_append, ← List.append_assoc] at hsplit
    exact hhistory before found front (List.append_inj' hsplit rfl).1

theorem each_append {more : List α} (hhistory : Each P history)
    (hmore : Each (fun before entry => P (history ++ before) entry) more) :
    Each P (history ++ more) := by
  induction more using List.reverseRecOn with
  | nil =>
      rw [List.append_nil]
      exact hhistory
  | append_singleton front last ih =>
      rw [← List.append_assoc]
      apply each_concat
      · apply ih
        intro before entry after hsplit
        apply hmore before entry (after ++ [last])
        rw [hsplit, List.append_assoc, List.cons_append]
      · exact hmore front last [] rfl

theorem each_map {f : β → α} {sources : List β}
    (heach : Each (fun before entry => P (before.map f) (f entry)) sources) :
    Each P (sources.map f) := by
  intro before entry after hsplit
  rcases List.map_eq_append_iff.mp hsplit with ⟨front, rest, rfl, rfl, hrest⟩
  rcases List.map_eq_cons_iff.mp hrest with ⟨source, tail, rfl, rfl, rfl⟩
  exact heach front source tail rfl

/-- What the last entry that {lit}`read` finds something in says. -/
def latest (read : α → Option β) (history : List α) : Option β :=
  (history.filterMap read).getLast?

theorem latest_concat (read : α → Option β) (history : List α) (entry : α) :
    latest read (history ++ [entry]) = (read entry).or (latest read history) := by
  rw [latest, List.filterMap_append, List.getLast?_append]
  cases hread : read entry <;> simp [hread, latest]

/-- An entry decides as long as those after it say the same or nothing. -/
theorem latest_of_kept {read : α → Option β} {earlier later : List α} {entry : α} {value : β}
    (hentry : read entry = some value)
    (hkept : ∀ other ∈ later, ∀ found, read other = some found → found = value) :
    latest read (earlier ++ entry :: later) = some value := by
  induction later using List.reverseRecOn with
  | nil => rw [latest_concat, hentry, Option.some_or]
  | append_singleton front last ih =>
      have hfront := ih (fun other hmem => hkept other (List.mem_append_left _ hmem))
      rw [← List.cons_append, ← List.append_assoc, latest_concat, hfront]
      cases hread : read last with
      | none => rfl
      | some found =>
          rw [hkept last (List.mem_append_right _ List.mem_cons_self) found hread]
          rfl

theorem foldl_field_eq_latest {σ : Type} {step : σ → α → σ} (field : σ → β)
    {read : α → Option β} (hstep : ∀ s a, field (step s a) = (read a).getD (field s)) (s : σ)
    (history : List α) :
    field (history.foldl step s) = (latest read history).getD (field s) := by
  induction history using List.reverseRecOn with
  | nil => rfl
  | append_singleton front last ih =>
      rw [List.foldl_append, List.foldl_cons, List.foldl_nil, hstep, latest_concat, ih]
      cases read last <;> rfl

/-- What the last entry that {lit}`read` finds something in says, among those after the
last entry that {lit}`ends` holds of. -/
def latestSince (ends : α → Bool) (read : α → Option β) (history : List α) : Option β :=
  latest read (history.rtakeWhile (fun entry => !ends entry))

theorem latestSince_concat (ends : α → Bool) (read : α → Option β) (history : List α)
    (entry : α) :
    latestSince ends read (history ++ [entry]) =
      if ends entry then none else (read entry).or (latestSince ends read history) := by
  by_cases hends : ends entry = true
  · simp [latestSince, hends, latest]
  · simp [latestSince, hends, latest_concat]

/-- What was found is in an entry of the history. -/
theorem exists_of_latestSince {ends : α → Bool} {read : α → Option β} {value : β}
    (hlatest : latestSince ends read history = some value) :
    ∃ entry ∈ history, read entry = some value := by
  have hfound : value ∈ (history.rtakeWhile (fun entry => !ends entry)).filterMap read :=
    List.mem_of_getLast? hlatest
  rcases List.mem_filterMap.mp hfound with ⟨entry, hentry, hread⟩
  exact ⟨entry, (List.rtakeWhile_suffix _ history).subset hentry, hread⟩

end Histories
