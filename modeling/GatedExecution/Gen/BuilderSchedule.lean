import GatedExecution.Gen.BuilderFlow
import GatedExecution.Gen.SymbolCoverage

/-!
# Which generated sessions the books accept

The builder computes the symbol of an event, its shares and whether a cancellation is due from
the number of the event alone.  So the configuration says which event cancels the order of
which other event, and for which of them it asks for more shares than were added: the shares
run through the configured sizes with the number of the event, so most orders are cancelled
with more shares than they have, unless there is one size only or nothing is cancelled.

Events are counted from zero.

Main results:

- Theorem {lit}`scheduled_advance`: the queues of the builder follow the schedule.
- Theorem {lit}`codes_ok_iff_offsets`: which sessions are accepted, by numbers of events.
- Theorem {lit}`flow_accepted_iff`: the same, with conditions on the configuration.
-/

namespace Fgep.Gen

open Itch Replay ItchMessageBuilder

/-! ## The schedule -/

/-- How many sizes there are from the least to the largest. -/
def shareSizes (config : ItchMessageBuilderConfig) : Nat :=
  (normalize config).maxShares.toNat - (normalize config).minShares.toNat + 1

/-- The shares of an event, above the least size. -/
def shareOffset (config : ItchMessageBuilderConfig) (k : Nat) : Nat :=
  (k + 1) % 2 ^ 64 % shareSizes config

/-- The event cancels if its symbol has an order to cancel. -/
def cancelDue (config : ItchMessageBuilderConfig) (k : Nat) : Bool :=
  ((k + 1) % 2 ^ 64 * 7 + 3) % 2 ^ 64 % 100 < (normalize config).cancelPercent.toNat

/-- The events before event {lit}`k` whose orders of a symbol are not cancelled, oldest
first. -/
def pending (config : ItchMessageBuilderConfig) : Nat → Nat → List Nat
  | 0, _ => []
  | k + 1, place =>
      if eventPlace config k ≠ place then pending config k place
      else if cancelDue config k ∧ pending config k place ≠ [] then (pending config k place).tail
      else pending config k place ++ [k]

/-- Event {lit}`c` cancels the order of event {lit}`a`. -/
def Cancels (config : ItchMessageBuilderConfig) (a c : Nat) : Prop :=
  cancelDue config c = true ∧ (pending config c (eventPlace config c)).head? = some a

section Schedule

variable {config : ItchMessageBuilderConfig}

theorem pending_of_ne {k place : Nat} (hother : eventPlace config k ≠ place) :
    pending config (k + 1) place = pending config k place := by
  rw [pending, if_pos hother]

theorem pending_of_cancels {a k : Nat} (hcancels : Cancels config a k) :
    pending config (k + 1) (eventPlace config k) =
      (pending config k (eventPlace config k)).tail := by
  have hsome : pending config k (eventPlace config k) ≠ [] := by
    intro hnone
    have hfront := hcancels.2
    rw [hnone] at hfront
    cases hfront
  rw [pending, if_neg (not_not.mpr rfl), if_pos ⟨hcancels.1, hsome⟩]

theorem pending_of_not_cancels {k : Nat} (hnever : ∀ a, ¬Cancels config a k) :
    pending config (k + 1) (eventPlace config k) =
      pending config k (eventPlace config k) ++ [k] := by
  rw [pending, if_neg (not_not.mpr rfl), if_neg]
  rintro ⟨hdue, hsome⟩
  exact hnever _ ⟨hdue, List.head?_eq_some_head hsome⟩

theorem cancels_or_not (config : ItchMessageBuilderConfig) (k : Nat) :
    (∃ a, Cancels config a k) ∨ ∀ a, ¬Cancels config a k := by
  by_cases hsome : ∃ a, Cancels config a k
  · exact Or.inl hsome
  · exact Or.inr (fun a hcancels => hsome ⟨a, hcancels⟩)

/-- An outstanding order is of its own symbol and of an earlier event. -/
theorem mem_pending {a k place : Nat} (hmem : a ∈ pending config k place) :
    a < k ∧ eventPlace config a = place := by
  induction k with
  | zero => exact absurd hmem List.not_mem_nil
  | succ k ih =>
      by_cases hother : eventPlace config k ≠ place
      · rw [pending_of_ne hother] at hmem
        exact ⟨Nat.lt_succ_of_lt (ih hmem).1, (ih hmem).2⟩
      rw [not_not] at hother
      subst hother
      rcases cancels_or_not config k with ⟨b, hcancels⟩ | hnever
      · rw [pending_of_cancels hcancels] at hmem
        have hearlier := ih (List.mem_of_mem_tail hmem)
        exact ⟨Nat.lt_succ_of_lt hearlier.1, hearlier.2⟩
      · rw [pending_of_not_cancels hnever] at hmem
        rcases List.mem_append.mp hmem with hmem | hmem
        · exact ⟨Nat.lt_succ_of_lt (ih hmem).1, (ih hmem).2⟩
        · rw [List.mem_singleton.mp hmem]
          exact ⟨Nat.lt_succ_self k, rfl⟩

theorem Cancels.earlier {a c : Nat} (hcancels : Cancels config a c) :
    a < c ∧ eventPlace config a = eventPlace config c :=
  mem_pending (List.mem_of_head? hcancels.2)

/-- Before the first cancellation every event is outstanding. -/
theorem mem_pending_or_cancels {a k : Nat} (hlt : a < k) :
    a ∈ pending config k (eventPlace config a) ∨ ∃ b c, c < k ∧ Cancels config b c := by
  induction k with
  | zero => exact absurd hlt (Nat.not_lt_zero a)
  | succ k ih =>
      rcases cancels_or_not config k with ⟨b, hcancels⟩ | hnever
      · exact Or.inr ⟨b, k, Nat.lt_succ_self k, hcancels⟩
      rcases Nat.lt_succ_iff_lt_or_eq.mp hlt with hearlier | rfl
      · rcases ih hearlier with hmem | ⟨b, c, hc, hcancels⟩
        · left
          by_cases hsame : eventPlace config k = eventPlace config a
          · rw [← hsame] at hmem ⊢
            rw [pending_of_not_cancels hnever]
            exact List.mem_append_left _ hmem
          · rw [pending_of_ne hsame]
            exact hmem
        · exact Or.inr ⟨b, c, Nat.lt_succ_of_lt hc, hcancels⟩
      · left
        rw [pending_of_not_cancels hnever]
        exact List.mem_append_right _ List.mem_cons_self

/-! ## The builder follows the schedule -/

/-- The message of an event. -/
def eventMessage (config : ItchMessageBuilderConfig) (k : Nat) : Message :=
  ((new config).advance k).nextMarketEvent.1

/-- The event added the order with a reference number. -/
def Ordered (config : ItchMessageBuilderConfig) (reference : OrderReferenceNumber) (k : Nat) :
    Prop :=
  ∃ add, eventMessage config k = .addOrderNoMpid add ∧ add.orderReferenceNumber = reference ∧
    add.shares.toNat = (normalize config).minShares.toNat + shareOffset config k

/-- What each symbol remembers are the orders that are outstanding. -/
def Scheduled (config : ItchMessageBuilderConfig) (k : Nat) (builder : ItchMessageBuilder) :
    Prop :=
  ∀ (index : Nat) (symbolState : SymbolState), builder.symbolStates[index]? = some symbolState →
    List.Forall₂ (Ordered config) symbolState.restingOrders (pending config k index)

theorem chooseShares_event (hconfig : config.Admissible) (k : Nat) :
    ((new config).advance k).tick.chooseShares.toNat =
      (normalize config).minShares.toNat + shareOffset config k := by
  have hstart := new_wellFormed hconfig
  have hkept : ((new config).advance k).tick.config = normalize config :=
    (advance_placed hstart.placed k).2.1
  rw [(advance_wellFormed hstart k).tick.chooseShares_toNat, hkept, toNat_generatedCount_event]
  rfl

theorem shouldCancel_event (hconfig : config.Admissible) (k : Nat) (symbolState : SymbolState) :
    ((new config).advance k).tick.shouldCancel symbolState =
      (!symbolState.restingOrders.isEmpty && cancelDue config k) := by
  have hkept : ((new config).advance k).tick.config = normalize config :=
    (advance_placed (new_wellFormed hconfig).placed k).2.1
  have hcount := @toNat_generatedCount_event config k
  generalize ((new config).advance k).tick = builder at hkept hcount ⊢
  rw [shouldCancel]
  cases symbolState.restingOrders.isEmpty with
  | true => rfl
  | false =>
      have hbucket : (builder.generatedCount * 7 + 3).toNat =
          ((k + 1) % 2 ^ 64 * 7 + 3) % 2 ^ 64 := by
        rw [UInt64.toNat_add, UInt64.toNat_mul, hcount]
        change ((k + 1) % 2 ^ 64 * 7 % 2 ^ 64 + 3) % 2 ^ 64 = _
        omega
      simp only [Bool.false_eq_true, if_false, Bool.not_false, Bool.true_and, cancelDue,
        bucket_lt_iff, hkept, hbucket]

/-- An event changes the queue of its own symbol. -/
theorem Scheduled.set {k : Nat} {builder after : ItchMessageBuilder}
    (hscheduled : Scheduled config k builder) {symbolState : SymbolState}
    {restingOrders : List OrderReferenceNumber}
    (hafter : after.symbolStates = builder.symbolStates.set (eventPlace config k)
      { symbolState with restingOrders := restingOrders })
    (hqueue : List.Forall₂ (Ordered config) restingOrders
      (pending config (k + 1) (eventPlace config k))) : Scheduled config (k + 1) after := by
  intro index other hother
  rw [hafter, List.getElem?_set] at hother
  split at hother
  · rename_i hsame
    subst hsame
    split at hother
    · cases hother
      exact hqueue
    · cases hother
  · rename_i hne
    rw [pending_of_ne hne]
    exact hscheduled index other hother

/-- What an event is, and the queues after it. -/
theorem event_cases (hconfig : config.Admissible) {k : Nat}
    (hscheduled : Scheduled config k ((new config).advance k)) :
    ((∃ a cancel, Cancels config a k ∧ eventMessage config k = .orderCancel cancel ∧
        Ordered config cancel.orderReferenceNumber a ∧
        cancel.cancelledShares.toNat =
          (normalize config).minShares.toNat + shareOffset config k) ∨
      ((∀ a, ¬Cancels config a k) ∧ ∃ add, eventMessage config k = .addOrderNoMpid add)) ∧
    Scheduled config (k + 1) ((new config).advance (k + 1)) := by
  have hbuilder := advance_wellFormed (new_wellFormed hconfig) k
  have hshares := chooseShares_event hconfig k
  obtain ⟨symbolState, hstate, hnext⟩ := nextMarketEvent_eq hbuilder.placed
  rw [shouldCancel_event hconfig, chooseSymbolIndex_event hconfig.locates] at hnext
  rw [chooseSymbolIndex_event hconfig.locates] at hstate
  have hqueue := hscheduled _ symbolState hstate
  rw [advance_succ]
  -- Without a cancellation the event is an Add Order at the end of the queue.
  have hadds : (∀ a, ¬Cancels config a k) →
      ((new config).advance k).nextMarketEvent =
        ((new config).advance k).tick.buildAddOrder (eventPlace config k) symbolState →
      ((∀ a, ¬Cancels config a k) ∧ ∃ add, eventMessage config k = .addOrderNoMpid add) ∧
        Scheduled config (k + 1) ((new config).advance k).nextMarketEvent.2 := by
    intro hnever hevent
    have hmessage : eventMessage config k = (((new config).advance k).tick.buildAddOrder
        (eventPlace config k) symbolState).1 := congrArg Prod.fst hevent
    refine ⟨⟨hnever, _, hmessage⟩, hscheduled.set (congrArg
      (fun result : Message × ItchMessageBuilder => result.2.symbolStates) hevent) ?_⟩
    rw [pending_of_not_cancels hnever]
    exact List.rel_append hqueue (.cons ⟨_, hmessage, rfl, hshares⟩ .nil)
  cases hresting : symbolState.restingOrders with
  | nil =>
      rw [hresting] at hnext hqueue
      have hnone := List.forall₂_nil_left_iff.mp hqueue
      have hnever : ∀ a, ¬Cancels config a k := by
        rintro a ⟨-, hfront⟩
        rw [hnone] at hfront
        cases hfront
      exact (hadds hnever hnext).imp_left Or.inr
  | cons reference rest =>
      rw [hresting] at hnext hqueue
      obtain ⟨a, later, hordered, hrest, hpending⟩ := List.forall₂_cons_left_iff.mp hqueue
      have hfront : (pending config k (eventPlace config k)).head? = some a := by
        rw [hpending]
        rfl
      cases hdue : cancelDue config k with
      | false =>
          rw [hdue] at hnext
          have hnever : ∀ b, ¬Cancels config b k := by
            rintro b ⟨hcancel, -⟩
            rw [hdue] at hcancel
            cases hcancel
          exact (hadds hnever hnext).imp_left Or.inr
      | true =>
          rw [hdue] at hnext
          have hcancels : Cancels config a k := ⟨hdue, hfront⟩
          have hevent : ((new config).advance k).nextMarketEvent =
              ((new config).advance k).tick.buildCancel (eventPlace config k) symbolState := hnext
          rw [buildCancel, hresting] at hevent
          refine ⟨Or.inl ⟨a, _, hcancels, congrArg Prod.fst hevent, hordered, hshares⟩,
            hscheduled.set (congrArg
              (fun result : Message × ItchMessageBuilder => result.2.symbolStates) hevent) ?_⟩
          rw [pending_of_cancels hcancels, hpending]
          exact hrest

theorem scheduled_advance (hconfig : config.Admissible) (k : Nat) :
    Scheduled config k ((new config).advance k) := by
  induction k with
  | zero =>
      intro index symbolState hstate
      rw [(new_symbolStates_getElem? hconfig.locates hstate).2.1]
      exact .nil
  | succ k ih => exact (event_cases hconfig ih).2

/-! ## Sessions -/

/-- A session is accepted exactly if every cancellation comes at a size no larger than that of
the order it cancels. -/
theorem codes_ok_iff_offsets (hconfig : config.Admissible) {n : Nat}
    (hroom : config.firstOrderReferenceNumber.toNat +
      (addOrders ((new config).events n)).length ≤ 2 ^ 64)
    {venueId : Venue.VenueId} (hvenue : Venue.isValidVenueId venueId = true)
    {decoded : List DecodedItchMessage}
    (hdecoded : decoded.map (fun item => item.message) =
      (new config).sessionOpenMessages ++ (new config).events n) :
    (∀ code ∈ (freshApplier venueId).applyCodes decoded, code = .ok) ↔
      ∀ a c, c < n → Cancels config a c → shareOffset config c ≤ shareOffset config a := by
  have hcases := fun k => (event_cases hconfig (scheduled_advance hconfig k)).1
  have hmem : ∀ {k}, k < n → eventMessage config k ∈ (new config).events n := by
    intro k hk
    rw [events_eq_map]
    exact List.mem_map.mpr ⟨k, List.mem_range.mpr hk, rfl⟩
  rw [codes_ok_iff_cancelFits config n venueId decoded hconfig hroom hvenue hdecoded]
  constructor
  · intro hfits a c hc hcancels
    rcases hcases c with ⟨b, cancel, hother, hmessage, ⟨add, hadd, hreference, hadded⟩, hshares⟩ |
      ⟨hnever, -⟩
    · have hsame : b = a := Option.some.inj (hother.2.symm.trans hcancels.2)
      subst hsame
      have hle := hfits cancel (hmessage ▸ hmem hc) add
        (hadd ▸ hmem (Nat.lt_trans hcancels.earlier.1 hc)) hreference
      rw [UInt32.le_iff_toNat_le, hshares, hadded] at hle
      exact Nat.le_of_add_le_add_left hle
    · exact absurd hcancels (hnever a)
  · intro hoffsets cancel hcancel other hother hsame
    rw [events_eq_map] at hcancel
    obtain ⟨c, hrange, hevent⟩ := List.mem_map.mp hcancel
    have hc := List.mem_range.mp hrange
    rcases hcases c with ⟨a, found, hcancels, hmessage, ⟨add, hadd, hreference, hadded⟩, hshares⟩ |
      ⟨-, add, hmessage⟩
    · have hfound : found = cancel := Message.orderCancel.inj (hmessage.symm.trans hevent)
      subst hfound
      have hdistinct := distinctReferences_events (new_wellFormed hconfig) hroom
      rw [hdistinct other add hother (hadd ▸ hmem (Nat.lt_trans hcancels.earlier.1 hc))
        (hsame.trans hreference.symm), UInt32.le_iff_toNat_le, hshares, hadded]
      exact Nat.add_le_add_left (hoffsets a c hc hcancels) _
    · cases hmessage.symm.trans hevent

/-- Below the number of sizes, an event's shares grow with its number. -/
theorem shareOffset_of_lt {k : Nat} (hk : k + 1 < shareSizes config) :
    shareOffset config k = k + 1 := by
  have hsizes : shareSizes config ≤ 2 ^ 64 := by
    have hmax := UInt32.toNat_lt (normalize config).maxShares
    unfold shareSizes
    omega
  rw [shareOffset, Nat.mod_eq_of_lt (by omega : k + 1 < 2 ^ 64), Nat.mod_eq_of_lt hk]

theorem shareSizes_eq_one (hshares : config.maxShares ≤ config.minShares ∨ config.maxShares ≤ 1) :
    shareSizes config = 1 := by
  have hmin : config.maxShares ≤ (normalize config).minShares := by
    change _ ≤ if config.minShares = 0 then 1 else config.minShares
    split
    · rename_i hzero
      rw [hzero] at hshares
      exact hshares.elim (fun hle => UInt32.le_trans hle (by decide)) id
    · rename_i hne
      refine hshares.elim id (fun hle => UInt32.le_trans hle ?_)
      rw [UInt32.le_iff_toNat_le]
      exact Nat.pos_of_ne_zero (fun hzero => hne (UInt32.toNat_inj.mp hzero))
  have hmax : (normalize config).maxShares = (normalize config).minShares := by
    change (if config.maxShares < (normalize config).minShares then _ else _) = _
    split
    · rfl
    · rename_i hge
      exact UInt32.le_antisymm hmin (UInt32.not_lt.mp hge)
  rw [shareSizes, hmax, Nat.sub_self]

theorem cancelDue_of_zero (hnever : config.cancelPercent = 0) (k : Nat) :
    cancelDue config k = false := by
  have hpercent : (normalize config).cancelPercent.toNat = 0 := by
    change (clampPercent config.cancelPercent).toNat = 0
    rw [hnever]
    rfl
  rw [cancelDue, hpercent, decide_eq_false_iff_not]
  exact Nat.not_lt_zero _

end Schedule

/-- Which sessions of an admissible builder the platform accepts: those in which no event
cancels the order of an event with a smaller size.  It is enough that no event at which a
cancellation is due has a larger size than an earlier event of its symbol, so one size, or no
cancellations, are enough for sessions of any length; and up to the number of sizes, a session
is accepted only if no cancellation is due after the first event of a symbol. -/
theorem flow_accepted_iff (config : ItchMessageBuilderConfig) (n : Nat)
    (venueId : Venue.VenueId) (decoded : List DecodedItchMessage)
    (hconfig : config.Admissible)
    (hroom : config.firstOrderReferenceNumber.toNat +
      (addOrders ((ItchMessageBuilder.new config).events n)).length ≤ 2 ^ 64)
    (hvenue : Venue.isValidVenueId venueId = true)
    (hdecoded : decoded.map (fun item => item.message) =
      (ItchMessageBuilder.new config).sessionOpenMessages ++
        (ItchMessageBuilder.new config).events n) :
    let accepted := ∀ code ∈ (freshApplier venueId).applyCodes decoded, code = .ok
    (accepted ↔
      ∀ a c, c < n → Cancels config a c → shareOffset config c ≤ shareOffset config a) ∧
    ((∀ a c, a < c → c < n → eventPlace config a = eventPlace config c →
      cancelDue config c = true → shareOffset config c ≤ shareOffset config a) → accepted) ∧
    (n < shareSizes config →
      (accepted ↔ ∀ a c, a < c → c < n → eventPlace config a = eventPlace config c →
        cancelDue config c = false)) ∧
    (config.maxShares ≤ config.minShares ∨ config.maxShares ≤ 1 ∨ config.cancelPercent = 0 →
      accepted) := by
  intro accepted
  have hiff : accepted ↔
      ∀ a c, c < n → Cancels config a c → shareOffset config c ≤ shareOffset config a :=
    codes_ok_iff_offsets hconfig hroom hvenue hdecoded
  have henough : (∀ a c, a < c → c < n → eventPlace config a = eventPlace config c →
      cancelDue config c = true → shareOffset config c ≤ shareOffset config a) → accepted := by
    intro hpairs
    refine hiff.mpr (fun a c hc hcancels => ?_)
    obtain ⟨hlt, hplace⟩ := hcancels.earlier
    exact hpairs a c hlt hc hplace hcancels.1
  refine ⟨hiff, henough, fun hshort => ⟨fun haccepted a c hlt hc hplace => ?_, ?_⟩, ?_⟩
  · -- While the sizes grow, no cancellation at all is accepted.
    have hnone : ∀ b d, d < n → ¬Cancels config b d := by
      intro b d hd hcancels
      have hle := hiff.mp haccepted b d hd hcancels
      have hearlier := hcancels.earlier.1
      rw [shareOffset_of_lt (by omega), shareOffset_of_lt (by omega)] at hle
      omega
    rw [← Bool.not_eq_true]
    intro hdue
    rcases @mem_pending_or_cancels config a c hlt with hmem | ⟨b, d, hd, hcancels⟩
    · rw [hplace] at hmem
      exact hnone _ c hc ⟨hdue, List.head?_eq_some_head (List.ne_nil_of_mem hmem)⟩
    · exact hnone b d (Nat.lt_trans hd hc) hcancels
  · intro hnever
    refine henough (fun a c hlt hc hplace hdue => ?_)
    rw [hnever a c hlt hc hplace] at hdue
    cases hdue
  · intro hsimple
    refine henough (fun a c hlt hc hplace hdue => ?_)
    have hsizes : config.maxShares ≤ config.minShares ∨ config.maxShares ≤ 1 →
        shareOffset config c ≤ shareOffset config a := by
      intro hone
      rw [shareOffset, shareOffset, shareSizes_eq_one hone, Nat.mod_one, Nat.mod_one]
    rcases hsimple with hone | hone | hzero
    · exact hsizes (Or.inl hone)
    · exact hsizes (Or.inr hone)
    · rw [cancelDue_of_zero hzero] at hdue
      cases hdue

/-- With one share size a session with a cancellation is accepted. -/
theorem flow_accepted_iff_equal_shares :
    let config : ItchMessageBuilderConfig :=
      { minShares := 100, maxShares := 100, cancelPercent := 100 }
    let builder := ItchMessageBuilder.new config
    (∃ cancel, .orderCancel cancel ∈ builder.events 2) ∧
      ∀ code ∈ (freshApplier 1).applyCodes ((builder.sessionOpenMessages ++
        builder.events 2).map (fun message => ⟨1, message⟩)), code = .ok := by
  intro config builder
  constructor
  · exact ⟨⟨⟨1, 0, 2000⟩, 1, 100⟩, by decide +kernel⟩
  · have hconfig : config.Admissible := ⟨by simp [config], by decide, by decide, by decide,
      by simp [config]⟩
    refine (flow_accepted_iff config 2 1
      ((builder.sessionOpenMessages ++ builder.events 2).map (fun message => ⟨1, message⟩))
      hconfig (by decide +kernel) (by decide) ?_).2.2.2 (Or.inl (by decide))
    rw [List.map_map]
    exact List.map_id _

/-- The default configuration: the fourteenth event cancels 114 shares of an order
added with 101. -/
theorem flow_default_rejected :
    let config : ItchMessageBuilderConfig := {}
    let builder := ItchMessageBuilder.new config
    config.Admissible ∧
      config.firstOrderReferenceNumber.toNat + (addOrders (builder.events 14)).length ≤ 2 ^ 64 ∧
      (freshApplier 1).applyCodes
          ((builder.sessionOpenMessages ++ builder.events 14).map (fun message => ⟨1, message⟩)) =
        List.replicate 14 .ok ++ [.invalidState] := by
  intro config builder
  have hconfig : config.Admissible := ⟨by simp [config], by decide, by decide, by decide,
    by simp [config]⟩
  exact ⟨hconfig, by decide +kernel, by decide +kernel⟩

end Fgep.Gen
