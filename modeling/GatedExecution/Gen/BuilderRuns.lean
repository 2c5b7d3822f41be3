import GatedExecution.Gen.MessageBuilder
import GatedExecution.Itch.Codec

/-!
# Runs of the message builder

What the messages of a builder have to do with one another over a whole run.  Each symbol
keeps a queue of the reference numbers it has added and not cancelled; that queue can be
read off the messages that were sent, so the reference number at its front is that of the
oldest Add Order of the symbol that no Order Cancel has named.

Main results:

- Theorem {lit}`tracks_advance`: counter and queues of a builder tell what it has sent.
- Theorem {lit}`reset_advance`: a reset takes a builder back to where it began.
- Theorem {lit}`flow_references`: the reference numbers of Add Orders and Order Cancels.
- Theorem {lit}`flow_encodes`: indices, remainders and shares stay in range, and the ITCH
  encoder takes every message.
-/

namespace Fgep.Gen

open Wire Itch ItchMessageBuilder

/-! ## What was sent -/

/-- The reference numbers that Order Cancel messages name. -/
def cancelReferences (messages : List Message) : List OrderReferenceNumber :=
  messages.filterMap fun
    | .orderCancel message => some message.orderReferenceNumber
    | _ => none

/-- The reference numbers of the Add Orders under a locate that no Order Cancel names,
oldest first. -/
def outstanding (messages : List Message) (stockLocate : StockLocate) :
    List OrderReferenceNumber :=
  ((addOrders messages).filter (fun add => add.header.stockLocate = stockLocate ∧
    add.orderReferenceNumber ∉ cancelReferences messages)).map (·.orderReferenceNumber)

section Sent

variable {messages : List Message} {stockLocate : StockLocate}

theorem addOrders_append (first second : List Message) :
    addOrders (first ++ second) = addOrders first ++ addOrders second :=
  List.filterMap_append

theorem cancelReferences_append (first second : List Message) :
    cancelReferences (first ++ second) = cancelReferences first ++ cancelReferences second :=
  List.filterMap_append

theorem cancelReferences_concat_add (messages : List Message) (add : AddOrderNoMpidMessage) :
    cancelReferences (messages ++ [.addOrderNoMpid add]) = cancelReferences messages := by
  rw [cancelReferences_append]
  exact List.append_nil _

theorem addOrders_concat_cancel (messages : List Message) (cancel : OrderCancelMessage) :
    addOrders (messages ++ [.orderCancel cancel]) = addOrders messages := by
  rw [addOrders_append]
  exact List.append_nil _

theorem mem_outstanding {reference : OrderReferenceNumber} :
    reference ∈ outstanding messages stockLocate ↔
      reference ∉ cancelReferences messages ∧ ∃ add ∈ addOrders messages,
        add.header.stockLocate = stockLocate ∧ add.orderReferenceNumber = reference := by
  simp only [outstanding, List.mem_map, List.mem_filter, decide_eq_true_eq]
  constructor
  · rintro ⟨add, ⟨hadd, hlocate, hnever⟩, rfl⟩
    exact ⟨hnever, add, hadd, hlocate, rfl⟩
  · rintro ⟨hnever, add, hadd, hlocate, rfl⟩
    exact ⟨add, ⟨hadd, hlocate, hnever⟩, rfl⟩

theorem outstanding_concat_add {add : AddOrderNoMpidMessage}
    (hfresh : add.orderReferenceNumber ∉ cancelReferences messages)
    (stockLocate : StockLocate) :
    outstanding (messages ++ [.addOrderNoMpid add]) stockLocate =
      outstanding messages stockLocate ++
        if add.header.stockLocate = stockLocate then [add.orderReferenceNumber] else [] := by
  rw [outstanding, cancelReferences_concat_add, addOrders_append, List.filter_append,
    List.map_append]
  congr 1
  rw [addOrders_cons_add]
  by_cases hlocate : add.header.stockLocate = stockLocate <;>
    simp [addOrders, hlocate, hfresh]

theorem outstanding_concat_cancel (cancel : OrderCancelMessage) (stockLocate : StockLocate) :
    outstanding (messages ++ [.orderCancel cancel]) stockLocate =
      (outstanding messages stockLocate).filter (· ≠ cancel.orderReferenceNumber) := by
  have hcancels : cancelReferences (messages ++ [.orderCancel cancel]) =
      cancelReferences messages ++ [cancel.orderReferenceNumber] :=
    cancelReferences_append _ _
  rw [outstanding, outstanding, addOrders_concat_cancel, hcancels, List.filter_map,
    List.filter_filter]
  congr 1
  apply List.filter_congr
  intro add _
  simp only [List.mem_append, List.mem_singleton, not_or, Function.comp_apply]
  grind

end Sent

/-! ## What the builder remembers -/

/-- The counter and the queues of a builder agree with what it has sent. -/
structure Tracks (first : Nat) (sent : List Message) (builder : ItchMessageBuilder) : Prop where
  references : (addOrders sent).map (fun add => add.orderReferenceNumber.toNat) =
    List.range' first (addOrders sent).length
  next : builder.nextOrderReferenceNumber = UInt64.ofNat (first + (addOrders sent).length)
  cancelled : ∀ reference ∈ cancelReferences sent,
    reference ∈ (addOrders sent).map (·.orderReferenceNumber)
  resting : ∀ (index : Nat) (symbolState : SymbolState),
    builder.symbolStates[index]? = some symbolState →
      symbolState.restingOrders = outstanding sent symbolState.stockLocate

section Tracks

variable {first : Nat} {sent : List Message} {builder : ItchMessageBuilder} {index : Nat}
  {symbolState : SymbolState}

theorem Tracks.nodup (htracks : Tracks first sent builder) :
    ((addOrders sent).map (·.orderReferenceNumber)).Nodup := by
  apply List.Nodup.of_map UInt64.toNat
  rw [List.map_map]
  change ((addOrders sent).map (fun add => add.orderReferenceNumber.toNat)).Nodup
  rw [htracks.references]
  exact List.nodup_range'

theorem Tracks.reference_bounds (htracks : Tracks first sent builder)
    {reference : OrderReferenceNumber}
    (hmem : reference ∈ (addOrders sent).map (·.orderReferenceNumber)) :
    first ≤ reference.toNat ∧ reference.toNat < first + (addOrders sent).length := by
  obtain ⟨add, hadd, rfl⟩ := List.mem_map.mp hmem
  have hrange : add.orderReferenceNumber.toNat ∈ List.range' first (addOrders sent).length := by
    rw [← htracks.references]
    exact List.mem_map_of_mem hadd
  exact List.mem_range'_1.mp hrange

theorem Tracks.toNat_next (htracks : Tracks first sent builder)
    (hroom : first + (addOrders sent).length < 2 ^ 64) :
    builder.nextOrderReferenceNumber.toNat = first + (addOrders sent).length := by
  rw [htracks.next]
  exact UInt64.toNat_ofNat_of_lt' hroom

/-- Only the queue of one symbol changes in an event. -/
theorem resting_set {states : List SymbolState} {sent' : List Message}
    {restingOrders : List OrderReferenceNumber}
    (hresting : ∀ (index : Nat) (symbolState : SymbolState), states[index]? = some symbolState →
      symbolState.restingOrders = outstanding sent symbolState.stockLocate)
    (hown : restingOrders = outstanding sent' symbolState.stockLocate)
    (hothers : ∀ (index' : Nat) (other : SymbolState), states[index']? = some other →
      index ≠ index' → outstanding sent' other.stockLocate = outstanding sent other.stockLocate)
    (index' : Nat) (other : SymbolState)
    (hother : (states.set index { symbolState with restingOrders := restingOrders })[index']? =
      some other) : other.restingOrders = outstanding sent' other.stockLocate := by
  rw [List.getElem?_set] at hother
  split at hother
  · split at hother
    · cases hother
      exact hown
    · cases hother
  · rename_i hne
    rw [hothers index' other hother hne]
    exact hresting index' other hother

theorem Tracks.add (htracks : Tracks first sent builder) (hplaced : builder.Placed)
    (hstate : builder.symbolStates[index]? = some symbolState)
    (hroom : first + (addOrders sent).length < 2 ^ 64) :
    let result := builder.tick.buildAddOrder index symbolState
    Tracks first (sent ++ [result.1]) result.2 := by
  intro result
  have hnext := htracks.toNat_next hroom
  have hfresh : builder.nextOrderReferenceNumber ∉ cancelReferences sent := by
    intro hmem
    have := (htracks.reference_bounds (htracks.cancelled _ hmem)).2
    omega
  have hadds : ∃ add : AddOrderNoMpidMessage, result.1 = .addOrderNoMpid add ∧
      add.orderReferenceNumber = builder.nextOrderReferenceNumber ∧
      add.header.stockLocate = symbolState.stockLocate := ⟨_, rfl, rfl, rfl⟩
  obtain ⟨add, hmessage, hreference, hlocate⟩ := hadds
  rw [← hreference] at hfresh
  rw [hmessage]
  have hlength : (addOrders (sent ++ [.addOrderNoMpid add])).length =
      (addOrders sent).length + 1 := by
    rw [addOrders_append, List.length_append]
    rfl
  refine ⟨?_, ?_, ?_, resting_set htracks.resting ?_ ?_⟩
  · rw [hlength, addOrders_append, List.map_append, htracks.references, List.range'_concat,
      Nat.one_mul, addOrders_cons_add]
    exact congrArg (fun last => List.range' first (addOrders sent).length ++ [last])
      ((congrArg UInt64.toNat hreference).trans hnext)
  · rw [hlength, ← Nat.add_assoc, UInt64.ofNat_add, ← htracks.next]
    rfl
  · intro reference hmem
    rw [cancelReferences_concat_add] at hmem
    rw [addOrders_append, List.map_append]
    exact List.mem_append_left _ (htracks.cancelled reference hmem)
  · rw [outstanding_concat_add hfresh, if_pos hlocate, hreference,
      ← htracks.resting index symbolState hstate]
    rfl
  · intro index' other hother hne
    have hapart := hplaced.locate_ne hstate hother hne
    rw [outstanding_concat_add hfresh, hlocate, if_neg hapart.symm, List.append_nil]

theorem Tracks.cancel (htracks : Tracks first sent builder) (hplaced : builder.Placed)
    (hstate : builder.symbolStates[index]? = some symbolState)
    {reference : OrderReferenceNumber} {rest : List OrderReferenceNumber}
    (hresting : symbolState.restingOrders = reference :: rest) {cancel : OrderCancelMessage}
    (hreference : cancel.orderReferenceNumber = reference) :
    Tracks first (sent ++ [.orderCancel cancel])
      (builder.tick.setSymbolState index { symbolState with restingOrders := rest }) := by
  have hqueue := htracks.resting index symbolState hstate
  rw [hresting] at hqueue
  have hadds := addOrders_concat_cancel sent cancel
  have hmem : reference ∈ outstanding sent symbolState.stockLocate := by
    rw [← hqueue]
    exact List.mem_cons_self
  obtain ⟨-, add, hadd, hlocate, hnamed⟩ := mem_outstanding.mp hmem
  have hnodup : (reference :: rest).Nodup := by
    rw [hqueue]
    exact htracks.nodup.sublist ((List.filter_sublist).map _)
  refine ⟨?_, ?_, ?_, resting_set htracks.resting ?_ ?_⟩
  · rw [hadds]
    exact htracks.references
  · rw [hadds]
    exact htracks.next
  · intro other hother
    rw [hadds]
    rw [cancelReferences_append] at hother
    rcases List.mem_append.mp hother with hearlier | hnew
    · exact htracks.cancelled other hearlier
    · rw [List.mem_singleton.mp hnew, hreference, ← hnamed]
      exact List.mem_map_of_mem hadd
  · rw [outstanding_concat_cancel, ← hqueue, hreference, List.filter_cons_of_neg (by simp)]
    refine (List.filter_eq_self.mpr fun other hother => ?_).symm
    rw [decide_eq_true_iff]
    rintro rfl
    exact (List.nodup_cons.mp hnodup).1 hother
  · -- The number belongs to one Add Order, so to one locate.
    intro index' other hother hne
    rw [outstanding_concat_cancel]
    refine List.filter_eq_self.mpr fun candidate hcandidate => ?_
    rw [decide_eq_true_iff]
    rintro rfl
    obtain ⟨-, add', hadd', hlocate', hnamed'⟩ := mem_outstanding.mp hcandidate
    have hsame : add' = add := List.inj_on_of_nodup_map htracks.nodup hadd' hadd
      (hnamed'.trans (hreference.trans hnamed.symm))
    apply hplaced.locate_ne hstate hother hne
    rw [← hlocate', hsame, hlocate]

end Tracks

/-! ## Whole runs -/

/-- What no event changes of a symbol. -/
def identity (symbolState : SymbolState) : ItchSymbolConfig × StockLocate :=
  (symbolState.config, symbolState.stockLocate)

/-- The builder after {lit}`n` events. -/
def ItchMessageBuilder.advance : ItchMessageBuilder → Nat → ItchMessageBuilder
  | builder, 0 => builder
  | builder, n + 1 => builder.nextMarketEvent.2.advance n

section Runs

variable {builder : ItchMessageBuilder}

theorem events_length (builder : ItchMessageBuilder) (n : Nat) :
    (builder.events n).length = n := by
  induction n generalizing builder with
  | zero => rfl
  | succ n ih => rw [events, List.length_cons, ih]

theorem advance_succ (builder : ItchMessageBuilder) (n : Nat) :
    builder.advance (n + 1) = (builder.advance n).nextMarketEvent.2 := by
  induction n generalizing builder with
  | zero => rfl
  | succ n ih => exact ih builder.nextMarketEvent.2

theorem events_add (builder : ItchMessageBuilder) (m n : Nat) :
    builder.events (m + n) = builder.events m ++ (builder.advance m).events n := by
  induction m generalizing builder with
  | zero => rw [Nat.zero_add]; rfl
  | succ m ih =>
      rw [Nat.add_right_comm, events, ih]
      rfl

theorem events_succ (builder : ItchMessageBuilder) (n : Nat) :
    builder.events (n + 1) = builder.events n ++ [(builder.advance n).nextMarketEvent.1] :=
  events_add builder n 1

/-- The event at a place of a run is the next event of the builder at that place. -/
theorem events_split {n : Nat} {before after : List Message} {message : Message}
    (hsplit : builder.events n = before ++ message :: after) :
    before = builder.events before.length ∧ before.length < n ∧
      message = (builder.advance before.length).nextMarketEvent.1 := by
  have hlength := congrArg List.length hsplit
  rw [events_length, List.length_append, List.length_cons] at hlength
  rw [hlength, events_add, events] at hsplit
  obtain ⟨hbefore, hrest⟩ := List.append_inj hsplit (events_length _ _)
  refine ⟨hbefore.symm, by omega, ?_⟩
  exact (List.cons.inj hrest).1.symm

theorem map_identity_set {states : List SymbolState} {index : Nat} {symbolState : SymbolState}
    (hstate : states[index]? = some symbolState) (restingOrders : List OrderReferenceNumber) :
    (states.set index { symbolState with restingOrders := restingOrders }).map identity =
      states.map identity := by
  apply List.ext_getElem?
  intro index'
  rw [List.getElem?_map, List.getElem?_map, List.getElem?_set]
  split
  · rename_i heq
    subst heq
    rw [if_pos (List.getElem?_eq_some_iff.mp hstate).1, hstate]
    rfl
  · rfl

/-- An event leaves the configuration and the identity of every symbol. -/
theorem ItchMessageBuilder.MarketEvent.kept {result : Message × ItchMessageBuilder}
    (hevent : MarketEvent builder result) :
    result.2.config = builder.config ∧
      result.2.symbolStates.map identity = builder.symbolStates.map identity := by
  cases hevent with
  | cancel index symbolState reference rest hstate => exact ⟨rfl, map_identity_set hstate _⟩
  | add index symbolState hstate => exact ⟨rfl, map_identity_set hstate _⟩

/-- An Add Order is about the symbol whose queue it enters. -/
theorem ItchMessageBuilder.MarketEvent.symbol_of_add {result : Message × ItchMessageBuilder}
    (hevent : MarketEvent builder result) {add : AddOrderNoMpidMessage}
    (hmessage : .addOrderNoMpid add = result.1) :
    ∃ symbolState ∈ builder.symbolStates,
      add.header.stockLocate = symbolState.stockLocate ∧ add.stock = symbolState.stock := by
  cases hevent with
  | cancel index symbolState reference rest hstate hresting => cases hmessage
  | add index symbolState hstate =>
      cases hmessage
      exact ⟨symbolState, List.mem_of_getElem? hstate, rfl, rfl⟩

/-- An Order Cancel names the number at the front of the queue of its symbol. -/
theorem ItchMessageBuilder.MarketEvent.front_of_cancel {result : Message × ItchMessageBuilder}
    (hevent : MarketEvent builder result) {cancel : OrderCancelMessage}
    (hmessage : .orderCancel cancel = result.1) :
    ∃ (index : Nat) (symbolState : SymbolState),
      builder.symbolStates[index]? = some symbolState ∧
      cancel.header.stockLocate = symbolState.stockLocate ∧
      symbolState.restingOrders.head? = some cancel.orderReferenceNumber := by
  cases hevent with
  | cancel index symbolState reference rest hstate hresting =>
      cases hmessage
      refine ⟨index, symbolState, hstate, rfl, ?_⟩
      rw [hresting, List.head?_cons]
  | add index symbolState hstate => cases hmessage

theorem ItchMessageBuilder.Placed.of_kept {after : ItchMessageBuilder} (hplaced : builder.Placed)
    (hkept : after.config = builder.config ∧
      after.symbolStates.map identity = builder.symbolStates.map identity) : after.Placed := by
  obtain ⟨hconfig, hidentity⟩ := hkept
  have hlength := congrArg List.length hidentity
  rw [List.length_map, List.length_map] at hlength
  have hapart : ∀ states : List SymbolState,
      (states.map identity).Pairwise (fun first second => first.2 ≠ second.2) ↔
        states.Pairwise (fun first second => first.stockLocate ≠ second.stockLocate) :=
    fun _ => List.pairwise_map
  refine ⟨?_, ?_, ?_⟩
  · rw [hconfig]
    exact hplaced.hot_pos
  · rw [hconfig, hlength]
    exact hplaced.hot_le
  · rw [← hapart, hidentity, hapart]
    exact hplaced.locates

theorem advance_placed (hplaced : builder.Placed) (n : Nat) :
    (builder.advance n).Placed ∧ (builder.advance n).config = builder.config ∧
      (builder.advance n).symbolStates.map identity = builder.symbolStates.map identity := by
  induction n with
  | zero => exact ⟨hplaced, rfl, rfl⟩
  | succ n ih =>
      obtain ⟨hbefore, hconfig, hidentity⟩ := ih
      have hkept := (nextMarketEvent_marketEvent hbefore).kept
      rw [advance_succ]
      exact ⟨hbefore.of_kept hkept, hkept.1.trans hconfig, hkept.2.trans hidentity⟩

theorem length_addOrders_le (builder : ItchMessageBuilder) {m n : Nat} (hle : m ≤ n) :
    (addOrders (builder.events m)).length ≤ (addOrders (builder.events n)).length := by
  obtain ⟨rest, rfl⟩ := Nat.exists_eq_add_of_le hle
  rw [events_add, addOrders_append, List.length_append]
  exact Nat.le_add_right _ _

/-- While the reference numbers do not wrap, counter and queues tell what was sent. -/
theorem tracks_advance {first : Nat} (hplaced : builder.Placed)
    (hnext : builder.nextOrderReferenceNumber = UInt64.ofNat first)
    (hempty : ∀ symbolState ∈ builder.symbolStates, symbolState.restingOrders = []) {n : Nat}
    (hfits : first + (addOrders (builder.events n)).length ≤ 2 ^ 64) :
    Tracks first (builder.events n) (builder.advance n) := by
  induction n with
  | zero =>
      refine ⟨rfl, hnext, fun _ hmem => absurd hmem List.not_mem_nil, ?_⟩
      exact fun index symbolState hstate => hempty symbolState (List.mem_of_getElem? hstate)
  | succ n ih =>
      have htracks := ih (Nat.le_trans
        (Nat.add_le_add_left (length_addOrders_le builder (Nat.le_succ n)) first) hfits)
      have hbefore := (advance_placed hplaced n).1
      have hevent := nextMarketEvent_marketEvent hbefore
      rw [events_succ] at hfits ⊢
      rw [advance_succ]
      generalize (builder.advance n).nextMarketEvent = result at hevent hfits ⊢
      cases hevent with
      | cancel index symbolState reference rest hstate hresting =>
          exact htracks.cancel hbefore hstate hresting rfl
      | add index symbolState hstate =>
          apply htracks.add hbefore hstate
          have hone : (addOrders [((builder.advance n).tick.buildAddOrder index
              symbolState).1]).length = 1 := rfl
          rw [addOrders_append, List.length_append, hone] at hfits
          omega

/-- A new builder remembers nothing. -/
theorem new_restingOrders {config : ItchMessageBuilderConfig}
    (hlocates : config.firstStockLocate.toNat + config.symbols.length - 1 ≤ 65535) :
    ∀ symbolState ∈ (ItchMessageBuilder.new config).symbolStates,
      symbolState.restingOrders = [] := by
  intro symbolState hmem
  obtain ⟨index, hstate⟩ := List.mem_iff_getElem?.mp hmem
  exact (new_symbolStates_getElem? hlocates hstate).2.1

/-- A reset takes a builder back to its construction, whatever it has sent. -/
theorem reset_advance {config : ItchMessageBuilderConfig}
    (hlocates : config.firstStockLocate.toNat + config.symbols.length - 1 ≤ 65535) (n : Nat) :
    ((ItchMessageBuilder.new config).advance n).reset = ItchMessageBuilder.new config := by
  obtain ⟨-, hconfig, hidentity⟩ := advance_placed (new_placed hlocates) n
  have hcleared : ∀ states : List SymbolState,
      states.map (fun symbolState => { symbolState with restingOrders := [] }) =
        (states.map identity).map (fun kept => ⟨kept.1, kept.2, []⟩) := by
    intro states
    rw [List.map_map]
    rfl
  have hnew : (ItchMessageBuilder.new config).symbolStates.map
      (fun symbolState => { symbolState with restingOrders := [] }) =
        (ItchMessageBuilder.new config).symbolStates := by
    refine (List.map_congr_left fun symbolState hmem => ?_).trans (List.map_id _)
    rw [← new_restingOrders hlocates symbolState hmem]
    rfl
  rw [reset, hconfig, hcleared, hidentity, ← hcleared, hnew]
  rfl

end Runs

/-- The Add Orders of a flow carry the numbers from the first on, each once; every message
is about one of the symbols, which have different locates; and an Order Cancel names the
oldest Add Order of its symbol that no earlier one has named. -/
theorem flow_references {config : ItchMessageBuilderConfig} {n : Nat}
    (hlocates : config.firstStockLocate.toNat + config.symbols.length - 1 ≤ 65535)
    (hfits : config.firstOrderReferenceNumber.toNat +
      (addOrders ((ItchMessageBuilder.new config).events n)).length ≤ 2 ^ 64) :
    let builder := ItchMessageBuilder.new config
    let messages := builder.events n
    (builder.symbolStates.map (·.stockLocate)).Nodup ∧
      (addOrders messages).map (fun add => add.orderReferenceNumber.toNat) =
        List.range' config.firstOrderReferenceNumber.toNat (addOrders messages).length ∧
      (∀ add ∈ addOrders messages, ∃ symbolState ∈ builder.symbolStates,
        add.header.stockLocate = symbolState.stockLocate ∧ add.stock = symbolState.stock) ∧
      ∀ before cancel after, messages = before ++ .orderCancel cancel :: after →
        (outstanding before cancel.header.stockLocate).head? =
          some cancel.orderReferenceNumber := by
  intro builder messages
  have hplaced : builder.Placed := new_placed hlocates
  have hnext : builder.nextOrderReferenceNumber =
      UInt64.ofNat config.firstOrderReferenceNumber.toNat := UInt64.ofNat_toNat.symm
  have hempty := new_restingOrders hlocates
  have htracks := tracks_advance hplaced hnext hempty hfits
  refine ⟨List.pairwise_map.mpr hplaced.locates, htracks.references, ?_, ?_⟩
  · intro add hadd
    obtain ⟨before, after, hsplit⟩ := List.append_of_mem (mem_addOrders.mp hadd)
    obtain ⟨-, -, hmessage⟩ := events_split hsplit
    obtain ⟨hbefore, -, hidentity⟩ := advance_placed hplaced before.length
    obtain ⟨symbolState, hstate, hlocate, hstock⟩ :=
      (nextMarketEvent_marketEvent hbefore).symbol_of_add hmessage
    -- The symbol has been there since the construction, with another queue.
    have hmem : identity symbolState ∈ builder.symbolStates.map identity := by
      rw [← hidentity]
      exact List.mem_map_of_mem hstate
    obtain ⟨original, horiginal, hsame⟩ := List.mem_map.mp hmem
    obtain ⟨hconfig, hplace⟩ := Prod.ext_iff.mp hsame
    have horiginalStock : original.stock = symbolState.stock :=
      congrArg (fun config : ItchSymbolConfig => fixedAsciiFromText 8 config.symbol) hconfig
    exact ⟨original, horiginal, hlocate.trans hplace.symm, hstock.trans horiginalStock.symm⟩
  · intro before cancel after hsplit
    obtain ⟨hsent, hlt, hmessage⟩ := events_split hsplit
    have hbefore := (advance_placed hplaced before.length).1
    have hearlier := tracks_advance hplaced hnext hempty (Nat.le_trans
      (Nat.add_le_add_left (length_addOrders_le builder (Nat.le_of_lt hlt)) _) hfits)
    rw [← hsent] at hearlier
    obtain ⟨index, symbolState, hstate, hlocate, hfront⟩ :=
      (nextMarketEvent_marketEvent hbefore).front_of_cancel hmessage
    rw [hlocate, ← hearlier.resting index symbolState hstate, hfront]

/-- Two symbols in turn, each cancelled when its turn comes again. -/
def turnsConfig : ItchMessageBuilderConfig :=
  { symbols := [{}, {}], hotSymbolCount := 2, hotSymbolPercent := 100, cancelPercent := 100 }

theorem flow_references_turns :
    let messages := (ItchMessageBuilder.new turnsConfig).events 4
    (addOrders messages).map (fun add => add.orderReferenceNumber.toNat) = [1, 2] ∧
      cancelReferences messages = [1, 2] ∧
      (outstanding (messages.take 3) 1).head? = some 2 := by
  intro messages
  have hlocates : turnsConfig.firstStockLocate.toNat + turnsConfig.symbols.length - 1 ≤ 65535 := by
    decide
  have hlength : (addOrders messages).length = 2 := by decide +kernel
  have hfits : turnsConfig.firstOrderReferenceNumber.toNat + (addOrders messages).length ≤
      2 ^ 64 := by
    rw [hlength]
    decide
  obtain ⟨-, hnumbers, -, hcancels⟩ := flow_references hlocates hfits
  refine ⟨?_, by decide +kernel, ?_⟩
  · have hrange := hnumbers
    rw [hlength] at hrange
    exact hrange
  · exact hcancels (messages.take 3) ⟨⟨1, 0, 4000⟩, 2, 104⟩ [] (by decide +kernel)

/-! ## Ranges -/

/-- A remainder, or nothing where the divisor is zero. -/
def checkedMod {α : Type} [Mod α] [OfNat α 0] [DecidableEq α] (dividend divisor : α) : Option α :=
  if divisor = 0 then none else some (dividend % divisor)

namespace ItchMessageBuilder

variable (builder : ItchMessageBuilder)

/-! The computations of an event once more, with every remainder, every index into the symbols
and the front of the queue checked. -/

def chooseSymbolIndexChecked : Option Nat :=
  let symbolCount := builder.symbolStates.length
  let hotSymbolCount := builder.config.hotSymbolCount
  if symbolCount ≤ 1 then some 0
  else do
    let bucket ← checkedMod builder.generatedCount 100
    if bucket.toUInt8 < builder.config.hotSymbolPercent then
      checkedMod builder.generatedCount.toNat hotSymbolCount
    else
      let coldCount := symbolCount - hotSymbolCount
      if coldCount = 0 then checkedMod builder.generatedCount.toNat hotSymbolCount
      else do
        let place ← checkedMod builder.generatedCount.toNat coldCount
        some (hotSymbolCount + place)

def chooseSharesChecked : Option Shares := do
  let range := builder.config.maxShares - builder.config.minShares + 1
  let offset ← checkedMod builder.generatedCount range.toUInt64
  some (builder.config.minShares + offset.toUInt32)

def choosePriceChecked (symbolState : SymbolState) (side : Side) : Option Price4 := do
  let priceConfig := symbolState.config
  let digit ← checkedMod builder.generatedCount 10
  let wobble := (digit * priceConfig.priceStep.toUInt64).toUInt32
  let halfSpread := priceConfig.priceStep * 5
  if side = .sell then some (priceConfig.basePrice + halfSpread + wobble)
  else
    let below := halfSpread + wobble
    if below ≥ priceConfig.basePrice then
      some (if priceConfig.priceStep > 0 then priceConfig.priceStep else 1)
    else some (priceConfig.basePrice - below)

def chooseSideChecked : Option Side :=
  if !builder.config.alternateSides then some .buy
  else do
    let parity ← checkedMod builder.generatedCount 2
    if parity = 0 then some .buy else some .sell

def shouldCancelChecked (symbolState : SymbolState) : Option Bool :=
  if symbolState.restingOrders.isEmpty then some false
  else do
    let bucket ← checkedMod (builder.generatedCount * 7 + 3) 100
    some (bucket.toUInt8 < builder.config.cancelPercent)

def makeHeaderChecked (stockLocate : StockLocate) : Option Header := do
  let timestamp ← checkedMod
    (builder.config.firstTimestampNs + builder.generatedCount * builder.config.timestampStepNs)
    nanosecondsPerDay
  some ⟨stockLocate, 0, timestamp⟩

def buildAddOrderChecked (symbolIndex : Nat) (symbolState : SymbolState) :
    Option (Message × ItchMessageBuilder) := do
  let side ← builder.chooseSideChecked
  let orderReferenceNumber := builder.nextOrderReferenceNumber
  let header ← builder.makeHeaderChecked symbolState.stockLocate
  let shares ← builder.chooseSharesChecked
  let price ← builder.choosePriceChecked symbolState side
  some (.addOrderNoMpid ⟨header, orderReferenceNumber, side, shares, symbolState.stock, price⟩,
    { builder with nextOrderReferenceNumber := orderReferenceNumber + 1 }.setSymbolState
      symbolIndex
      { symbolState with restingOrders := symbolState.restingOrders ++ [orderReferenceNumber] })

def buildCancelChecked (symbolIndex : Nat) (symbolState : SymbolState) :
    Option (Message × ItchMessageBuilder) := do
  let orderReferenceNumber ← symbolState.restingOrders.head?
  let header ← builder.makeHeaderChecked symbolState.stockLocate
  let shares ← builder.chooseSharesChecked
  some (.orderCancel ⟨header, orderReferenceNumber, shares⟩,
    builder.setSymbolState symbolIndex
      { symbolState with restingOrders := symbolState.restingOrders.tail })

def nextMarketEventChecked : Option (Message × ItchMessageBuilder) := do
  let builder := { builder with generatedCount := builder.generatedCount + 1 }
  let symbolIndex ← builder.chooseSymbolIndexChecked
  let symbolState ← builder.symbolStates[symbolIndex]?
  let cancel ← builder.shouldCancelChecked symbolState
  if cancel then builder.buildCancelChecked symbolIndex symbolState
  else builder.buildAddOrderChecked symbolIndex symbolState

end ItchMessageBuilder

/-- The shares that a message of the builder states. -/
def statedShares : Message → Option Shares
  | .addOrderNoMpid message => some message.shares
  | .orderCancel message => some message.cancelledShares
  | _ => none

/-- The encoder takes a message into every buffer of its length. -/
def Encodes (message : Message) : Prop :=
  ∀ buffer : Bytes, buffer.length = wireLength message →
    (runEncode (encodeMessage message) buffer).1 = .ok

theorem encodes_of_isEncodable {message : Message} (hvalid : isEncodable message = true) :
    Encodes message := by
  intro buffer hbuffer
  rw [(runEncode_encodeMessage_eq_ok_iff hbuffer).mpr ⟨hvalid, rfl⟩]

section Ranges

variable {builder : ItchMessageBuilder}

theorem checkedMod_of_ne {α : Type} [Mod α] [OfNat α 0] [DecidableEq α] {dividend divisor : α}
    (hne : divisor ≠ 0) : checkedMod dividend divisor = some (dividend % divisor) :=
  if_neg hne

theorem chooseSymbolIndexChecked_eq (hplaced : builder.Placed) :
    builder.chooseSymbolIndexChecked = some builder.chooseSymbolIndex := by
  have hhot := Nat.ne_of_gt hplaced.hot_pos
  unfold chooseSymbolIndexChecked chooseSymbolIndex
  dsimp only
  split
  · rfl
  rw [checkedMod_of_ne (by decide), checkedMod_of_ne hhot, Option.bind_eq_bind, Option.bind_some]
  split
  · rfl
  split
  · rfl
  · rename_i hcold
    rw [checkedMod_of_ne hcold]
    rfl

theorem chooseSharesChecked_eq (hbuilder : builder.WellFormed) :
    builder.chooseSharesChecked = some builder.chooseShares := by
  have hrange : (builder.config.maxShares - builder.config.minShares + 1).toUInt64 ≠ 0 := by
    intro hzero
    have hnumber := congrArg UInt64.toNat hzero
    rw [UInt32.toNat_toUInt64, hbuilder.shareRange_toNat] at hnumber
    exact Nat.succ_ne_zero _ hnumber
  unfold chooseSharesChecked
  dsimp only
  rw [checkedMod_of_ne hrange]
  rfl

theorem choosePriceChecked_eq (symbolState : SymbolState) (side : Side) :
    builder.choosePriceChecked symbolState side =
      some (builder.choosePrice symbolState side) := by
  unfold choosePriceChecked choosePrice
  dsimp only
  rw [checkedMod_of_ne (by decide), Option.bind_eq_bind, Option.bind_some]
  split
  · rfl
  · split <;> rfl

theorem chooseSideChecked_eq : builder.chooseSideChecked = some builder.chooseSide := by
  unfold chooseSideChecked chooseSide
  rw [checkedMod_of_ne (by decide), Option.bind_eq_bind, Option.bind_some]
  split
  · rfl
  · split <;> rfl

theorem shouldCancelChecked_eq (symbolState : SymbolState) :
    builder.shouldCancelChecked symbolState = some (builder.shouldCancel symbolState) := by
  unfold shouldCancelChecked shouldCancel
  rw [checkedMod_of_ne (by decide)]
  split <;> rfl

theorem makeHeaderChecked_eq (stockLocate : StockLocate) :
    builder.makeHeaderChecked stockLocate = some (builder.makeHeader stockLocate) := by
  unfold makeHeaderChecked
  rw [checkedMod_of_ne (by decide)]
  rfl

/-- No event takes a remainder by zero, an index out of range or the front of an empty queue. -/
theorem nextMarketEventChecked_eq (hbuilder : builder.WellFormed) :
    builder.nextMarketEventChecked = some builder.nextMarketEvent := by
  obtain ⟨symbolState, hstate, hnext⟩ := nextMarketEvent_eq hbuilder.placed
  have hunfold : builder.nextMarketEventChecked = (do
      let symbolIndex ← builder.tick.chooseSymbolIndexChecked
      let symbolState ← builder.symbolStates[symbolIndex]?
      let cancel ← builder.tick.shouldCancelChecked symbolState
      if cancel then builder.tick.buildCancelChecked symbolIndex symbolState
      else builder.tick.buildAddOrderChecked symbolIndex symbolState) := rfl
  rw [hunfold, chooseSymbolIndexChecked_eq hbuilder.placed.tick, Option.bind_eq_bind,
    Option.bind_some, hstate, Option.bind_eq_bind, Option.bind_some, shouldCancelChecked_eq,
    Option.bind_eq_bind, Option.bind_some, hnext]
  split
  · rename_i hcancel
    cases hresting : symbolState.restingOrders with
    | nil =>
        rw [shouldCancel, hresting] at hcancel
        cases hcancel
    | cons reference rest =>
        rw [buildCancelChecked, buildCancel, hresting, makeHeaderChecked_eq,
          chooseSharesChecked_eq hbuilder.tick]
        rfl
  · rw [buildAddOrderChecked, chooseSideChecked_eq, makeHeaderChecked_eq,
      chooseSharesChecked_eq hbuilder.tick, Option.bind_eq_bind, Option.bind_some,
      choosePriceChecked_eq]
    rfl

theorem advance_wellFormed (hbuilder : builder.WellFormed) (n : Nat) :
    (builder.advance n).WellFormed := by
  induction n with
  | zero => exact hbuilder
  | succ n ih =>
      rw [advance_succ]
      exact (nextMarketEvent_nextEvent ih).wellFormed ih

theorem isValidOrderReferenceNumber_of_pos {reference : OrderReferenceNumber}
    (hpos : 1 ≤ reference.toNat) : isValidOrderReferenceNumber reference = true := by
  rw [isValidOrderReferenceNumber, decide_eq_true_iff, gt_iff_lt, UInt64.lt_iff_toNat_lt,
    UInt64.toNat_zero]
  exact hpos

theorem encodes_openMessages (hbuilder : builder.WellFormed) :
    ∀ message ∈ builder.sessionOpenMessages, Encodes message := by
  intro message hmem
  obtain ⟨symbolState, hstate, rfl⟩ := List.mem_map.mp hmem
  obtain ⟨index, hindex⟩ := List.mem_iff_getElem?.mp hstate
  exact encodes_of_isEncodable (isValid_openMessage hbuilder hindex)

/-- An event states shares in range and is encodable as long as reference numbers are not
used up. -/
theorem nextMarketEvent_encodes {first : Nat} {sent : List Message} (hbuilder : builder.WellFormed)
    (htracks : Tracks first sent builder) (hfirst : 1 ≤ first)
    (hroom : first + (addOrders (sent ++ [builder.nextMarketEvent.1])).length ≤ 2 ^ 64) :
    (∀ shares ∈ statedShares builder.nextMarketEvent.1,
        builder.config.minShares ≤ shares ∧ shares ≤ builder.config.maxShares) ∧
      Encodes builder.nextMarketEvent.1 := by
  have hbounds := hbuilder.tick.chooseShares_bounds
  have hshares := hbuilder.tick.isValidShares_chooseShares
  have htimestamp := isValidTimestampNs_currentTimestampNs builder.tick
  have hevent := nextMarketEvent_marketEvent hbuilder.placed
  generalize builder.nextMarketEvent = result at hevent hroom ⊢
  cases hevent with
  | cancel index symbolState reference rest hstate hresting =>
      refine ⟨fun shares hstated => by cases hstated; exact hbounds, encodes_of_isEncodable ?_⟩
      have hmem : reference ∈ outstanding sent symbolState.stockLocate := by
        rw [← htracks.resting index symbolState hstate, hresting]
        exact List.mem_cons_self
      obtain ⟨-, add, hadd, -, rfl⟩ := mem_outstanding.mp hmem
      have hnumber := htracks.reference_bounds (List.mem_map_of_mem hadd)
      have hheader := isValidHeader_of_ready hbuilder hstate
        (rfl : (builder.tick.makeHeader symbolState.stockLocate).stockLocate = _) htimestamp
      change isValidOrderCancelMessage _ = true
      rw [isValidOrderCancelMessage, hheader, hshares,
        isValidOrderReferenceNumber_of_pos (Nat.le_trans hfirst hnumber.1)]
      rfl
  | add index symbolState hstate =>
      refine ⟨fun shares hstated => by cases hstated; exact hbounds, encodes_of_isEncodable ?_⟩
      have hlength : (addOrders (sent ++ [(builder.tick.buildAddOrder index symbolState).1])).length
          = (addOrders sent).length + 1 := by
        rw [addOrders_append, List.length_append]
        rfl
      rw [hlength] at hroom
      have hnext := htracks.toNat_next (by omega)
      have hready := hbuilder.ready index symbolState hstate
      have hheader := isValidHeader_of_ready hbuilder hstate
        (rfl : (builder.tick.makeHeader symbolState.stockLocate).stockLocate = _) htimestamp
      have hreference : isValidOrderReferenceNumber builder.nextOrderReferenceNumber = true :=
        isValidOrderReferenceNumber_of_pos (by omega)
      have hprice : ∀ side, isValidPrice4 (builder.tick.choosePrice symbolState side) = true :=
        fun side => isValidPrice4_choosePrice hready side
      have hstock : isValidFixedAscii symbolState.stock = true :=
        isValidFixedAscii_fixedAsciiFromText 8 hready.printable
      change isValidAddOrderNoMpidMessage _ = true
      rw [isValidAddOrderNoMpidMessage]
      simp only [Bool.and_eq_true]
      exact ⟨⟨⟨⟨hheader, hreference⟩, hshares⟩, hprice _⟩, hstock⟩

end Ranges

/-- Under an admissible configuration, up to the wrap of the reference numbers: every
symbol index is in range, no event divides by zero, shares are between the normalised bounds,
and session-open messages and events are taken by the encoder. -/
theorem flow_encodes {config : ItchMessageBuilderConfig} {n : Nat} (hconfig : config.Admissible)
    (hfits : config.firstOrderReferenceNumber.toNat +
      (addOrders ((ItchMessageBuilder.new config).events n)).length ≤ 2 ^ 64) :
    let start := ItchMessageBuilder.new config
    (∀ k ≤ n, ∀ message ∈ (start.advance k).sessionOpenMessages, Encodes message) ∧
      ∀ k < n,
        let builder := start.advance k
        let message := builder.nextMarketEvent.1
        (start.events n)[k]? = some message ∧
          builder.tick.chooseSymbolIndex < builder.symbolStates.length ∧
          builder.nextMarketEventChecked = some builder.nextMarketEvent ∧
          (∀ shares ∈ statedShares message, (normalize config).minShares ≤ shares ∧
            shares ≤ (normalize config).maxShares) ∧
          Encodes message := by
  intro start
  have hstart : start.WellFormed := new_wellFormed hconfig
  refine ⟨fun k _ => encodes_openMessages (advance_wellFormed hstart k), ?_⟩
  intro k hk builder message
  have hbuilder : builder.WellFormed := advance_wellFormed hstart k
  obtain ⟨-, hkept, -⟩ := advance_placed hstart.placed k
  have hsent : start.events (k + 1) = start.events k ++ [message] := events_succ start k
  have hroom : config.firstOrderReferenceNumber.toNat +
      (addOrders (start.events k ++ [message])).length ≤ 2 ^ 64 := by
    rw [← hsent]
    exact Nat.le_trans (Nat.add_le_add_left (length_addOrders_le start hk) _) hfits
  have htracks : Tracks config.firstOrderReferenceNumber.toNat (start.events k) builder := by
    apply tracks_advance hstart.placed UInt64.ofNat_toNat.symm (new_restingOrders hconfig.locates)
    exact Nat.le_trans (Nat.add_le_add_left (length_addOrders_le start (Nat.le_of_lt hk)) _) hfits
  obtain ⟨hshares, hencodes⟩ := nextMarketEvent_encodes hbuilder htracks hconfig.first_reference
    hroom
  refine ⟨?_, hbuilder.tick.placed.chooseSymbolIndex_lt, nextMarketEventChecked_eq hbuilder,
    ?_, hencodes⟩
  · obtain ⟨rest, rfl⟩ := Nat.exists_eq_add_of_lt hk
    rw [Nat.add_assoc, events_add, List.getElem?_append_right (Nat.le_of_eq (events_length _ _)),
      events_length, Nat.sub_self]
    rfl
  · intro shares hstated
    have hwithin := hshares shares hstated
    rw [hkept] at hwithin
    exact hwithin

/-- Shares up to the largest number, percentages above one hundred and a first time just
below the end of its range. -/
def extremeConfig : ItchMessageBuilderConfig :=
  { minShares := 0, maxShares := 4294967295, firstTimestampNs := 18446744073709551615,
    hotSymbolCount := 0, hotSymbolPercent := 255, cancelPercent := 255 }

theorem flow_encodes_extreme :
    let messages := (ItchMessageBuilder.new extremeConfig).events 2
    (addOrders messages).length = 1 ∧ ∀ message ∈ messages, Encodes message := by
  intro messages
  have hlength : (addOrders messages).length = 1 := by decide +kernel
  have hconfig : extremeConfig.Admissible :=
    ⟨by simp [extremeConfig], by decide, by decide, by decide, by simp [extremeConfig]⟩
  have hfits : extremeConfig.firstOrderReferenceNumber.toNat + (addOrders messages).length ≤
      2 ^ 64 := by
    rw [hlength]
    decide
  refine ⟨hlength, fun message hmem => ?_⟩
  obtain ⟨k, hk⟩ := List.mem_iff_getElem?.mp hmem
  have hlt : k < 2 := by
    have := (List.getElem?_eq_some_iff.mp hk).1
    rwa [events_length] at this
  obtain ⟨hevent, -, -, -, hencodes⟩ := (flow_encodes hconfig hfits).2 k hlt
  rw [hk] at hevent
  cases hevent
  exact hencodes

end Fgep.Gen
