import GatedExecution.Lib.Runs
import GatedExecution.Lib.TreeMapEntries
import GatedExecution.Ouch.Messages

/-!
# The order lifecycle engine

{lit}`execution/order_lifecycle.cpp`: live orders under their reference numbers and the
highest reference number accepted so far.  Enters and replaces add an order under a
number above every earlier one; cancels and executions reduce or remove one.

Main results:

- Theorem {lit}`call_effect`: everything one call can do.
- Theorem {lit}`call_engineInv`: a call keeps the orders well formed.
- Theorem {lit}`lifecycle_run`: reference numbers, live orders and rejected calls over
  whole runs.
-/

namespace Fgep.Execution

open Std Wire Ouch Runs TreeMapEntries

/-! ## Orders and results -/

inductive LifecycleStatus where
  | accepted
  | replaced
  | canceled
  | partiallyCanceled
  | partiallyFilled
  | filled
  | rejected
deriving DecidableEq, Repr

inductive LifecycleRejectReason where
  | none
  | duplicateUserRefNum
  | staleUserRefNum
  | unknownOrder
  | invalidQuantity
  | invalidPrice
  | invalidStateTransition
  | overfill
deriving DecidableEq, Repr

structure LiveOrder where
  userRefNum : UserRefNum
  side : Side
  originalQuantity : Quantity
  leavesQuantity : Quantity
  symbol : Symbol
  price : Price4
  timeInForce : TimeInForce
  display : Display
  capacity : Capacity
  intermarketSweepEligibility : IntermarketSweepEligibility
  crossType : CrossType
  clOrdId : ClOrdId
deriving DecidableEq

structure LifecycleResult where
  status : LifecycleStatus
  rejectReason : LifecycleRejectReason := .none
  userRefNum : UserRefNum
  previousUserRefNum : UserRefNum := 0
  decrementQuantity : Quantity := 0
  leavesQuantity : Quantity := 0
deriving DecidableEq

def LifecycleResult.accepted (result : LifecycleResult) : Bool :=
  result.status ≠ .rejected

def LifecycleResult.rejected (result : LifecycleResult) : Bool :=
  result.status = .rejected

def reject (userRefNum : UserRefNum) (reason : LifecycleRejectReason) : LifecycleResult where
  status := .rejected
  rejectReason := reason
  userRefNum := userRefNum

/-- The order an accepted enter stores. -/
def enteredOrder (message : EnterOrderMessage) : LiveOrder where
  userRefNum := message.userRefNum
  side := message.side
  originalQuantity := message.quantity
  leavesQuantity := message.quantity
  symbol := message.symbol
  price := message.price
  timeInForce := message.timeInForce
  display := message.display
  capacity := message.capacity
  intermarketSweepEligibility := message.intermarketSweepEligibility
  crossType := message.crossType
  clOrdId := message.clOrdId

/-- The order an accepted replace stores; it keeps what the message cannot change. -/
def replacement (oldOrder : LiveOrder) (message : ReplaceOrderMessage) : LiveOrder where
  userRefNum := message.userRefNum
  side := oldOrder.side
  originalQuantity := message.quantity
  leavesQuantity := message.quantity
  symbol := oldOrder.symbol
  price := message.price
  timeInForce := message.timeInForce
  display := message.display
  capacity := oldOrder.capacity
  intermarketSweepEligibility := message.intermarketSweepEligibility
  crossType := oldOrder.crossType
  clOrdId := message.clOrdId

/-! ## The engine -/

structure OrderLifecycleEngine where
  liveOrders : ExtTreeMap UserRefNum LiveOrder := ∅
  highestUserRefNum : UserRefNum := 0

namespace OrderLifecycleEngine

def find (engine : OrderLifecycleEngine) (userRefNum : UserRefNum) : Option LiveOrder :=
  engine.liveOrders[userRefNum]?

def contains (engine : OrderLifecycleEngine) (userRefNum : UserRefNum) : Bool :=
  engine.liveOrders.contains userRefNum

def isStaleUserRef (engine : OrderLifecycleEngine) (userRefNum : UserRefNum) : Bool :=
  userRefNum ≤ engine.highestUserRefNum

def rememberUserRef (engine : OrderLifecycleEngine) (userRefNum : UserRefNum) :
    OrderLifecycleEngine :=
  if userRefNum > engine.highestUserRefNum then { engine with highestUserRefNum := userRefNum }
  else engine

/-- A store under the order's own number. -/
def put (engine : OrderLifecycleEngine) (order : LiveOrder) : OrderLifecycleEngine :=
  { engine with liveOrders := engine.liveOrders.insert order.userRefNum order }

def erase (engine : OrderLifecycleEngine) (userRefNum : UserRefNum) : OrderLifecycleEngine :=
  { engine with liveOrders := engine.liveOrders.erase userRefNum }

/-- A reduction in place, under the number the order was found by. -/
def setLeaves (engine : OrderLifecycleEngine) (userRefNum : UserRefNum) (order : LiveOrder)
    (leavesQuantity : Quantity) : OrderLifecycleEngine :=
  { engine with
    liveOrders :=
      engine.liveOrders.insert userRefNum { order with leavesQuantity := leavesQuantity } }

def enter (engine : OrderLifecycleEngine) (message : EnterOrderMessage) :
    LifecycleResult × OrderLifecycleEngine :=
  if !isValidEnterOrderMessage message then
    if !isValidEnterOrReplaceQuantity message.quantity then
      (reject message.userRefNum .invalidQuantity, engine)
    else if !isValidPrice4 message.price then (reject message.userRefNum .invalidPrice, engine)
    else (reject message.userRefNum .invalidStateTransition, engine)
  else if engine.contains message.userRefNum then
    (reject message.userRefNum .duplicateUserRefNum, engine)
  else if engine.isStaleUserRef message.userRefNum then
    (reject message.userRefNum .staleUserRefNum, engine)
  else
    ({ status := .accepted
       userRefNum := message.userRefNum
       leavesQuantity := message.quantity },
      (engine.put (enteredOrder message)).rememberUserRef message.userRefNum)

def replace (engine : OrderLifecycleEngine) (message : ReplaceOrderMessage) :
    LifecycleResult × OrderLifecycleEngine :=
  if !isValidReplaceOrderMessage message then
    if !isValidEnterOrReplaceQuantity message.quantity then
      (reject message.userRefNum .invalidQuantity, engine)
    else if !isValidPrice4 message.price then (reject message.userRefNum .invalidPrice, engine)
    else (reject message.userRefNum .invalidStateTransition, engine)
  else
    match engine.find message.origUserRefNum with
    | none => (reject message.userRefNum .unknownOrder, engine)
    | some oldOrder =>
        if engine.contains message.userRefNum then
          (reject message.userRefNum .duplicateUserRefNum, engine)
        else if engine.isStaleUserRef message.userRefNum then
          (reject message.userRefNum .staleUserRefNum, engine)
        else
          ({ status := .replaced
             userRefNum := message.userRefNum
             previousUserRefNum := message.origUserRefNum
             decrementQuantity := oldOrder.leavesQuantity
             leavesQuantity := message.quantity },
            ((engine.erase message.origUserRefNum).put
              (replacement oldOrder message)).rememberUserRef message.userRefNum)

def cancel (engine : OrderLifecycleEngine) (message : CancelOrderMessage) :
    LifecycleResult × OrderLifecycleEngine :=
  if !isValidCancelOrderMessage message then
    (reject message.userRefNum .invalidQuantity, engine)
  else
    match engine.find message.userRefNum with
    | none => (reject message.userRefNum .unknownOrder, engine)
    | some order =>
        let oldLeaves := order.leavesQuantity
        if message.quantity = 0 || message.quantity ≥ oldLeaves then
          ({ status := .canceled
             userRefNum := message.userRefNum
             decrementQuantity := oldLeaves },
            engine.erase message.userRefNum)
        else
          let leavesQuantity := order.leavesQuantity - message.quantity
          ({ status := .partiallyCanceled
             userRefNum := message.userRefNum
             decrementQuantity := message.quantity
             leavesQuantity := leavesQuantity },
            engine.setLeaves message.userRefNum order leavesQuantity)

def execute (engine : OrderLifecycleEngine) (userRefNum : UserRefNum)
    (executedQuantity : Quantity) : LifecycleResult × OrderLifecycleEngine :=
  if !isValidEnterOrReplaceQuantity executedQuantity then
    (reject userRefNum .invalidQuantity, engine)
  else
    match engine.find userRefNum with
    | none => (reject userRefNum .unknownOrder, engine)
    | some order =>
        if executedQuantity > order.leavesQuantity then (reject userRefNum .overfill, engine)
        else
          let leavesQuantity := order.leavesQuantity - executedQuantity
          if leavesQuantity = 0 then
            ({ status := .filled
               userRefNum := userRefNum
               decrementQuantity := executedQuantity },
              engine.erase userRefNum)
          else
            ({ status := .partiallyFilled
               userRefNum := userRefNum
               decrementQuantity := executedQuantity
               leavesQuantity := leavesQuantity },
              engine.setLeaves userRefNum order leavesQuantity)

end OrderLifecycleEngine

inductive LifecycleCall where
  | enter (message : EnterOrderMessage)
  | replace (message : ReplaceOrderMessage)
  | cancel (message : CancelOrderMessage)
  | execute (userRefNum : UserRefNum) (executedQuantity : Quantity)

namespace OrderLifecycleEngine

def call (engine : OrderLifecycleEngine) : LifecycleCall → LifecycleResult × OrderLifecycleEngine
  | .enter message => engine.enter message
  | .replace message => engine.replace message
  | .cancel message => engine.cancel message
  | .execute userRefNum executedQuantity => engine.execute userRefNum executedQuantity

def resultOf (engine : OrderLifecycleEngine) (call : LifecycleCall) : LifecycleResult :=
  (engine.call call).1

def after (engine : OrderLifecycleEngine) (call : LifecycleCall) : OrderLifecycleEngine :=
  (engine.call call).2

def run (engine : OrderLifecycleEngine) (calls : List LifecycleCall) : OrderLifecycleEngine :=
  calls.foldl after engine

def results (engine : OrderLifecycleEngine) (calls : List LifecycleCall) :
    List LifecycleResult :=
  runOutputs after resultOf engine calls

/-! ## What a call can do -/

/-- The engine after an order with a new number was stored. -/
def enroll (engine : OrderLifecycleEngine) (order : LiveOrder) : OrderLifecycleEngine where
  liveOrders := engine.liveOrders.insert order.userRefNum order
  highestUserRefNum := order.userRefNum

inductive Effect (engine : OrderLifecycleEngine) :
    LifecycleCall → LifecycleResult → OrderLifecycleEngine → Prop where
  | rejected (call : LifecycleCall) (userRefNum : UserRefNum) (reason : LifecycleRejectReason) :
      Effect engine call (reject userRefNum reason) engine
  | entered (message : EnterOrderMessage) (hvalid : isValidEnterOrderMessage message = true)
      (hnew : engine.highestUserRefNum < message.userRefNum) :
      Effect engine (.enter message)
        { status := .accepted
          userRefNum := message.userRefNum
          leavesQuantity := message.quantity }
        (engine.enroll (enteredOrder message))
  | replaced (message : ReplaceOrderMessage) (oldOrder : LiveOrder)
      (hvalid : isValidReplaceOrderMessage message = true)
      (hold : engine.find message.origUserRefNum = some oldOrder)
      (hnew : engine.highestUserRefNum < message.userRefNum) :
      Effect engine (.replace message)
        { status := .replaced
          userRefNum := message.userRefNum
          previousUserRefNum := message.origUserRefNum
          decrementQuantity := oldOrder.leavesQuantity
          leavesQuantity := message.quantity }
        ((engine.erase message.origUserRefNum).enroll (replacement oldOrder message))
  | removed (call : LifecycleCall) (status : LifecycleStatus) (userRefNum : UserRefNum)
      (order : LiveOrder) (hstatus : status = .canceled ∨ status = .filled)
      (hlive : engine.find userRefNum = some order) :
      Effect engine call
        { status := status
          userRefNum := userRefNum
          decrementQuantity := order.leavesQuantity }
        (engine.erase userRefNum)
  | reduced (call : LifecycleCall) (status : LifecycleStatus) (userRefNum : UserRefNum)
      (order : LiveOrder) (quantity : Quantity)
      (hstatus : status = .partiallyCanceled ∨ status = .partiallyFilled)
      (hlive : engine.find userRefNum = some order)
      (hquantity : quantity < order.leavesQuantity) :
      Effect engine call
        { status := status
          userRefNum := userRefNum
          decrementQuantity := quantity
          leavesQuantity := order.leavesQuantity - quantity }
        (engine.setLeaves userRefNum order (order.leavesQuantity - quantity))

section Effect

variable {engine : OrderLifecycleEngine}

theorem isStaleUserRef_eq_false {userRefNum : UserRefNum}
    (hstale : ¬engine.isStaleUserRef userRefNum = true) :
    engine.highestUserRefNum < userRefNum := by
  rwa [isStaleUserRef, decide_eq_true_eq, UInt32.not_le] at hstale

theorem rememberUserRef_put {order : LiveOrder}
    (hstale : ¬engine.isStaleUserRef order.userRefNum = true) :
    (engine.put order).rememberUserRef order.userRefNum = engine.enroll order := by
  rw [rememberUserRef]
  exact if_pos (isStaleUserRef_eq_false hstale)

theorem enter_effect (engine : OrderLifecycleEngine) (message : EnterOrderMessage) :
    Effect engine (.enter message) (engine.enter message).1 (engine.enter message).2 := by
  unfold enter
  split
  · split
    · exact .rejected _ _ _
    · split <;> exact .rejected _ _ _
  rename_i hvalid
  split
  · exact .rejected _ _ _
  split
  · exact .rejected _ _ _
  rename_i hstale
  have hstored : (engine.put (enteredOrder message)).rememberUserRef message.userRefNum =
      engine.enroll (enteredOrder message) := rememberUserRef_put hstale
  rw [hstored]
  exact .entered message (by simpa using hvalid) (isStaleUserRef_eq_false hstale)

theorem replace_effect (engine : OrderLifecycleEngine) (message : ReplaceOrderMessage) :
    Effect engine (.replace message) (engine.replace message).1 (engine.replace message).2 := by
  unfold replace
  split
  · split
    · exact .rejected _ _ _
    · split <;> exact .rejected _ _ _
  rename_i hvalid
  split
  · exact .rejected _ _ _
  rename_i oldOrder hold
  split
  · exact .rejected _ _ _
  split
  · exact .rejected _ _ _
  rename_i hstale
  have hstored : ((engine.erase message.origUserRefNum).put
      (replacement oldOrder message)).rememberUserRef message.userRefNum =
      (engine.erase message.origUserRefNum).enroll (replacement oldOrder message) :=
    rememberUserRef_put hstale
  rw [hstored]
  exact .replaced message oldOrder (by simpa using hvalid) hold (isStaleUserRef_eq_false hstale)

theorem cancel_effect (engine : OrderLifecycleEngine) (message : CancelOrderMessage) :
    Effect engine (.cancel message) (engine.cancel message).1 (engine.cancel message).2 := by
  unfold cancel
  split
  · exact .rejected _ _ _
  split
  · exact .rejected _ _ _
  rename_i order hlive
  dsimp only
  split
  · exact .removed _ .canceled _ order (Or.inl rfl) hlive
  · rename_i hpartial
    rw [Bool.or_eq_true, not_or, decide_eq_true_eq, decide_eq_true_eq] at hpartial
    exact .reduced _ .partiallyCanceled _ order _ (Or.inl rfl) hlive
      (UInt32.not_le.mp hpartial.2)

theorem execute_effect (engine : OrderLifecycleEngine) (userRefNum : UserRefNum)
    (executedQuantity : Quantity) :
    Effect engine (.execute userRefNum executedQuantity)
      (engine.execute userRefNum executedQuantity).1
      (engine.execute userRefNum executedQuantity).2 := by
  unfold execute
  split
  · exact .rejected _ _ _
  split
  · exact .rejected _ _ _
  rename_i order hlive
  split
  · exact .rejected _ _ _
  rename_i hfits
  have hle : executedQuantity ≤ order.leavesQuantity := UInt32.not_lt.mp hfits
  dsimp only
  split
  · rename_i hzero
    have hall : executedQuantity = order.leavesQuantity := by
      rw [UInt32.sub_eq_iff_eq_add, UInt32.zero_add] at hzero
      exact hzero.symm
    rw [hall]
    exact .removed _ .filled _ order (Or.inr rfl) hlive
  · rename_i hsome
    have hne : executedQuantity ≠ order.leavesQuantity := by
      intro hall
      rw [hall, UInt32.sub_self] at hsome
      exact hsome rfl
    exact .reduced _ .partiallyFilled _ order _ (Or.inr rfl) hlive
      (UInt32.lt_of_le_of_ne hle hne)

theorem call_effect (engine : OrderLifecycleEngine) (call : LifecycleCall) :
    Effect engine call (engine.resultOf call) (engine.after call) := by
  cases call with
  | enter message => exact enter_effect engine message
  | replace message => exact replace_effect engine message
  | cancel message => exact cancel_effect engine message
  | execute userRefNum executedQuantity => exact execute_effect engine userRefNum executedQuantity

theorem Effect.eq_of_rejected {call : LifecycleCall} {result : LifecycleResult}
    {next : OrderLifecycleEngine} (heffect : Effect engine call result next)
    (hrejected : result.rejected = true) : next = engine := by
  cases heffect with
  | rejected => rfl
  | entered => cases hrejected
  | replaced => cases hrejected
  | removed call status _ _ hstatus => rcases hstatus with rfl | rfl <;> cases hrejected
  | reduced call status _ _ _ hstatus => rcases hstatus with rfl | rfl <;> cases hrejected

end Effect

/-! ## Live orders -/

/-- A live order is stored under its own number, one of those accepted, and has a
quantity left. -/
structure OrderInv (highest userRefNum : UserRefNum) (order : LiveOrder) : Prop where
  key : order.userRefNum = userRefNum
  ref_pos : 1 ≤ userRefNum
  le_highest : userRefNum ≤ highest
  leaves_pos : 0 < order.leavesQuantity
  leaves_le : order.leavesQuantity ≤ order.originalQuantity
  original_lt : order.originalQuantity < 1000000
  price_pos : 0 < order.price

def EngineInv (engine : OrderLifecycleEngine) : Prop :=
  ∀ userRefNum order, engine.find userRefNum = some order →
    OrderInv engine.highestUserRefNum userRefNum order

section Live

variable {engine : OrderLifecycleEngine}

theorem find_enroll (engine : OrderLifecycleEngine) (order : LiveOrder)
    (userRefNum : UserRefNum) : (engine.enroll order).find userRefNum =
      if order.userRefNum = userRefNum then some order else engine.find userRefNum :=
  getElem?_insert_eq_ite _ _ _ _

theorem find_enroll_self (engine : OrderLifecycleEngine) (order : LiveOrder) :
    (engine.enroll order).find order.userRefNum = some order := by
  rw [find_enroll, if_pos rfl]

theorem find_erase (engine : OrderLifecycleEngine) (erased userRefNum : UserRefNum) :
    (engine.erase erased).find userRefNum =
      if erased = userRefNum then none else engine.find userRefNum :=
  getElem?_erase_eq_ite _ _ _

theorem find_setLeaves (engine : OrderLifecycleEngine) (changed userRefNum : UserRefNum)
    (order : LiveOrder) (leavesQuantity : Quantity) :
    (engine.setLeaves changed order leavesQuantity).find userRefNum =
      if changed = userRefNum then some { order with leavesQuantity := leavesQuantity }
      else engine.find userRefNum :=
  getElem?_insert_eq_ite _ _ _ _

theorem erase_engineInv (hinv : engine.EngineInv) (userRefNum : UserRefNum) :
    (engine.erase userRefNum).EngineInv := by
  intro other order hfind
  rw [find_erase] at hfind
  split at hfind
  · cases hfind
  · exact hinv other order hfind

/-- An order that has just been accepted. -/
theorem enroll_engineInv (hinv : engine.EngineInv) {order : LiveOrder}
    (hnew : engine.highestUserRefNum < order.userRefNum)
    (hquantity : isValidEnterOrReplaceQuantity order.originalQuantity = true)
    (hprice : isValidPrice4 order.price = true)
    (hleaves : order.leavesQuantity = order.originalQuantity) :
    (engine.enroll order).EngineInv := by
  intro userRefNum found hfind
  rw [find_enroll] at hfind
  split at hfind
  · rename_i hkey
    cases hfind
    rw [isValidEnterOrReplaceQuantity, Bool.and_eq_true, decide_eq_true_eq,
      decide_eq_true_eq] at hquantity
    have hpos : 0 < order.userRefNum := Nat.lt_of_le_of_lt (Nat.zero_le _) hnew
    rw [← hkey]
    exact {
      key := rfl
      ref_pos := hpos
      le_highest := UInt32.le_refl _
      leaves_pos := hleaves ▸ hquantity.1
      leaves_le := hleaves ▸ UInt32.le_refl _
      original_lt := hquantity.2
      price_pos := of_decide_eq_true hprice }
  · have hfound := hinv userRefNum found hfind
    exact { hfound with le_highest := UInt32.le_trans hfound.le_highest (UInt32.le_of_lt hnew) }

theorem setLeaves_engineInv (hinv : engine.EngineInv) {userRefNum : UserRefNum}
    {order : LiveOrder} {quantity : Quantity} (hlive : engine.find userRefNum = some order)
    (hquantity : quantity < order.leavesQuantity) :
    (engine.setLeaves userRefNum order (order.leavesQuantity - quantity)).EngineInv := by
  intro other found hfind
  rw [find_setLeaves] at hfind
  split at hfind
  · rename_i hkey
    cases hfind
    have hfound := hinv userRefNum order hlive
    have hsub : (order.leavesQuantity - quantity).toNat =
        order.leavesQuantity.toNat - quantity.toNat :=
      UInt32.toNat_sub_of_le _ _ (UInt32.le_of_lt hquantity)
    have hlt := UInt32.lt_iff_toNat_lt.mp hquantity
    have hle := UInt32.le_iff_toNat_le.mp hfound.leaves_le
    rw [← hkey]
    exact { hfound with
      leaves_pos := by
        rw [UInt32.lt_iff_toNat_lt, hsub]
        exact Nat.sub_pos_of_lt hlt
      leaves_le := by
        rw [UInt32.le_iff_toNat_le, hsub]
        exact Nat.le_trans (Nat.sub_le _ _) hle }
  · exact hinv other found hfind

theorem Effect.engineInv {call : LifecycleCall} {result : LifecycleResult}
    {next : OrderLifecycleEngine} (heffect : Effect engine call result next)
    (hinv : engine.EngineInv) : next.EngineInv := by
  cases heffect with
  | rejected => exact hinv
  | entered message hvalid hnew =>
      simp only [isValidEnterOrderMessage, Bool.and_eq_true] at hvalid
      exact enroll_engineInv hinv hnew hvalid.1.1.1.1.2 hvalid.1.1.1.2 rfl
  | replaced message oldOrder hvalid hold hnew =>
      simp only [isValidReplaceOrderMessage, Bool.and_eq_true] at hvalid
      exact enroll_engineInv (erase_engineInv hinv _) hnew hvalid.1.1.1.2 hvalid.1.1.2 rfl
  | removed call status userRefNum order hstatus hlive => exact erase_engineInv hinv userRefNum
  | reduced call status userRefNum order quantity hstatus hlive hquantity =>
      exact setLeaves_engineInv hinv hlive hquantity

theorem call_engineInv (hinv : engine.EngineInv) (call : LifecycleCall) :
    (engine.after call).EngineInv :=
  (call_effect engine call).engineInv hinv

theorem initial_engineInv : EngineInv {} := by
  intro userRefNum order hfind
  rw [find, ExtTreeMap.getElem?_empty] at hfind
  cases hfind

theorem run_engineInv (hinv : engine.EngineInv) (calls : List LifecycleCall) :
    (engine.run calls).EngineInv := by
  have hstep : ∀ (engine : OrderLifecycleEngine) (call : LifecycleCall), True →
      engine.EngineInv → (engine.after call).EngineInv :=
    fun _ call _ hengine => call_engineInv hengine call
  exact foldl_invariant hstep hinv (fun _ _ => trivial)

end Live

/-! ## Reference numbers -/

/-- The numbers of accepted enters and replaces. -/
def acceptedRefs (results : List LifecycleResult) : List UserRefNum :=
  (results.filter (fun result => result.status = .accepted || result.status = .replaced)).map
    (fun result => result.userRefNum)

theorem Effect.acceptedRefs {engine next : OrderLifecycleEngine} {call : LifecycleCall}
    {result : LifecycleResult} (heffect : Effect engine call result next)
    (rest : List LifecycleResult) :
    (acceptedRefs (result :: rest) = acceptedRefs rest ∧
      next.highestUserRefNum = engine.highestUserRefNum) ∨
    (acceptedRefs (result :: rest) = result.userRefNum :: acceptedRefs rest ∧
      engine.highestUserRefNum < result.userRefNum ∧
      next.highestUserRefNum = result.userRefNum) := by
  cases heffect with
  | rejected => exact Or.inl ⟨rfl, rfl⟩
  | entered message hvalid hnew => exact Or.inr ⟨rfl, hnew, rfl⟩
  | replaced message oldOrder hvalid hold hnew => exact Or.inr ⟨rfl, hnew, rfl⟩
  | removed call status _ _ hstatus => rcases hstatus with rfl | rfl <;> exact Or.inl ⟨rfl, rfl⟩
  | reduced call status _ _ _ hstatus => rcases hstatus with rfl | rfl <;> exact Or.inl ⟨rfl, rfl⟩

/-- Every accepted number is above all before it. -/
theorem acceptedRefs_results (engine : OrderLifecycleEngine) (calls : List LifecycleCall) :
    (acceptedRefs (engine.results calls)).Pairwise (· < ·) ∧
      (∀ ref ∈ acceptedRefs (engine.results calls), engine.highestUserRefNum < ref) ∧
      (acceptedRefs (engine.results calls)).getLastD engine.highestUserRefNum =
        (engine.run calls).highestUserRefNum := by
  induction calls generalizing engine with
  | nil => exact ⟨List.Pairwise.nil, nofun, rfl⟩
  | cons call rest ih =>
      rcases ih (engine.after call) with ⟨hpairwise, habove, hlast⟩
      change (acceptedRefs (engine.resultOf call :: (engine.after call).results rest)).Pairwise
          (· < ·) ∧
        (∀ ref ∈ acceptedRefs (engine.resultOf call :: (engine.after call).results rest),
          engine.highestUserRefNum < ref) ∧
        (acceptedRefs (engine.resultOf call :: (engine.after call).results rest)).getLastD
          engine.highestUserRefNum = ((engine.after call).run rest).highestUserRefNum
      rcases (call_effect engine call).acceptedRefs ((engine.after call).results rest) with
        ⟨hrefs, hsame⟩ | ⟨hrefs, hnew, hhighest⟩
      · rw [hsame] at habove hlast
        rw [hrefs]
        exact ⟨hpairwise, habove, hlast⟩
      · rw [hhighest] at habove hlast
        rw [hrefs, List.pairwise_cons, List.forall_mem_cons, List.getLastD_cons]
        refine ⟨⟨habove, hpairwise⟩, ⟨hnew, ?_⟩, hlast⟩
        intro ref hmem
        exact UInt32.lt_trans hnew (habove ref hmem)

/-- Over any calls, accepted references increase, live orders are well formed and refused calls
change nothing. -/
theorem lifecycle_run (calls : List LifecycleCall) :
    let engine := run {} calls
    let refs := acceptedRefs (results {} calls)
    refs.Pairwise (· < ·) ∧ refs.Nodup ∧ refs.getLastD 0 = engine.highestUserRefNum ∧
      (∀ ref order, engine.find ref = some order →
        order.userRefNum = ref ∧ 1 ≤ ref ∧ ref ≤ engine.highestUserRefNum ∧
          0 < order.leavesQuantity ∧ order.leavesQuantity ≤ order.originalQuantity ∧
          order.originalQuantity < 1000000 ∧ 0 < order.price) ∧
      ∀ call, (engine.resultOf call).rejected = true → engine.after call = engine := by
  intro engine refs
  rcases acceptedRefs_results {} calls with ⟨hpairwise, -, hlast⟩
  refine ⟨hpairwise, hpairwise.imp UInt32.ne_of_lt, hlast, ?_, ?_⟩
  · intro ref order hfind
    have horder := run_engineInv initial_engineInv calls ref order hfind
    exact ⟨horder.key, horder.ref_pos, horder.le_highest, horder.leaves_pos, horder.leaves_le,
      horder.original_lt, horder.price_pos⟩
  · intro call hrejected
    exact (call_effect engine call).eq_of_rejected hrejected

end OrderLifecycleEngine

end Fgep.Execution
