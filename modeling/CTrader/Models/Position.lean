import CTrader.Models.Deal
import CTrader.Models.Requests

/-! Positions as the server sends them, what the library reports of them, and their amendment. -/

namespace CTrader.Models

/-- The status of a position. -/
inductive PositionStatus
  | opened
  | closed
  | created
  | error
deriving DecidableEq, Repr

/-- `_POSITION_STATUS_MAP`, by the numbers of `ProtoOAPositionStatus`. -/
def positionStatusMap : ℤ → Option PositionStatus
  | 1 => some .opened
  | 2 => some .closed
  | 3 => some .created
  | 4 => some .error
  | _ => none

/-- The trading details of a position, of which one more field is read than of those of an order. -/
structure PositionTradeData extends ProtoOATradeData where
  closeTimestamp : ℤ := 0

/-- A position of the server, with absent fields at their protobuf defaults. -/
structure ProtoOAPosition where
  positionId : ℤ := 0
  -- Absent when it was not on the wire, where it parses into a default instance.
  tradeData : Option PositionTradeData := none
  positionStatus : ℤ := 0
  swap : Int64 := 0
  price : Binary64 := zeroPrice
  stopLoss : Binary64 := zeroPrice
  takeProfit : Binary64 := zeroPrice
  utcLastUpdateTimestamp : ℤ := 0
  commission : Int64 := 0
  marginRate : Binary64 := zeroPrice
  guaranteedStopLoss : Bool := false
  usedMargin : UInt64 := 0
  stopLossTriggerMethod : ℤ := 0
  moneyDigits : UInt32 := 0
  trailingStopLoss : Bool := false

/-- A position as the library hands it out. -/
structure Position (δ : Type) where
  positionId : ℤ
  symbolId : ℤ
  side : OrderSide
  volume : ℤ
  entryPrice : ℚ
  status : PositionStatus
  openTimestamp : δ
  moneyDigits : ℕ
  stopLoss : Option ℚ
  takeProfit : Option ℚ
  trailingStopLoss : Bool
  guaranteedStopLoss : Bool
  stopLossTriggerMethod : StopTriggerMethod
  swap : ℚ
  commission : ℚ
  usedMargin : ℚ
  marginRate : Option ℚ
  label : String
  comment : String
  lastUpdateTimestamp : Option δ
  closeTimestamp : Option δ

/-- The margin of a position, which is read as zero where it is absent. -/
def margin (usedMargin : UInt64) (moneyDigits : UInt32) : Except ConversionError ℚ :=
  if usedMargin = 0 then .ok 0 else quotient usedMargin.toNat (moneyDivisor moneyDigits)

section FromProto

variable {δ : Type} (decimalStr : ℚ → ℚ) (calendar : Calendar δ)

/-- A timestamp in milliseconds, where zero is read as absent. -/
def instantField (timestamp : ℤ) : Except ConversionError (Option δ) :=
  unlessAbsent (timestamp == 0) (told (calendar.timestampToDatetime timestamp))

/-- A double, where zero is read as absent and a model refuses what is not finite. -/
def doubleField (value : Binary64) : Except ConversionError (Option ℚ) :=
  unlessAbsent (value == zeroPrice) (printed decimalStr value)

/-- `Position.from_proto`, with the reading of the clock. -/
def Position.fromProto (now : δ) (proto : ProtoOAPosition) : Except ConversionError (Position δ) := do
  let tradeData := proto.tradeData.getD {}
  let openTimestamp ← instantField calendar tradeData.openTimestamp
  let swap ← optionalMoney proto.swap proto.moneyDigits
  let commission ← optionalMoney proto.commission proto.moneyDigits
  let usedMargin ← margin proto.usedMargin proto.moneyDigits
  let lastUpdateTimestamp ← instantField calendar proto.utcLastUpdateTimestamp
  let closeTimestamp ← instantField calendar tradeData.closeTimestamp
  -- The model refuses what is not finite once all of its fields are there.
  let entryPrice ← doubleField decimalStr proto.price
  let stopLoss ← doubleField decimalStr proto.stopLoss
  let takeProfit ← doubleField decimalStr proto.takeProfit
  let marginRate ← doubleField decimalStr proto.marginRate
  return {
    positionId := proto.positionId
    symbolId := tradeData.symbolId
    -- The number of `ProtoOATradeSide.SELL` is two.
    side := if tradeData.tradeSide = 2 then .sell else .buy
    volume := tradeData.volume
    entryPrice := entryPrice.getD 0
    status := (positionStatusMap proto.positionStatus).getD .opened
    openTimestamp := openTimestamp.getD now
    moneyDigits := moneyExponent proto.moneyDigits
    stopLoss, takeProfit
    trailingStopLoss := proto.trailingStopLoss
    guaranteedStopLoss := proto.guaranteedStopLoss
    stopLossTriggerMethod := (triggerMethodMap proto.stopLossTriggerMethod).getD .trade
    swap, commission, usedMargin, marginRate
    label := tradeData.label
    comment := tradeData.comment
    lastUpdateTimestamp, closeTimestamp }

end FromProto

/-- A request to modify a position's stop loss and take profit, where an absent price removes one. -/
structure AmendPositionRequest where
  positionId : ℤ
  stopLoss : Option ℚ := none
  takeProfit : Option ℚ := none
  trailingStopLoss : Bool := false
  guaranteedStopLoss : Bool := false
  stopLossTriggerMethod : Option StopTriggerMethod := none

/-- The message of an amendment of a position. -/
structure ProtoOAAmendPositionSLTPReq where
  payloadType : ℤ
  ctidTraderAccountId : ℤ
  positionId : ℤ
  stopLoss : Binary64
  takeProfit : Binary64
  guaranteedStopLoss : Bool
  trailingStopLoss : Bool
  stopLossTriggerMethod : ℤ
deriving DecidableEq

/-- `AmendPositionRequest.to_proto`. -/
def AmendPositionRequest.toProto (request : AmendPositionRequest) (accountId : ℤ) :
    ProtoOAAmendPositionSLTPReq where
  -- The number of `PROTO_OA_AMEND_POSITION_SLTP_REQ`.
  payloadType := 2110
  ctidTraderAccountId := accountId
  positionId := request.positionId
  stopLoss := sentPrice request.stopLoss
  takeProfit := sentPrice request.takeProfit
  guaranteedStopLoss := request.guaranteedStopLoss
  trailingStopLoss := request.trailingStopLoss
  -- Without a method the message names `TRADE`.
  stopLossTriggerMethod := triggerToProto (request.stopLossTriggerMethod.getD .trade)

/-- The request that copies the fields it shares with a position. -/
def AmendPositionRequest.ofPosition {δ : Type} (position : Position δ) : AmendPositionRequest where
  positionId := position.positionId
  stopLoss := position.stopLoss
  takeProfit := position.takeProfit
  trailingStopLoss := position.trailingStopLoss
  guaranteedStopLoss := position.guaranteedStopLoss
  stopLossTriggerMethod := some position.stopLossTriggerMethod

/-- The amendment whose every field is the one of the position. -/
def ProtoOAPosition.currentValues (proto : ProtoOAPosition) (accountId : ℤ) :
    ProtoOAAmendPositionSLTPReq where
  payloadType := 2110
  ctidTraderAccountId := accountId
  positionId := proto.positionId
  stopLoss := proto.stopLoss
  takeProfit := proto.takeProfit
  guaranteedStopLoss := proto.guaranteedStopLoss
  trailingStopLoss := proto.trailingStopLoss
  stopLossTriggerMethod := proto.stopLossTriggerMethod

/-- A position whose prices and rate are finite, and whose instants a datetime holds. -/
structure ProtoOAPosition.Readable {δ : Type} (calendar : Calendar δ) (proto : ProtoOAPosition) :
    Prop where
  doubles : ∀ value ∈ [proto.price, proto.stopLoss, proto.takeProfit, proto.marginRate], isFinite value
  instants : ∀ timestamp ∈ [(proto.tradeData.getD {}).openTimestamp, proto.utcLastUpdateTimestamp,
    (proto.tradeData.getD {}).closeTimestamp], timestamp ≠ 0 →
      (calendar.timestampToDatetime timestamp).isSome

section Amending

variable {δ : Type} (decimalStr : ℚ → ℚ) (calendar : Calendar δ)

/-- The message that amends a position to the values the library reports for it. -/
def amendPositionToCurrent (now : δ) (accountId : ℤ) (proto : ProtoOAPosition) :
    Except ConversionError ProtoOAAmendPositionSLTPReq := do
  let position ← Position.fromProto decimalStr calendar now proto
  return (AmendPositionRequest.ofPosition position).toProto accountId

variable {decimalStr calendar}

/-- A double that may be absent is read where it is finite. -/
theorem doubleField_isOk (decimalStr : ℚ → ℚ) {value : Binary64} :
    (∃ field, doubleField decimalStr value = .ok field) ↔ isFinite value :=
  optionalPrinted_isOk decimalStr

/-- A timestamp that may be absent is read where the calendar has it. -/
theorem instantField_isOk {timestamp : ℤ} :
    (∃ field, instantField calendar timestamp = .ok field) ↔
      (timestamp ≠ 0 → (calendar.timestampToDatetime timestamp).isSome) := by
  rw [instantField, unlessAbsent_isOk, told_isOk]
  simp

/-- An integer of few enough digits is scaled, and exactly where no digit of it is lost. -/
theorem scaled_isOk {amount : ℤ} (short : |amount| < 10 ^ 28) (moneyDigits : UInt32) :
    ∃ read, quotient amount (moneyDivisor moneyDigits) = .ok read ∧
      (read = amount / moneyDivisor moneyDigits ↔
        10 ^ (moneyExponent moneyDigits - 1000026) ∣ amount) := by
  obtain ⟨read, divided⟩ : ∃ read,
      defaultContext.div amount (10 ^ moneyExponent moneyDigits) = some read :=
    DecimalContext.div_pow_isSome (by decide) (by decide) (by decide) short.le _
  -- What is lost by the division is the digits below the smallest exponent.
  have exact : defaultContext.div amount (10 ^ moneyExponent moneyDigits) =
      some ((amount : ℚ) / 10 ^ moneyExponent moneyDigits) ↔
        10 ^ (moneyExponent moneyDigits - 1000026) ∣ amount :=
    DecimalContext.div_pow_eq_iff (by decide) (by decide) (by decide) short _
  refine ⟨read, ?_, ?_⟩
  · simp only [quotient, moneyDivisor, Nat.cast_pow, Nat.cast_ofNat, divided, Option.elim_some]
  · rw [← exact, divided, Option.some.injEq]
    simp only [moneyDivisor, Nat.cast_pow, Nat.cast_ofNat]

/-- A natural number of the wire has fewer digits than decimals keep. -/
theorem abs_toNat_lt (amount : UInt64) : |(amount.toNat : ℤ)| < (10 : ℤ) ^ 28 := by
  have := amount.toNat_lt
  rw [abs_lt]
  constructor <;> omega

/-- Every margin is converted. -/
theorem margin_isOk (usedMargin : UInt64) (moneyDigits : UInt32) :
    ∃ read, margin usedMargin moneyDigits = .ok read := by
  unfold margin
  split
  · exact ⟨0, rfl⟩
  · obtain ⟨read, converted, -⟩ := scaled_isOk (abs_toNat_lt usedMargin) moneyDigits
    exact ⟨read, converted⟩

/-- A double that was read is sent back as it was. -/
theorem sentPrice_doubleField
    (printing : ∀ q (held : Representable q), Binary64.round (decimalStr q) = .finite q held)
    {value : Binary64} {field : Option ℚ} (read : doubleField decimalStr value = .ok field) :
    sentPrice field = value := by
  by_cases zero : value = zeroPrice
  · subst zero
    cases read
    rfl
  · have present : (value == zeroPrice) = false := by simpa using zero
    cases value with
    | finite q held =>
      rw [doubleField, present, unlessAbsent] at read
      cases read
      have back := printing q held
      -- The decimal of a price that is not zero is not zero itself.
      have nonzero : decimalStr q ≠ 0 := by
        intro vanished
        rw [vanished, Binary64.round_of_representable ⟨0, 0, by norm_num⟩] at back
        exact zero back.symm
      rw [sentPrice, if_neg nonzero, back]
    | _ =>
      rw [doubleField, present, unlessAbsent] at read
      cases read

/-- A position is read where its instants, prices and rate are. -/
theorem Position.fromProto_isOk (decimalStr : ℚ → ℚ) {now : δ} {proto : ProtoOAPosition} :
    (∃ position, Position.fromProto decimalStr calendar now proto = .ok position) ↔
      proto.Readable calendar := by
  obtain ⟨swap, swapped⟩ := optionalMoney_isOk proto.swap proto.moneyDigits
  obtain ⟨commission, charged⟩ := optionalMoney_isOk proto.commission proto.moneyDigits
  obtain ⟨usedMargin, allocated⟩ := margin_isOk proto.usedMargin proto.moneyDigits
  simp only [Position.fromProto, bind_eq_ok_iff, swapped, charged, allocated, Except.ok.injEq,
    exists_eq_left', pure, Except.pure]
  constructor
  · -- Four doubles and three instants can raise; the amounts always convert.
    rintro ⟨position, opening, opened, update, updated, closing, closed, entry, entered, stop, stopped,
      limit, limited, rate, rated, -⟩
    constructor
    · simp only [List.forall_mem_cons, ← doubleField_isOk decimalStr]
      exact ⟨⟨entry, entered⟩, ⟨stop, stopped⟩, ⟨limit, limited⟩, ⟨rate, rated⟩, by simp⟩
    · simp only [List.forall_mem_cons, ← instantField_isOk]
      exact ⟨⟨opening, opened⟩, ⟨update, updated⟩, ⟨closing, closed⟩, by simp⟩
  · rintro ⟨doubles, instants⟩
    simp only [List.forall_mem_cons, ← doubleField_isOk decimalStr] at doubles
    simp only [List.forall_mem_cons, ← instantField_isOk] at instants
    obtain ⟨⟨entry, entered⟩, ⟨stop, stopped⟩, ⟨limit, limited⟩, ⟨rate, rated⟩, -⟩ := doubles
    obtain ⟨⟨opening, opened⟩, ⟨update, updated⟩, ⟨closing, closed⟩, -⟩ := instants
    exact ⟨_, opening, opened, update, updated, closing, closed, entry, entered, stop, stopped, limit,
      limited, rate, rated, rfl⟩

/-- What a position is read with of the values that an amendment sends. -/
structure Position.Echoes (decimalStr : ℚ → ℚ) (proto : ProtoOAPosition) (position : Position δ) :
    Prop where
  positionId : position.positionId = proto.positionId
  stopLoss : doubleField decimalStr proto.stopLoss = .ok position.stopLoss
  takeProfit : doubleField decimalStr proto.takeProfit = .ok position.takeProfit
  trailingStopLoss : position.trailingStopLoss = proto.trailingStopLoss
  guaranteedStopLoss : position.guaranteedStopLoss = proto.guaranteedStopLoss
  stopLossTriggerMethod : position.stopLossTriggerMethod =
    (triggerMethodMap proto.stopLossTriggerMethod).getD .trade

/-- A position that is read echoes the server's. -/
theorem Position.echoes {now : δ} {proto : ProtoOAPosition} {position : Position δ}
    (read : Position.fromProto decimalStr calendar now proto = .ok position) :
    Position.Echoes decimalStr proto position := by
  simp only [Position.fromProto, bind_eq_ok_iff, pure, Except.pure, Except.ok.injEq] at read
  obtain ⟨_, -, _, -, _, -, _, -, _, -, _, -, _, -, _, stopped, _, limited, _, -, rfl⟩ := read
  exact ⟨rfl, stopped, limited, rfl, rfl, rfl⟩

/-- The trigger method that stands for a number of the wire, which is the default one for one that the
library does not know. -/
theorem triggerToProto_getD (method : ℤ) :
    triggerToProto ((triggerMethodMap method).getD .trade) =
      if (triggerMethodMap method).isSome then method else 1 := by
  by_cases known : (triggerMethodMap method).isSome
  · rw [if_pos known]
    exact triggerToProto_map known
  · rw [if_neg known, Option.not_isSome_iff_eq_none.mp known]
    rfl

/-- A position is amended to what the library reports of it exactly where it can be read, and then by its
own values, with the default trigger method in the place of one that the library does not know. -/
theorem amend_position_to_current_iff
    (printing : ∀ q (held : Representable q), Binary64.round (decimalStr q) = .finite q held)
    (now : δ) (accountId : ℤ) (proto : ProtoOAPosition) (message : ProtoOAAmendPositionSLTPReq) :
    amendPositionToCurrent decimalStr calendar now accountId proto = .ok message ↔
      proto.Readable calendar ∧ message = { proto.currentValues accountId with
        stopLossTriggerMethod :=
          if (triggerMethodMap proto.stopLossTriggerMethod).isSome then proto.stopLossTriggerMethod
          else 1 } := by
  -- Whatever is read of the position is sent back as it was.
  have sent {position : Position δ}
      (read : Position.fromProto decimalStr calendar now proto = .ok position) :
      (AmendPositionRequest.ofPosition position).toProto accountId =
        { proto.currentValues accountId with
          stopLossTriggerMethod :=
            if (triggerMethodMap proto.stopLossTriggerMethod).isSome then proto.stopLossTriggerMethod
            else 1 } := by
    have echoes := Position.echoes read
    rw [← triggerToProto_getD, ← echoes.stopLossTriggerMethod]
    simp only [AmendPositionRequest.toProto, AmendPositionRequest.ofPosition,
      ProtoOAPosition.currentValues, Option.getD_some, echoes.positionId, echoes.trailingStopLoss,
      echoes.guaranteedStopLoss, sentPrice_doubleField printing echoes.stopLoss,
      sentPrice_doubleField printing echoes.takeProfit]
  rw [amendPositionToCurrent, bind_eq_ok_iff, ← Position.fromProto_isOk decimalStr]
  constructor
  · rintro ⟨position, read, same⟩
    cases same
    exact ⟨⟨position, read⟩, sent read⟩
  · rintro ⟨⟨position, read⟩, rfl⟩
    exact ⟨position, read, congrArg Except.ok (sent read)⟩

end Amending

/-- A position of the server whose stop loss is watched by a method that the library does not know. -/
def watchedPosition : ProtoOAPosition where
  positionId := 7
  stopLoss := Binary64.round (3 / 2)
  trailingStopLoss := true
  stopLossTriggerMethod := 9

/-- The amendment of a position to its own stop loss names another trigger method than the server's. -/
theorem amend_watched_position :
    amendPositionToCurrent id ⟨some, some⟩ 0 1 watchedPosition =
      .ok { watchedPosition.currentValues 1 with stopLossTriggerMethod := 1 } := by
  refine (amend_position_to_current_iff (fun _ => Binary64.round_of_representable) 0 1
    watchedPosition _).mpr ?_
  refine ⟨⟨by decide +kernel, by decide⟩, rfl⟩

end CTrader.Models
