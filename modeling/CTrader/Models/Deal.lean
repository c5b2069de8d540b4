import CTrader.Models.Conversions
import CTrader.Models.Order

/-! Deals as the server sends them, and the details of the positions that they close. -/

namespace CTrader.Models

/-- The status of a deal. -/
inductive DealStatus
  | filled
  | partiallyFilled
  | rejected
  | internallyRejected
  | error
  | missed
deriving DecidableEq, Repr

/-- `_DEAL_STATUS_MAP`, by the numbers of `ProtoOADealStatus`. -/
def dealStatusMap : ℤ → Option DealStatus
  | 2 => some .filled
  | 3 => some .partiallyFilled
  | 4 => some .rejected
  | 5 => some .internallyRejected
  | 6 => some .error
  | 7 => some .missed
  | _ => none

/-- The details of a closed position, with absent fields at their protobuf defaults. -/
structure ProtoOAClosePositionDetail where
  entryPrice : Binary64 := zeroPrice
  grossProfit : Int64 := 0
  swap : Int64 := 0
  commission : Int64 := 0
  balance : Int64 := 0
  quoteToDepositConversionRate : Binary64 := zeroPrice
  closedVolume : Int64 := 0
  balanceVersion : Int64 := 0
  moneyDigits : UInt32 := 0
  pnlConversionFee : Int64 := 0

/-- A deal of the server, with absent fields at their protobuf defaults. -/
structure ProtoOADeal where
  dealId : Int64 := 0
  orderId : Int64 := 0
  positionId : Int64 := 0
  volume : Int64 := 0
  filledVolume : Int64 := 0
  symbolId : Int64 := 0
  createTimestamp : Int64 := 0
  executionTimestamp : Int64 := 0
  utcLastUpdateTimestamp : Int64 := 0
  executionPrice : Binary64 := zeroPrice
  tradeSide : ℤ := 0
  dealStatus : ℤ := 0
  marginRate : Binary64 := zeroPrice
  commission : Int64 := 0
  baseToUsdConversionRate : Binary64 := zeroPrice
  -- Absent when it was not on the wire, where it parses into a default instance.
  closePositionDetail : Option ProtoOAClosePositionDetail := none
  moneyDigits : UInt32 := 0

/-- The details of a closed position as the library hands them out. -/
structure CloseDetail where
  entryPrice : ℚ
  closedVolume : ℤ
  grossProfit : ℚ
  swap : ℚ
  commission : ℚ
  balance : ℚ
  pnlConversionFee : ℚ
  quoteToDepositRate : Option ℚ
  balanceVersion : Option ℤ

/-- A deal as the library hands it out. -/
structure Deal (δ : Type) where
  dealId : ℤ
  orderId : ℤ
  positionId : ℤ
  symbolId : ℤ
  side : OrderSide
  volume : ℤ
  filledVolume : ℤ
  executionPrice : ℚ
  executionTimestamp : δ
  status : DealStatus
  commission : ℚ
  createTimestamp : Option δ
  lastUpdateTimestamp : Option δ
  marginRate : Option ℚ
  baseToUsdRate : Option ℚ
  closeDetail : Option CloseDetail

/-- `Deal.is_closing_deal`. -/
def Deal.isClosingDeal {δ : Type} (deal : Deal δ) : Bool :=
  deal.closeDetail.any (0 < ·.balance)

/-- `DEFAULT_MONEY_DIGITS`. -/
def defaultMoneyDigits : ℕ := 2

/-- The digits of an amount that stand behind the point. -/
def moneyExponent (moneyDigits : UInt32) : ℕ :=
  if moneyDigits = 0 then defaultMoneyDigits else moneyDigits.toNat

/-- `money_divisor`. -/
def moneyDivisor (moneyDigits : UInt32) : ℕ := 10 ^ moneyExponent moneyDigits

/-- An amount of money, from the integer that stands for it. -/
def money (amount : Int64) (moneyDigits : UInt32) : Except ConversionError ℚ :=
  quotient amount.toInt (moneyDivisor moneyDigits)

/-- An amount of money that is read as zero where it is absent. -/
def optionalMoney (amount : Int64) (moneyDigits : UInt32) : Except ConversionError ℚ :=
  if amount = 0 then .ok 0 else money amount moneyDigits

section FromProto

variable {δ : Type} (decimalStr : ℚ → ℚ) (calendar : Calendar δ)

/-- The decimal that the printed form of a double reads as, which a model refuses if it is not finite. -/
def printed : Binary64 → Except ConversionError ℚ
  | .finite q _ => .ok (decimalStr q)
  | _ => .error .validation

/-- `CloseDetail.from_proto`. -/
def CloseDetail.fromProto (proto : ProtoOAClosePositionDetail) : Except ConversionError CloseDetail := do
  let grossProfit ← money proto.grossProfit proto.moneyDigits
  let swap ← money proto.swap proto.moneyDigits
  let commission ← money proto.commission proto.moneyDigits
  let balance ← money proto.balance proto.moneyDigits
  let pnlConversionFee ← optionalMoney proto.pnlConversionFee proto.moneyDigits
  let entryPrice ← printed decimalStr proto.entryPrice
  -- A rate of zero is read as absent.
  let quoteToDepositRate ← unlessAbsent (proto.quoteToDepositConversionRate == zeroPrice)
    (printed decimalStr proto.quoteToDepositConversionRate)
  return {
    entryPrice
    closedVolume := proto.closedVolume.toInt
    grossProfit
    swap
    commission
    balance
    pnlConversionFee
    quoteToDepositRate
    balanceVersion := presentInt proto.balanceVersion.toInt }

/-- The detail that a deal is read with: one that leaves no balance is taken for an absent one. -/
def closeDetailField (detail : Option ProtoOAClosePositionDetail) :
    Except ConversionError (Option CloseDetail) :=
  let detail := detail.getD {}
  unlessAbsent (!(0 < detail.balance)) (CloseDetail.fromProto decimalStr detail)

/-- `Deal.from_proto`. -/
def Deal.fromProto (proto : ProtoOADeal) : Except ConversionError (Deal δ) := do
  let closeDetail ← closeDetailField decimalStr proto.closePositionDetail
  let executionTimestamp ← told (calendar.timestampToDatetime proto.executionTimestamp.toInt)
  let commission ← optionalMoney proto.commission proto.moneyDigits
  let createTimestamp ← unlessAbsent (proto.createTimestamp == 0)
    (told (calendar.timestampToDatetime proto.createTimestamp.toInt))
  let lastUpdateTimestamp ← unlessAbsent (proto.utcLastUpdateTimestamp == 0)
    (told (calendar.timestampToDatetime proto.utcLastUpdateTimestamp.toInt))
  -- The model refuses what is not finite once all of its fields are there.
  let executionPrice ← printed decimalStr proto.executionPrice
  let marginRate ← unlessAbsent (proto.marginRate == zeroPrice) (printed decimalStr proto.marginRate)
  let baseToUsdRate ← unlessAbsent (proto.baseToUsdConversionRate == zeroPrice)
    (printed decimalStr proto.baseToUsdConversionRate)
  return {
    dealId := proto.dealId.toInt
    orderId := proto.orderId.toInt
    positionId := proto.positionId.toInt
    symbolId := proto.symbolId.toInt
    side := if proto.tradeSide = 1 then .buy else .sell
    volume := proto.volume.toInt
    filledVolume := proto.filledVolume.toInt
    executionPrice
    executionTimestamp
    status := (dealStatusMap proto.dealStatus).getD .filled
    commission
    createTimestamp
    lastUpdateTimestamp
    marginRate
    baseToUsdRate
    closeDetail }

end FromProto

/-- The details of a closed position are handed out with the amounts that the server sent. -/
structure Carries (proto : ProtoOAClosePositionDetail) (detail : CloseDetail) : Prop where
  grossProfit : detail.grossProfit = proto.grossProfit.toInt / moneyDivisor proto.moneyDigits
  swap : detail.swap = proto.swap.toInt / moneyDivisor proto.moneyDigits
  commission : detail.commission = proto.commission.toInt / moneyDivisor proto.moneyDigits
  balance : detail.balance = proto.balance.toInt / moneyDivisor proto.moneyDigits

/-- A deal is taken for a closing one exactly where the server sent the details of a closed position,
which it then carries. -/
structure Recognised {δ : Type} (proto : ProtoOADeal) (deal : Deal δ) : Prop where
  closing : deal.isClosingDeal ↔ proto.closePositionDetail.isSome
  carries : ∀ detail, proto.closePositionDetail = some detail →
    ∃ read, deal.closeDetail = some read ∧ Carries detail read

/-- The digits of an amount that stand too far behind the point for a decimal are zero. -/
def Fits (amount : Int64) (moneyDigits : UInt32) : Prop :=
  10 ^ (moneyExponent moneyDigits - 1000026) ∣ amount.toInt

/-- The amounts of a closed position fit into decimals. -/
structure ProtoOAClosePositionDetail.AmountsFit (proto : ProtoOAClosePositionDetail) : Prop where
  grossProfit : Fits proto.grossProfit proto.moneyDigits
  swap : Fits proto.swap proto.moneyDigits
  commission : Fits proto.commission proto.moneyDigits
  balance : Fits proto.balance proto.moneyDigits

/-- A deal whose instants a datetime holds, and whose prices and rates are finite. -/
structure ProtoOADeal.Readable {δ : Type} (calendar : Calendar δ) (proto : ProtoOADeal) : Prop where
  executionTimestamp : (calendar.timestampToDatetime proto.executionTimestamp.toInt).isSome
  createTimestamp : proto.createTimestamp ≠ 0 →
    (calendar.timestampToDatetime proto.createTimestamp.toInt).isSome
  lastUpdateTimestamp : proto.utcLastUpdateTimestamp ≠ 0 →
    (calendar.timestampToDatetime proto.utcLastUpdateTimestamp.toInt).isSome
  executionPrice : isFinite proto.executionPrice
  marginRate : isFinite proto.marginRate
  baseToUsdRate : isFinite proto.baseToUsdConversionRate
  -- The details are read only where they leave a balance.
  detail : ∀ detail, proto.closePositionDetail = some detail → 0 < detail.balance →
    isFinite detail.entryPrice ∧ isFinite detail.quoteToDepositConversionRate

/-- An integer of the wire has fewer digits than decimals keep. -/
theorem abs_toInt_lt (amount : Int64) : |amount.toInt| < (10 : ℤ) ^ 28 := by
  have := amount.toInt_lt
  have := amount.le_toInt
  rw [abs_lt]
  constructor <;> omega

section Reading

variable {δ : Type} {decimalStr : ℚ → ℚ} {calendar : Calendar δ}

/-- Every amount is converted. -/
theorem money_isOk (amount : Int64) (moneyDigits : UInt32) :
    ∃ read, money amount moneyDigits = .ok read := by
  obtain ⟨read, divided⟩ : ∃ read,
      defaultContext.div amount.toInt (10 ^ moneyExponent moneyDigits) = some read :=
    DecimalContext.div_pow_isSome (by decide) (by decide) (by decide) (abs_toInt_lt amount).le _
  refine ⟨read, ?_⟩
  simp only [money, quotient, moneyDivisor, Nat.cast_pow, Nat.cast_ofNat, divided, Option.elim_some]

/-- An amount is converted exactly where it fits. -/
theorem money_eq_ok_iff {amount : Int64} {moneyDigits : UInt32} {read : ℚ}
    (ok : money amount moneyDigits = .ok read) :
    read = amount.toInt / moneyDivisor moneyDigits ↔ Fits amount moneyDigits := by
  -- The division is exact where the digits below the smallest exponent are zero.
  have exact : defaultContext.div amount.toInt (10 ^ moneyExponent moneyDigits) =
      some ((amount.toInt : ℚ) / 10 ^ moneyExponent moneyDigits) ↔ Fits amount moneyDigits :=
    DecimalContext.div_pow_eq_iff (by decide) (by decide) (by decide) (abs_toInt_lt amount) _
  simp only [money, quotient, moneyDivisor, Nat.cast_pow, Nat.cast_ofNat] at ok ⊢
  rw [← exact]
  -- Nothing overflows here, as an amount has 64 bits.
  cases divided : defaultContext.div amount.toInt (10 ^ moneyExponent moneyDigits) with
  | none => rw [divided] at ok; cases ok
  | some value =>
    rw [divided] at ok
    cases ok
    rw [Option.some.injEq]

/-- Every amount is converted, also where it may be absent. -/
theorem optionalMoney_isOk (amount : Int64) (moneyDigits : UInt32) :
    ∃ read, optionalMoney amount moneyDigits = .ok read := by
  unfold optionalMoney
  split
  · exact ⟨0, rfl⟩
  · exact money_isOk amount moneyDigits

/-- A double is taken over where it is finite. -/
theorem printed_isOk (decimalStr : ℚ → ℚ) {price : Binary64} :
    (∃ read, printed decimalStr price = .ok read) ↔ isFinite price := by
  cases price <;> simp [printed, isFinite]

/-- A double that may be absent is taken over where it is finite, as an absent one is. -/
theorem optionalPrinted_isOk (decimalStr : ℚ → ℚ) {price : Binary64} :
    (∃ read, unlessAbsent (price == zeroPrice) (printed decimalStr price) = .ok read) ↔
      isFinite price := by
  rw [unlessAbsent_isOk, printed_isOk]
  by_cases zero : price = zeroPrice
  · subst zero
    simp [isFinite, zeroPrice]
  · simp [zero]

/-- The details of a closed position are read where its price and its rate are finite, with the amounts
that its integers are converted to. -/
theorem closeDetail_isOk {proto : ProtoOAClosePositionDetail} :
    (∃ read, CloseDetail.fromProto decimalStr proto = .ok read) ↔
      isFinite proto.entryPrice ∧ isFinite proto.quoteToDepositConversionRate := by
  -- The amounts always convert, so only the two doubles can be refused.
  obtain ⟨grossProfit, profit⟩ := money_isOk proto.grossProfit proto.moneyDigits
  obtain ⟨swap, swapped⟩ := money_isOk proto.swap proto.moneyDigits
  obtain ⟨commission, charged⟩ := money_isOk proto.commission proto.moneyDigits
  obtain ⟨balance, left⟩ := money_isOk proto.balance proto.moneyDigits
  obtain ⟨fee, converted⟩ := optionalMoney_isOk proto.pnlConversionFee proto.moneyDigits
  rw [← printed_isOk decimalStr, ← optionalPrinted_isOk decimalStr]
  simp only [CloseDetail.fromProto, bind_eq_ok_iff, profit, swapped, charged, left, converted,
    Except.ok.injEq, exists_eq_left', pure, Except.pure]
  constructor
  · rintro ⟨read, entryPrice, entered, rate, rated, -⟩
    exact ⟨⟨entryPrice, entered⟩, rate, rated⟩
  · rintro ⟨⟨entryPrice, entered⟩, rate, rated⟩
    exact ⟨_, entryPrice, entered, rate, rated, rfl⟩

/-- The details that are read carry the amounts of the server exactly where these fit. -/
theorem carries_iff {proto : ProtoOAClosePositionDetail} {read : CloseDetail}
    (ok : CloseDetail.fromProto decimalStr proto = .ok read) :
    Carries proto read ↔ proto.AmountsFit := by
  simp only [CloseDetail.fromProto, bind_eq_ok_iff, pure, Except.pure, Except.ok.injEq] at ok
  -- The four amounts are read from their own fields, each by itself.
  obtain ⟨_, profit, _, swapped, _, charged, _, left, _, -, _, -, _, -, rfl⟩ := ok
  constructor
  · intro carries
    exact {
      grossProfit := (money_eq_ok_iff profit).mp carries.grossProfit
      swap := (money_eq_ok_iff swapped).mp carries.swap
      commission := (money_eq_ok_iff charged).mp carries.commission
      balance := (money_eq_ok_iff left).mp carries.balance }
  · intro fit
    exact {
      grossProfit := (money_eq_ok_iff profit).mpr fit.grossProfit
      swap := (money_eq_ok_iff swapped).mpr fit.swap
      commission := (money_eq_ok_iff charged).mpr fit.commission
      balance := (money_eq_ok_iff left).mpr fit.balance }

/-- The details of a deal are not looked at unless they leave a balance. -/
theorem closeDetailField_isOk {detail : Option ProtoOAClosePositionDetail} :
    (∃ field, closeDetailField decimalStr detail = .ok field) ↔
      ∀ closed, detail = some closed → 0 < closed.balance →
        isFinite closed.entryPrice ∧ isFinite closed.quoteToDepositConversionRate := by
  rw [closeDetailField, unlessAbsent_isOk, closeDetail_isOk]
  cases detail with
  | none => simp [isFinite, zeroPrice]
  | some closed => simp

/-- A deal is read where its instants, prices and rates are. -/
theorem fromProto_isOk (decimalStr : ℚ → ℚ) {proto : ProtoOADeal} :
    (∃ deal, Deal.fromProto decimalStr calendar proto = .ok deal) ↔ proto.Readable calendar := by
  obtain ⟨commission, charged⟩ := optionalMoney_isOk proto.commission proto.moneyDigits
  -- A time of zero is absent, and any other must be on the calendar.
  have present (timestamp : Int64) : (timestamp ≠ 0 →
        (calendar.timestampToDatetime timestamp.toInt).isSome) ↔
      ∃ field, unlessAbsent (timestamp == 0) (told (calendar.timestampToDatetime timestamp.toInt)) =
        .ok field := by
    rw [unlessAbsent_isOk, told_isOk]
    simp
  simp only [Deal.fromProto, bind_eq_ok_iff, charged, Except.ok.injEq, exists_eq_left', pure,
    Except.pure]
  constructor
  · -- What can raise is the details, three instants and three doubles, in this order.
    rintro ⟨deal, detail, closed, execution, executed, create, created, update, updated, price, priced,
      margin, margined, rate, rated, -⟩
    exact {
      executionTimestamp := told_isOk.mp ⟨execution, executed⟩
      createTimestamp := (present _).mpr ⟨create, created⟩
      lastUpdateTimestamp := (present _).mpr ⟨update, updated⟩
      executionPrice := (printed_isOk decimalStr).mp ⟨price, priced⟩
      marginRate := (optionalPrinted_isOk decimalStr).mp ⟨margin, margined⟩
      baseToUsdRate := (optionalPrinted_isOk decimalStr).mp ⟨rate, rated⟩
      detail := closeDetailField_isOk.mp ⟨detail, closed⟩ }
  · intro readable
    obtain ⟨detail, closed⟩ := closeDetailField_isOk.mpr readable.detail
    obtain ⟨execution, executed⟩ := told_isOk.mpr readable.executionTimestamp
    obtain ⟨create, created⟩ := (present _).mp readable.createTimestamp
    obtain ⟨update, updated⟩ := (present _).mp readable.lastUpdateTimestamp
    obtain ⟨price, priced⟩ := (printed_isOk decimalStr).mpr readable.executionPrice
    obtain ⟨margin, margined⟩ := (optionalPrinted_isOk decimalStr).mpr readable.marginRate
    obtain ⟨rate, rated⟩ := (optionalPrinted_isOk decimalStr).mpr readable.baseToUsdRate
    exact ⟨_, detail, closed, execution, executed, create, created, update, updated, price, priced,
      margin, margined, rate, rated, rfl⟩

/-- A deal is read with the details that are looked at. -/
theorem closeDetail_of_fromProto {proto : ProtoOADeal} {deal : Deal δ}
    (ok : Deal.fromProto decimalStr calendar proto = .ok deal) :
    closeDetailField decimalStr proto.closePositionDetail = .ok deal.closeDetail := by
  simp only [Deal.fromProto, bind_eq_ok_iff, pure, Except.pure, Except.ok.injEq] at ok
  obtain ⟨detail, closed, _, -, _, -, _, -, _, -, _, -, _, -, _, -, rfl⟩ := ok
  exact closed

/-- Details that are carried exactly leave a balance where the server says so. -/
theorem Carries.balance_pos {proto : ProtoOAClosePositionDetail} {read : CloseDetail}
    (carries : Carries proto read) (left : 0 < proto.balance) : 0 < read.balance := by
  have divisor : (0 : ℚ) < moneyDivisor proto.moneyDigits := by
    unfold moneyDivisor
    positivity
  have amount : (0 : ℚ) < proto.balance.toInt := by
    exact_mod_cast Int64.lt_iff_toInt_lt.mp left
  rw [carries.balance]
  exact div_pos amount divisor

/-- A deal that is read is recognised exactly where the details it was sent with, if any, leave a
balance and fit into decimals. -/
theorem recognised_iff {proto : ProtoOADeal} {deal : Deal δ}
    (ok : Deal.fromProto decimalStr calendar proto = .ok deal) :
    Recognised proto deal ↔
      ∀ detail, proto.closePositionDetail = some detail → 0 < detail.balance ∧ detail.AmountsFit := by
  have field := closeDetail_of_fromProto ok
  cases sent : proto.closePositionDetail with
  | none =>
    -- The default instance leaves no balance.
    have none_read : deal.closeDetail = none := by
      rw [sent] at field
      exact (Except.ok.inj field).symm
    refine iff_of_true ⟨?_, ?_⟩ fun _ absent => nomatch absent
    · simp [Deal.isClosingDeal, none_read, sent]
    · intro _ present
      rw [sent] at present
      cases present
  | some detail =>
    rw [sent, closeDetailField, Option.getD_some] at field
    by_cases left : 0 < detail.balance
    · rw [unlessAbsent, if_neg (by simpa using left)] at field
      cases closed : CloseDetail.fromProto decimalStr detail with
      | error error => rw [closed] at field; cases field
      | ok read =>
        rw [closed] at field
        have some_read : deal.closeDetail = some read := (Except.ok.inj field).symm
        have exact := carries_iff closed
        constructor
        · intro recognised _ same
          cases same
          obtain ⟨other, same, carries⟩ := recognised.carries detail sent
          rw [some_read] at same
          cases same
          exact ⟨left, exact.mp carries⟩
        · intro all
          have carries := exact.mpr (all detail rfl).2
          constructor
          · simp [Deal.isClosingDeal, some_read, sent, carries.balance_pos left]
          · intro _ same
            rw [sent] at same
            cases same
            exact ⟨read, some_read, carries⟩
    · -- The details are taken for absent ones, and the deal for one that closes nothing.
      have none_read : deal.closeDetail = none := by
        rw [unlessAbsent, if_pos (by simpa using left)] at field
        exact (Except.ok.inj field).symm
      refine iff_of_false ?_ ?_
      · intro recognised
        obtain ⟨read, some_read, -⟩ := recognised.carries detail sent
        rw [none_read] at some_read
        cases some_read
      · intro all
        exact left (all detail rfl).1

end Reading

/-- A deal is recognised as a closing one, with the amounts of the server, exactly when it cannot be read
at all, when it was sent without details, or when these leave a balance and fit into decimals. -/
theorem closing_deal_recognised_iff {δ : Type} (decimalStr : ℚ → ℚ) (calendar : Calendar δ)
    (proto : ProtoOADeal) :
    (∀ deal, Deal.fromProto decimalStr calendar proto = .ok deal → Recognised proto deal) ↔
      ¬ proto.Readable calendar ∨
        ∀ detail, proto.closePositionDetail = some detail → 0 < detail.balance ∧ detail.AmountsFit := by
  rw [← fromProto_isOk decimalStr]
  constructor
  · intro recognised
    -- A deal that cannot be read is not recognised wrongly.
    by_cases read : ∃ deal, Deal.fromProto decimalStr calendar proto = .ok deal
    · obtain ⟨deal, ok⟩ := read
      exact .inr ((recognised_iff ok).mp (recognised deal ok))
    · exact .inl read
  · rintro (unread | allowed) deal ok
    · exact absurd ⟨deal, ok⟩ unread
    · exact (recognised_iff ok).mpr allowed

/-- The deal of a stop-out that lost two hundred and left a debt of one and a half. -/
def stopOut : ProtoOADeal where
  closePositionDetail := some { grossProfit := -20000, balance := -150, closedVolume := 100000 }

/-- A deal that leaves a debt is not recognised as a closing one, and its details are dropped. -/
theorem stop_out_not_recognised :
    ∃ deal, Deal.fromProto id ⟨some, some⟩ stopOut = .ok deal ∧ stopOut.closePositionDetail.isSome ∧
      deal.isClosingDeal = false ∧ deal.closeDetail = none :=
  ⟨_, rfl, rfl, rfl, rfl⟩

end CTrader.Models
