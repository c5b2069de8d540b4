import CTrader.Models.Position

/-! Trading accounts as the server sends them, and the amounts of money that the library reports. -/

namespace CTrader.Models

/-- The type of an account. -/
inductive AccountType
  | hedged
  | netted
  | spreadBetting
deriving DecidableEq, Repr

/-- What may be done with an account. -/
inductive AccessRights
  | fullAccess
  | closeOnly
  | noTrading
  | noLogin
deriving DecidableEq, Repr

/-- `_ACCOUNT_TYPE_MAP`, by the numbers of `ProtoOAAccountType`. -/
def accountTypeMap : ℤ → Option AccountType
  | 0 => some .hedged
  | 1 => some .netted
  | 2 => some .spreadBetting
  | _ => none

/-- `_ACCESS_RIGHTS_MAP`, by the numbers of `ProtoOAAccessRights`. -/
def accessRightsMap : ℤ → Option AccessRights
  | 0 => some .fullAccess
  | 1 => some .closeOnly
  | 2 => some .noTrading
  | 3 => some .noLogin
  | _ => none

/-- An account of the server, with absent fields at their protobuf defaults. -/
structure ProtoOATrader where
  ctidTraderAccountId : ℤ := 0
  balance : Int64 := 0
  balanceVersion : ℤ := 0
  managerBonus : Int64 := 0
  ibBonus : Int64 := 0
  nonWithdrawableBonus : Int64 := 0
  accessRights : ℤ := 0
  depositAssetId : ℤ := 0
  swapFree : Bool := false
  leverageInCents : UInt32 := 0
  maxLeverage : UInt32 := 0
  traderLogin : ℤ := 0
  accountType : ℤ := 0
  brokerName : String := ""
  registrationTimestamp : ℤ := 0
  isLimitedRisk : Bool := false
  moneyDigits : UInt32 := 0

/-- An account as the library hands it out. -/
structure Account (δ : Type) where
  accountId : ℤ
  traderLogin : ℤ
  balance : ℚ
  leverageInCents : ℕ
  accountType : AccountType
  accessRights : AccessRights
  brokerName : String
  depositAssetId : ℤ
  swapFree : Bool
  isLimitedRisk : Bool
  registrationTimestamp : Option δ
  maxLeverage : Option ℕ
  balanceVersion : Option ℤ
  managerBonus : Option ℚ
  ibBonus : Option ℚ
  nonWithdrawableBonus : Option ℚ

/-- `Account.get_leverage`. -/
def Account.getLeverage {δ : Type} (account : Account δ) : String :=
  let leverage := account.leverageInCents / 100
  s!"1:{leverage}"

/-- An amount of money that is absent where it is zero. -/
def presentMoney (amount : Int64) (moneyDigits : UInt32) : Except ConversionError (Option ℚ) :=
  unlessAbsent (amount == 0) (money amount moneyDigits)

/-- `Account.from_proto`. -/
def Account.fromProto {δ : Type} (calendar : Calendar δ) (proto : ProtoOATrader) :
    Except ConversionError (Account δ) := do
  let balance ← money proto.balance proto.moneyDigits
  let registrationTimestamp ← instantField calendar proto.registrationTimestamp
  let managerBonus ← presentMoney proto.managerBonus proto.moneyDigits
  let ibBonus ← presentMoney proto.ibBonus proto.moneyDigits
  let nonWithdrawableBonus ← presentMoney proto.nonWithdrawableBonus proto.moneyDigits
  return {
    accountId := proto.ctidTraderAccountId
    traderLogin := proto.traderLogin
    balance
    leverageInCents := proto.leverageInCents.toNat
    -- An unknown type or access right falls back to the first one.
    accountType := (accountTypeMap proto.accountType).getD .hedged
    accessRights := (accessRightsMap proto.accessRights).getD .fullAccess
    brokerName := proto.brokerName
    depositAssetId := proto.depositAssetId
    swapFree := proto.swapFree
    isLimitedRisk := proto.isLimitedRisk
    registrationTimestamp
    -- These three are optional by their value: zero means absent.
    maxLeverage := if proto.maxLeverage = 0 then none else some proto.maxLeverage.toNat
    balanceVersion := presentInt proto.balanceVersion
    managerBonus, ibBonus, nonWithdrawableBonus }

/-- The unrealized profit or loss of a position, as the server sends it. -/
structure ProtoOAPositionUnrealizedPnL where
  positionId : ℤ := 0
  grossUnrealizedPnL : Int64 := 0
  netUnrealizedPnL : Int64 := 0

/-- The response with what the open positions come to. -/
structure ProtoOAGetPositionUnrealizedPnLRes where
  positionUnrealizedPnL : List ProtoOAPositionUnrealizedPnL := []
  moneyDigits : UInt32 := 0

/-- The unrealized profit or loss of a position, as the library hands it out. -/
structure PositionUnrealizedPnL where
  positionId : ℤ
  grossUnrealizedPnl : ℚ
  netUnrealizedPnl : ℚ

/-- What one position comes to. -/
def PositionUnrealizedPnL.fromProto (moneyDigits : UInt32) (proto : ProtoOAPositionUnrealizedPnL) :
    Except ConversionError PositionUnrealizedPnL := do
  let grossUnrealizedPnl ← money proto.grossUnrealizedPnL moneyDigits
  let netUnrealizedPnl ← money proto.netUnrealizedPnL moneyDigits
  return { positionId := proto.positionId, grossUnrealizedPnl, netUnrealizedPnl }

/-- What `TradingAPI.get_unrealized_pnl_per_position` makes of its response. -/
def getUnrealizedPnlPerPosition (response : ProtoOAGetPositionUnrealizedPnLRes) :
    Except ConversionError (List PositionUnrealizedPnL) :=
  response.positionUnrealizedPnL.mapM (PositionUnrealizedPnL.fromProto response.moneyDigits)

/-- The amounts of an account, in the order of its fields. -/
def ProtoOATrader.amounts (proto : ProtoOATrader) : List ℤ :=
  [proto.balance.toInt, proto.managerBonus.toInt, proto.ibBonus.toInt, proto.nonWithdrawableBonus.toInt]

/-- The amounts that an account is reported with, where an absent one is zero. -/
def Account.amounts {δ : Type} (account : Account δ) : List ℚ :=
  [account.balance, account.managerBonus.getD 0, account.ibBonus.getD 0,
    account.nonWithdrawableBonus.getD 0]

/-- The amounts of an account that are absent where they are zero. -/
def ProtoOATrader.bonuses (proto : ProtoOATrader) : List Int64 :=
  [proto.managerBonus, proto.ibBonus, proto.nonWithdrawableBonus]

/-- The amounts that an account may be reported without. -/
def Account.bonuses {δ : Type} (account : Account δ) : List (Option ℚ) :=
  [account.managerBonus, account.ibBonus, account.nonWithdrawableBonus]

/-- The amounts of a position, in the order of its fields. -/
def ProtoOAPosition.amounts (proto : ProtoOAPosition) : List ℤ :=
  [proto.swap.toInt, proto.commission.toInt, proto.usedMargin.toNat]

/-- The amounts that a position is reported with. -/
def Position.amounts {δ : Type} (position : Position δ) : List ℚ :=
  [position.swap, position.commission, position.usedMargin]

/-- The amounts of all open positions, one position after the other. -/
def ProtoOAGetPositionUnrealizedPnLRes.amounts (response : ProtoOAGetPositionUnrealizedPnLRes) :
    List ℤ :=
  response.positionUnrealizedPnL.flatMap fun proto =>
    [proto.grossUnrealizedPnL.toInt, proto.netUnrealizedPnL.toInt]

/-- The amounts that the open positions are reported with. -/
def reportedAmounts (reads : List PositionUnrealizedPnL) : List ℚ :=
  reads.flatMap fun read => [read.grossUnrealizedPnl, read.netUnrealizedPnl]

/-- Amounts are reported as the server's own, of which so many digits stand behind the point. -/
def AmountsKept (moneyDigits : UInt32) (amounts : List ℤ) (reads : List ℚ) : Prop :=
  reads = amounts.map fun amount : ℤ => (amount : ℚ) / moneyDivisor moneyDigits

/-- No digit that is not zero stands too far behind the point for a decimal. -/
def AllFit (moneyDigits : UInt32) (amounts : List ℤ) : Prop :=
  ∀ amount ∈ amounts, 10 ^ (moneyExponent moneyDigits - 1000026) ∣ amount

section Amounts

variable {moneyDigits : UInt32} {amount : Int64}

/-- One more amount is reported as it is, and so are the others. -/
theorem amountsKept_cons {value : ℤ} {read : ℚ} {amounts : List ℤ} {reads : List ℚ} :
    AmountsKept moneyDigits (value :: amounts) (read :: reads) ↔
      read = value / moneyDivisor moneyDigits ∧ AmountsKept moneyDigits amounts reads := by
  rw [AmountsKept, AmountsKept, List.map_cons, List.cons.injEq]

/-- One more amount fits, and so do the others. -/
theorem allFit_cons {value : ℤ} {amounts : List ℤ} :
    AllFit moneyDigits (value :: amounts) ↔
      10 ^ (moneyExponent moneyDigits - 1000026) ∣ value ∧ AllFit moneyDigits amounts :=
  List.forall_mem_cons

/-- No amount at all is reported as it is, and fits. -/
theorem amountsKept_nil_iff : AmountsKept moneyDigits [] [] ↔ AllFit moneyDigits [] :=
  iff_of_true rfl (by simp [AllFit])

/-- An amount that was read as zero where it is absent is the server's own where it fits. -/
theorem optionalMoney_eq_ok_iff {read : ℚ} (ok : optionalMoney amount moneyDigits = .ok read) :
    read = amount.toInt / moneyDivisor moneyDigits ↔
      10 ^ (moneyExponent moneyDigits - 1000026) ∣ amount.toInt := by
  unfold optionalMoney at ok
  split at ok
  · rename_i zero
    cases ok
    simp [zero]
  · exact money_eq_ok_iff ok

/-- An amount that is absent where it is zero is the server's own where it fits. -/
theorem presentMoney_eq_ok_iff {field : Option ℚ} (ok : presentMoney amount moneyDigits = .ok field) :
    field.getD 0 = amount.toInt / moneyDivisor moneyDigits ↔
      10 ^ (moneyExponent moneyDigits - 1000026) ∣ amount.toInt := by
  -- A zero amount is read as absent, and stands for the zero it was.
  by_cases zero : amount = 0
  · subst zero
    cases ok
    simp
  · rw [presentMoney, beq_false_of_ne zero, unlessAbsent] at ok
    cases converted : money amount moneyDigits with
    | error error => rw [converted] at ok; cases ok
    | ok read =>
      rw [converted] at ok
      cases ok
      exact money_eq_ok_iff converted

/-- An amount is absent exactly where it is zero. -/
theorem isNone_presentMoney {field : Option ℚ} (ok : presentMoney amount moneyDigits = .ok field) :
    field.isNone = (amount == 0) := by
  unfold presentMoney unlessAbsent at ok
  split at ok
  · rename_i zero
    cases ok
    exact zero.symm
  · rename_i present
    -- An amount that is there is converted, and what it comes to is there too.
    cases converted : money amount moneyDigits with
    | error error => rw [converted] at ok; cases ok
    | ok read =>
      rw [converted] at ok
      cases ok
      simpa using present

/-- A margin is the server's own where it fits. -/
theorem margin_eq_ok_iff {usedMargin : UInt64} {read : ℚ} (ok : margin usedMargin moneyDigits = .ok read) :
    read = (usedMargin.toNat : ℤ) / moneyDivisor moneyDigits ↔
      10 ^ (moneyExponent moneyDigits - 1000026) ∣ (usedMargin.toNat : ℤ) := by
  unfold margin at ok
  split at ok
  · -- No margin is reported as zero, as the source has it.
    rename_i zero
    cases ok
    simp [zero]
  · obtain ⟨scaled, converted, exact⟩ := scaled_isOk (abs_toNat_lt usedMargin) moneyDigits
    rw [Int.cast_natCast] at converted
    rw [converted] at ok
    cases ok
    exact exact

/-- What the open positions come to is always converted. -/
theorem getUnrealizedPnlPerPosition_isOk (response : ProtoOAGetPositionUnrealizedPnLRes) :
    ∃ reads, getUnrealizedPnlPerPosition response = .ok reads := by
  refine mapM_isOk.mpr fun proto _ => ?_
  obtain ⟨gross, earned⟩ := money_isOk proto.grossUnrealizedPnL response.moneyDigits
  obtain ⟨net, left⟩ := money_isOk proto.netUnrealizedPnL response.moneyDigits
  exact ⟨⟨proto.positionId, gross, net⟩, by rw [PositionUnrealizedPnL.fromProto, earned, left]; rfl⟩

/-- The amounts of the open positions that are read are the server's own where they fit. -/
theorem unrealizedPnl_kept_iff {protos : List ProtoOAPositionUnrealizedPnL}
    {reads : List PositionUnrealizedPnL}
    (ok : protos.mapM (PositionUnrealizedPnL.fromProto moneyDigits) = .ok reads) :
    AmountsKept moneyDigits
        (protos.flatMap fun proto => [proto.grossUnrealizedPnL.toInt, proto.netUnrealizedPnL.toInt])
        (reportedAmounts reads) ↔
      AllFit moneyDigits
        (protos.flatMap fun proto => [proto.grossUnrealizedPnL.toInt, proto.netUnrealizedPnL.toInt]) := by
  -- The induction is on the positions, in the order in which they are read.
  induction protos generalizing reads with
  | nil =>
    cases ok
    exact amountsKept_nil_iff
  | cons proto protos ih =>
    simp only [List.mapM_cons, PositionUnrealizedPnL.fromProto, bind_eq_ok_iff, pure, Except.pure,
      Except.ok.injEq] at ok
    obtain ⟨_, ⟨gross, earned, net, left, rfl⟩, others, rest, rfl⟩ := ok
    simp only [List.flatMap_cons, reportedAmounts, List.cons_append, List.nil_append, amountsKept_cons,
      allFit_cons]
    rw [money_eq_ok_iff earned, money_eq_ok_iff left]
    exact and_congr Iff.rfl (and_congr Iff.rfl (ih rest))

end Amounts

/-- Whatever the library reports of the money of an account, of a position and of the open positions is
the server's own amounts exactly where these fit into decimals, and is absent exactly where it may be
and they are zero. -/
theorem amounts_kept_iff {δ : Type} (decimalStr : ℚ → ℚ) (calendar : Calendar δ) (now : δ) :
    (∀ proto account, Account.fromProto calendar proto = .ok account →
      account.bonuses.map Option.isNone = proto.bonuses.map (· == 0) ∧
      (AmountsKept proto.moneyDigits proto.amounts account.amounts ↔
        AllFit proto.moneyDigits proto.amounts)) ∧
    (∀ proto position, Position.fromProto decimalStr calendar now proto = .ok position →
      (AmountsKept proto.moneyDigits proto.amounts position.amounts ↔
        AllFit proto.moneyDigits proto.amounts)) ∧
    ∀ response, ∃ reads, getUnrealizedPnlPerPosition response = .ok reads ∧
      (AmountsKept response.moneyDigits response.amounts (reportedAmounts reads) ↔
        AllFit response.moneyDigits response.amounts) := by
  refine ⟨fun proto account read => ?_, fun proto position read => ?_, fun response => ?_⟩
  · -- The balance is always there, the three bonuses only where they are not zero.
    simp only [Account.fromProto, bind_eq_ok_iff, pure, Except.pure, Except.ok.injEq] at read
    obtain ⟨_, left, _, -, _, manager, _, broker, _, held, rfl⟩ := read
    refine ⟨?_, ?_⟩
    · simp only [ProtoOATrader.bonuses, Account.bonuses, List.map_cons, List.map_nil]
      rw [isNone_presentMoney manager, isNone_presentMoney broker, isNone_presentMoney held]
    simp only [ProtoOATrader.amounts, Account.amounts, amountsKept_cons, allFit_cons]
    rw [money_eq_ok_iff left, presentMoney_eq_ok_iff manager, presentMoney_eq_ok_iff broker,
      presentMoney_eq_ok_iff held, amountsKept_nil_iff]
    rfl
  · -- A position has two optional amounts and its margin.
    simp only [Position.fromProto, bind_eq_ok_iff, pure, Except.pure, Except.ok.injEq] at read
    obtain ⟨_, -, _, swapped, _, charged, _, allocated, _, -, _, -, _, -, _, -, _, -, _, -, rfl⟩ := read
    simp only [ProtoOAPosition.amounts, Position.amounts, amountsKept_cons, allFit_cons]
    rw [optionalMoney_eq_ok_iff swapped, optionalMoney_eq_ok_iff charged, margin_eq_ok_iff allocated,
      amountsKept_nil_iff]
  · -- The response is a list, and each of its profits is read by the one divisor.
    obtain ⟨reads, ok⟩ := getUnrealizedPnlPerPosition_isOk response
    exact ⟨reads, ok, unrealizedPnl_kept_iff ok⟩

end CTrader.Models
