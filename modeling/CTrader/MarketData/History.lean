import CTrader.MarketData.Spot

/-! Historical bars, which the server sends as differences from their lows. -/

namespace CTrader.MarketData

open Models

/-- `_PERIOD_TO_PROTO`, to the numbers of `ProtoOATrendbarPeriod`. -/
def periodToProto : TrendbarPeriod → ℤ
  | .m1 => 1
  | .m2 => 2
  | .m3 => 3
  | .m4 => 4
  | .m5 => 5
  | .m10 => 6
  | .m15 => 7
  | .m30 => 8
  | .h1 => 9
  | .h4 => 10
  | .h12 => 11
  | .d1 => 12
  | .w1 => 13
  | .mn1 => 14

/-- The request for the bars of a time range. -/
structure ProtoOAGetTrendbarsReq where
  ctidTraderAccountId : ℤ
  symbolId : ℤ
  period : ℤ
  fromTimestamp : ℤ
  toTimestamp : ℤ

section Reading

variable {δ : Type} (calendar : Calendar δ)

/-- The request of `MarketDataAPI.get_trendbars`, with what the standard library makes of an instant in
milliseconds. -/
def trendbarsRequest (millis : δ → ℤ) (accountId symbolId : ℤ) (period : TrendbarPeriod)
    (fromTimestamp toTimestamp : δ) : ProtoOAGetTrendbarsReq where
  ctidTraderAccountId := accountId
  symbolId := symbolId
  period := periodToProto period
  fromTimestamp := millis fromTimestamp
  toTimestamp := millis toTimestamp

/-- What `MarketDataAPI.get_trendbars` makes of the bars of a response, each read with its own reading of
the clock. -/
def readHistory : (ℕ → δ) → List ProtoOATrendbar → Except ConversionError (List (Trendbar δ))
  | _, [] => .ok []
  | now, bar :: bars => do
    let first ← Trendbar.fromProto calendar (now 0) bar none true
    let others ← readHistory (fun reading => now (reading + 1)) bars
    return first :: others

end Reading

/-- A bar as it was traded, in hundred-thousandth parts of a unit, with prices between its low and its
high that the wire has room for. -/
structure TradedBar where
  minutes : UInt32
  period : TrendbarPeriod
  low : Int64
  openPrice : ℤ
  high : ℤ
  close : ℤ
  volume : Int64
  named : minutes ≠ 0
  low_le_open : low.toInt ≤ openPrice
  open_le_high : openPrice ≤ high
  low_le_close : low.toInt ≤ close
  close_le_high : close ≤ high
  room : high - low.toInt < 2 ^ 64

namespace TradedBar

/-- A price as the difference from the low. -/
def delta (bar : TradedBar) (price : ℤ) : UInt64 := UInt64.ofNat (price - bar.low.toInt).toNat

/-- The bar as the server sends it. -/
def encode (bar : TradedBar) : ProtoOATrendbar where
  volume := bar.volume
  period := periodToProto bar.period
  low := bar.low
  deltaOpen := bar.delta bar.openPrice
  deltaClose := bar.delta bar.close
  deltaHigh := bar.delta bar.high
  utcTimestampInMinutes := bar.minutes

/-- The bar as the library ought to hand it out. -/
def told {δ : Type} (bar : TradedBar) (timestamp : δ) : Trendbar δ where
  timestamp := timestamp
  period := bar.period
  openPrice := units bar.openPrice
  high := units bar.high
  low := units bar.low.toInt
  close := units bar.close
  volume := bar.volume.toInt

end TradedBar

/-- A message that names its minute and its period, and whose prices are between its low and its high. -/
structure ProtoOATrendbar.Proper (bar : ProtoOATrendbar) : Prop where
  named : bar.utcTimestampInMinutes ≠ 0
  period : (periodMap bar.period).isSome
  open_le_high : bar.deltaOpen ≤ bar.deltaHigh
  close_le_high : bar.deltaClose ≤ bar.deltaHigh

/-- A period is read as it was sent. -/
theorem periodMap_periodToProto (period : TrendbarPeriod) :
    periodMap (periodToProto period) = some period := by
  cases period <;> rfl

/-- What is read as a period was sent for it. -/
theorem periodToProto_of_periodMap {number : ℤ} {period : TrendbarPeriod}
    (known : periodMap number = some period) : periodToProto period = number := by
  unfold periodMap at known
  split at known <;> cases known <;> rfl

section Bars

variable {δ : Type} {calendar : Calendar δ}

/-- The low and the difference from it make the price. -/
theorem TradedBar.low_add_delta (bar : TradedBar) {price : ℤ} (above : bar.low.toInt ≤ price)
    (below : price ≤ bar.high) : bar.low.toInt + (bar.delta price).toNat = price := by
  have room := bar.room
  have fits : (price - bar.low.toInt).toNat < 2 ^ 64 := by omega
  rw [TradedBar.delta, UInt64.toNat_ofNat_of_lt' fits]
  omega

/-- A historical bar is read where its instant is, with exact prices and its own close, be it zero above
the low. -/
theorem fromProto_historical {now : δ} {bar : ProtoOATrendbar} {read : Trendbar δ} :
    Trendbar.fromProto calendar now bar none true = .ok read ↔
      ∃ timestamp, instant now (bar.utcTimestampInMinutes == 0)
          (calendar.fromTimestamp (bar.utcTimestampInMinutes.toNat * 60)) = .ok timestamp ∧
        read = {
          timestamp
          period := (periodMap bar.period).getD .m1
          low := units bar.low.toInt
          openPrice := units (bar.low.toInt + bar.deltaOpen.toNat : ℤ)
          high := units (bar.low.toInt + bar.deltaHigh.toNat : ℤ)
          close := units (bar.low.toInt + bar.deltaClose.toNat : ℤ)
          volume := bar.volume.toInt } := by
  -- A low and an unsigned difference stay below 28 digits, so the three sums are exact.
  have openPrice := scaledPrice_eq (abs_low_add_delta_lt bar.low bar.deltaOpen)
  have high := scaledPrice_eq (abs_low_add_delta_lt bar.low bar.deltaHigh)
  have close := scaledPrice_eq (abs_low_add_delta_lt bar.low bar.deltaClose)
  have low := scaledPrice_eq (abs_low_add_delta_lt bar.low 0)
  simp only [UInt64.toNat_zero, Nat.cast_zero, add_zero] at low
  simp only [Trendbar.fromProto, Bool.not_true, Bool.false_and, Bool.false_eq_true, if_false,
    bind_eq_ok_iff, pure, Except.pure, openPrice, high, low, close, Except.ok.injEq, exists_eq_left']
  constructor
  · rintro ⟨timestamp, told, same⟩
    exact ⟨timestamp, told, same.symm⟩
  · rintro ⟨timestamp, told, same⟩
    exact ⟨timestamp, told, same.symm⟩

/-- A bar is read as it was traded, at its instant. -/
theorem fromProto_encode {now : δ} {bar : TradedBar} {read : Trendbar δ} :
    Trendbar.fromProto calendar now bar.encode none true = .ok read ↔
      ∃ timestamp, calendar.fromTimestamp (bar.minutes.toNat * 60) = some timestamp ∧
        read = bar.told timestamp := by
  -- Encoded as differences from the low, the prices are found again by adding it.
  have openPrice := bar.low_add_delta bar.low_le_open bar.open_le_high
  have close := bar.low_add_delta bar.low_le_close bar.close_le_high
  have high := bar.low_add_delta (bar.low_le_open.trans bar.open_le_high) le_rfl
  have present :
      (bar.encode.utcTimestampInMinutes == 0) = false := by simpa [TradedBar.encode] using bar.named
  rw [fromProto_historical, present]
  simp only [TradedBar.encode, TradedBar.told, openPrice, close, high, periodMap_periodToProto,
    Option.getD_some, instant, told, Bool.false_eq_true, if_false]
  cases calendar.fromTimestamp (bar.minutes.toNat * 60) <;> simp

/-- The bars of a response are read one after the other. -/
theorem readHistory_cons_eq_ok {now : ℕ → δ} {bar : ProtoOATrendbar} {bars : List ProtoOATrendbar}
    {reads : List (Trendbar δ)} :
    readHistory calendar now (bar :: bars) = .ok reads ↔
      ∃ read, Trendbar.fromProto calendar (now 0) bar none true = .ok read ∧
        ∃ rest, readHistory calendar (fun reading => now (reading + 1)) bars = .ok rest ∧
          read :: rest = reads := by
  rw [readHistory]
  simp only [bind_eq_ok_iff, pure, Except.pure, Except.ok.injEq]

/-- A proper message is that of a bar that was traded. -/
theorem ProtoOATrendbar.Proper.exists_encode {bar : ProtoOATrendbar} (proper : bar.Proper) :
    ∃ traded : TradedBar, traded.encode = bar := by
  -- The prices of the bar are its low plus the differences.
  obtain ⟨period, known⟩ := Option.isSome_iff_exists.mp proper.period
  have opens := UInt64.le_iff_toNat_le.mp proper.open_le_high
  have closes := UInt64.le_iff_toNat_le.mp proper.close_le_high
  have room := bar.deltaHigh.toNat_lt
  refine ⟨{
    minutes := bar.utcTimestampInMinutes
    period
    low := bar.low
    openPrice := bar.low.toInt + bar.deltaOpen.toNat
    high := bar.low.toInt + bar.deltaHigh.toNat
    close := bar.low.toInt + bar.deltaClose.toNat
    volume := bar.volume
    named := proper.named
    low_le_open := by omega
    open_le_high := by omega
    low_le_close := by omega
    close_le_high := by omega
    room := by omega }, ?_⟩
  -- Taking the low off again leaves each difference as it was.
  have same (delta : UInt64) : UInt64.ofNat (bar.low.toInt + delta.toNat - bar.low.toInt).toNat = delta := by
    rw [show (bar.low.toInt + delta.toNat - bar.low.toInt).toNat = delta.toNat by omega]
    exact UInt64.ofNat_toNat
  simp only [TradedBar.encode, TradedBar.delta, same, periodToProto_of_periodMap known]

end Bars

/-- Historical bars are asked for by the number of their period, and read exactly as they were traded, in
their order, wherever the calendar has their minutes; and every response of proper messages is one of such
bars. -/
theorem history_as_traded {δ : Type} (calendar : Calendar δ) :
    (∀ millis accountId symbolId period (fromTimestamp toTimestamp : δ),
      periodMap (trendbarsRequest millis accountId symbolId period fromTimestamp toTimestamp).period =
        some period) ∧
    (∀ (bars : List TradedBar) (now : ℕ → δ) reads,
      readHistory calendar now (bars.map TradedBar.encode) = .ok reads ↔
        List.Forall₂ (fun bar read => ∃ timestamp,
          calendar.fromTimestamp (bar.minutes.toNat * 60) = some timestamp ∧ read = bar.told timestamp)
          bars reads) ∧
      ∀ response : List ProtoOATrendbar, (∀ bar ∈ response, bar.Proper) →
        ∃ bars : List TradedBar, bars.map TradedBar.encode = response := by
  refine ⟨fun _ _ _ period _ _ => periodMap_periodToProto period, ?_, ?_⟩
  · -- The bars are read one by one, at successive readings of the clock.
    intro bars
    induction bars with
    | nil =>
      intro now reads
      rw [List.map_nil, readHistory, List.forall₂_nil_left_iff, Except.ok.injEq, eq_comm]
    | cons bar bars ih =>
      intro now reads
      rw [List.map_cons, readHistory_cons_eq_ok, List.forall₂_cons_left_iff]
      simp only [fromProto_encode, ih]
      constructor
      · rintro ⟨read, first, rest, others, same⟩
        exact ⟨read, rest, first, others, same.symm⟩
      · rintro ⟨read, rest, first, others, same⟩
        exact ⟨read, first, rest, others, same.symm⟩
  · -- Bar by bar, a proper response is the encoding of what was traded.
    intro response proper
    induction response with
    | nil => exact ⟨[], rfl⟩
    | cons bar response ih =>
      rw [List.forall_mem_cons] at proper
      obtain ⟨first, same⟩ := proper.1.exists_encode
      obtain ⟨others, rest⟩ := ih proper.2
      exact ⟨first :: others, by rw [List.map_cons, same, rest]⟩

end CTrader.MarketData
