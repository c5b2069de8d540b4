import CTrader.MarketData.Standing
import CTrader.Models.Conversions

/-! Price ticks with their live bars, as the router makes events of them. -/

namespace CTrader.MarketData

open Models

/-- A bar of the server, with prices as differences from the low in hundred-thousandth parts. -/
structure ProtoOATrendbar where
  volume : Int64 := 0
  period : ℤ := 0
  low : Int64 := 0
  deltaOpen : UInt64 := 0
  deltaClose : UInt64 := 0
  deltaHigh : UInt64 := 0
  utcTimestampInMinutes : UInt32 := 0

/-- A price tick of the server, where a price of zero is an absent one. -/
structure ProtoOASpotEvent where
  ctidTraderAccountId : Int64 := 0
  symbolId : Int64 := 0
  bid : UInt64 := 0
  ask : UInt64 := 0
  -- The router allows for a list that is missing altogether.
  trendbar : Option (List ProtoOATrendbar) := some []
  timestamp : Int64 := 0

/-- A bar as the library hands it out. -/
structure Trendbar (δ : Type) where
  timestamp : δ
  period : TrendbarPeriod
  openPrice : ℚ
  high : ℚ
  low : ℚ
  close : ℚ
  volume : ℤ
deriving DecidableEq

/-- A price tick as the library publishes it. -/
structure SpotEvent (δ : Type) where
  accountId : ℤ
  symbolId : ℤ
  bid : Option ℚ
  ask : Option ℚ
  trendbar : List (Trendbar δ)
  timestamp : δ
deriving DecidableEq

/-- `_PERIOD_MAP`, by the numbers of `ProtoOATrendbarPeriod`. -/
def periodMap : ℤ → Option TrendbarPeriod
  | 1 => some .m1
  | 2 => some .m2
  | 3 => some .m3
  | 4 => some .m4
  | 5 => some .m5
  | 6 => some .m10
  | 7 => some .m15
  | 8 => some .m30
  | 9 => some .h1
  | 10 => some .h4
  | 11 => some .h12
  | 12 => some .d1
  | 13 => some .w1
  | 14 => some .mn1
  | _ => none

/-- An instant of a message, or the clock reading that stands in for an absent one. -/
def instant {δ : Type} (now : δ) (absent : Bool) (converted : Option δ) : Except ConversionError δ :=
  if absent then .ok now else told converted

/-- A price in units, of its hundred-thousandth parts. -/
def scaledPrice (price : ℚ) : Except ConversionError ℚ :=
  quotient price 100000

/-- A price of a tick, where zero is read as absent. -/
def quote (price : UInt64) : Except ConversionError (Option ℚ) :=
  unlessAbsent (price == 0) (scaledPrice price.toNat)

section FromProto

variable {δ : Type} (calendar : Calendar δ)

/-- `Trendbar.from_proto`, with the reading of the clock. -/
def Trendbar.fromProto (now : δ) (proto : ProtoOATrendbar) (bidPrice : Option ℚ) (historical : Bool) :
    Except ConversionError (Trendbar δ) := do
  let timestamp ← instant now (proto.utcTimestampInMinutes == 0)
    (calendar.fromTimestamp (proto.utcTimestampInMinutes.toNat * 60))
  let low := proto.low.toInt
  let openPrice := low + proto.deltaOpen.toNat
  let high := low + proto.deltaHigh.toNat
  let close ← match bidPrice with
    | some bid => .ok bid
    | none =>
      -- A missing close is refused for live bars only.
      if !historical && proto.deltaClose == 0 then
        .error (.runtimeError ("delta_close missing from Trendbar proto and no bid_price was provided "
          ++ "to use as fallback. Returning error as this is safer than silently returning an "
          ++ "incorrect close price of low + 0."))
      else .ok (low + proto.deltaClose.toNat : ℤ)
  return {
    timestamp
    period := (periodMap proto.period).getD .m1
    low := ← scaledPrice low
    openPrice := ← scaledPrice openPrice
    high := ← scaledPrice high
    close := ← scaledPrice close
    volume := proto.volume.toInt }

/-- The bars of a tick, each read with its own reading of the clock. -/
def readBars (bid : UInt64) :
    (ℕ → δ) → List ProtoOATrendbar → Except ConversionError (List (Trendbar δ))
  | _, [] => .ok []
  | now, bar :: bars => do
    let first ← Trendbar.fromProto calendar (now 0) bar (some bid.toNat) false
    let others ← readBars bid (fun reading => now (reading + 1)) bars
    return first :: others

/-- `EventRouter._handle_spot`, up to the event that it emits, with the readings of the clock. -/
def handleSpot (now : ℕ → δ) (proto : ProtoOASpotEvent) : Except ConversionError (SpotEvent δ) := do
  let trendbar ← match proto.trendbar with
    | none => .ok []
    | some bars => readBars calendar proto.bid now bars
  let bid ← quote proto.bid
  let ask ← quote proto.ask
  let timestamp ← instant (now trendbar.length) (proto.timestamp == 0)
    (calendar.timestampToDatetime proto.timestamp.toInt)
  return {
    accountId := proto.ctidTraderAccountId.toInt
    symbolId := proto.symbolId.toInt
    bid, ask, trendbar, timestamp }

end FromProto

/-- The bars of a tick. -/
def ProtoOASpotEvent.bars (proto : ProtoOASpotEvent) : List ProtoOATrendbar := proto.trendbar.getD []

/-- A price that the wire can carry, in units. -/
def units (price : ℤ) : ℚ := price / 100000

/-- A bar is read with the prices that it was sent with, and with a close that somebody quoted. -/
structure Quoted {δ : Type} (proto : ProtoOASpotEvent) (event : SpotEvent δ) (bar : ProtoOATrendbar)
    (read : Trendbar δ) : Prop where
  low : read.low = units bar.low.toInt
  openPrice : read.openPrice = units (bar.low.toInt + bar.deltaOpen.toNat)
  high : read.high = units (bar.low.toInt + bar.deltaHigh.toNat)
  close_bid : proto.bid ≠ 0 → event.bid = some read.close
  close_delta : proto.bid = 0 →
    bar.deltaClose ≠ 0 ∧ read.close = units (bar.low.toInt + bar.deltaClose.toNat)

/-- Whether the calendar has the instant that a bar names. -/
def ProtoOATrendbar.Dated {δ : Type} (calendar : Calendar δ) (bar : ProtoOATrendbar) : Prop :=
  bar.utcTimestampInMinutes ≠ 0 →
    (calendar.fromTimestamp (bar.utcTimestampInMinutes.toNat * 60)).isSome

/-- Whether the calendar has every instant that a tick names. -/
def ProtoOASpotEvent.Dated {δ : Type} (calendar : Calendar δ) (proto : ProtoOASpotEvent) : Prop :=
  (∀ bar ∈ proto.bars, bar.Dated calendar) ∧
    (proto.timestamp ≠ 0 → (calendar.timestampToDatetime proto.timestamp.toInt).isSome)

/-- A bar is read with the prices that it was sent with, but for a close at the bid. -/
structure AtBid {δ : Type} (bid : UInt64) (bar : ProtoOATrendbar) (read : Trendbar δ) : Prop where
  low : read.low = units bar.low.toInt
  openPrice : read.openPrice = units (bar.low.toInt + bar.deltaOpen.toNat)
  high : read.high = units (bar.low.toInt + bar.deltaHigh.toNat)
  close : read.close = units bid.toNat

/-- A price of few enough digits is scaled without rounding. -/
theorem scaledPrice_eq {price : ℤ} (short : |price| < 10 ^ 28) :
    scaledPrice price = .ok (units price) := by
  have exact : defaultContext.div price (10 ^ 5) = some ((price : ℚ) / 10 ^ 5) :=
    (DecimalContext.div_pow_eq_iff (by decide) (by decide) (by decide) short 5).mpr (by
      simp [defaultContext])
  norm_num at exact
  simp only [scaledPrice, quotient, exact, Option.elim_some, units]

/-- A low and a difference have few enough digits together. -/
theorem abs_low_add_delta_lt (low : Int64) (delta : UInt64) :
    |low.toInt + delta.toNat| < (10 : ℤ) ^ 28 := by
  have := low.toInt_lt
  have := low.le_toInt
  have := delta.toNat_lt
  rw [abs_lt]
  constructor <;> omega

section Reading

variable {δ : Type} {calendar : Calendar δ}

/-- An instant is told unless the calendar is asked for it and does not have it. -/
theorem instant_isOk (now : δ) {absent : Bool} {converted : Option δ} :
    (∃ told, instant now absent converted = .ok told) ↔ (absent = false → converted.isSome) := by
  cases absent <;> cases converted <;> simp [instant, told]

/-- A price of a tick is read as absent or in units. -/
theorem quote_eq (price : UInt64) :
    quote price = .ok (if price = 0 then none else some (units price.toNat)) := by
  -- An unsigned word of 64 bits has fewer than 28 digits, so the division is exact.
  have short : |(price.toNat : ℤ)| < 10 ^ 28 := by
    have := price.toNat_lt
    rw [abs_lt]
    constructor <;> omega
  have scaled := scaledPrice_eq short
  push_cast at scaled
  simp only [quote, scaled, unlessAbsent, beq_iff_eq]
  split
  all_goals rfl

/-- A bar that is given a bid is read where its instant is, with exact prices and the bid for a close. -/
theorem fromProto_eq_ok {now : δ} {bar : ProtoOATrendbar} {bid : UInt64} {read : Trendbar δ} :
    Trendbar.fromProto calendar now bar (some bid.toNat) false = .ok read ↔
      ∃ timestamp, instant now (bar.utcTimestampInMinutes == 0)
          (calendar.fromTimestamp (bar.utcTimestampInMinutes.toNat * 60)) = .ok timestamp ∧
        read = {
          timestamp
          period := (periodMap bar.period).getD .m1
          low := units bar.low.toInt
          openPrice := units (bar.low.toInt + bar.deltaOpen.toNat)
          high := units (bar.low.toInt + bar.deltaHigh.toNat)
          close := units bid.toNat
          volume := bar.volume.toInt } := by
  -- Each price is a low and an unsigned difference, and none of them has 28 digits.
  have openPrice := scaledPrice_eq (abs_low_add_delta_lt bar.low bar.deltaOpen)
  have high := scaledPrice_eq (abs_low_add_delta_lt bar.low bar.deltaHigh)
  have low := scaledPrice_eq (abs_low_add_delta_lt bar.low 0)
  have close := scaledPrice_eq (abs_low_add_delta_lt 0 bid)
  simp only [UInt64.toNat_zero, Int64.toInt_zero, Nat.cast_zero, add_zero, zero_add] at low close
  push_cast at openPrice high low close
  -- The instant is the only thing that may fail.
  cases timestamp : instant now (bar.utcTimestampInMinutes == 0)
    (calendar.fromTimestamp (bar.utcTimestampInMinutes.toNat * 60)) with
  | error error => simp [Trendbar.fromProto, timestamp, bind, Except.bind]
  | ok told =>
    simp only [Trendbar.fromProto, timestamp, bind, Except.bind, pure, Except.pure, Int.cast_add,
      Int.cast_natCast, openPrice, high, low, close, Except.ok.injEq]
    constructor
    · intro same
      exact ⟨told, rfl, same.symm⟩
    · rintro ⟨_, rfl, same⟩
      exact same.symm

/-- The bars of a tick are read one after the other. -/
theorem readBars_cons_eq_ok {bid : UInt64} {now : ℕ → δ} {bar : ProtoOATrendbar}
    {bars : List ProtoOATrendbar} {reads : List (Trendbar δ)} :
    readBars calendar bid now (bar :: bars) = .ok reads ↔
      ∃ read, Trendbar.fromProto calendar (now 0) bar (some bid.toNat) false = .ok read ∧
        ∃ rest, readBars calendar bid (fun reading => now (reading + 1)) bars = .ok rest ∧
          read :: rest = reads := by
  rw [readBars]
  simp only [bind_eq_ok_iff, pure, Except.pure, Except.ok.injEq]

/-- The bars of a tick that are read are read at its bid. -/
theorem readBars_atBid {bid : UInt64} {now : ℕ → δ} {bars : List ProtoOATrendbar}
    {reads : List (Trendbar δ)} (ok : readBars calendar bid now bars = .ok reads) :
    List.Forall₂ (AtBid bid) bars reads := by
  induction bars generalizing now reads with
  | nil =>
    cases ok
    exact .nil
  | cons bar bars ih =>
    obtain ⟨read, first, rest, others, rfl⟩ := readBars_cons_eq_ok.mp ok
    obtain ⟨_, -, rfl⟩ := fromProto_eq_ok.mp first
    -- The equation of a bar that was read names its prices.
    exact .cons ⟨rfl, rfl, rfl, rfl⟩ (ih others)

/-- A bar that is given a bid is read where its instant is. -/
theorem fromProto_isOk (now : δ) (bid : UInt64) {bar : ProtoOATrendbar} :
    (∃ read, Trendbar.fromProto calendar now bar (some bid.toNat) false = .ok read) ↔
      bar.Dated calendar := by
  -- A time of zero stands for none, which the current time replaces.
  have dated : bar.Dated calendar ↔ ((bar.utcTimestampInMinutes == 0) = false →
      (calendar.fromTimestamp (bar.utcTimestampInMinutes.toNat * 60)).isSome) := by
    simp [ProtoOATrendbar.Dated]
  rw [dated, ← instant_isOk now]
  constructor
  · rintro ⟨read, ok⟩
    obtain ⟨timestamp, told, -⟩ := fromProto_eq_ok.mp ok
    exact ⟨timestamp, told⟩
  · rintro ⟨timestamp, told⟩
    exact ⟨_, fromProto_eq_ok.mpr ⟨timestamp, told, rfl⟩⟩

/-- The bars of a tick are read where their instants are. -/
theorem readBars_isOk (bid : UInt64) (now : ℕ → δ) {bars : List ProtoOATrendbar} :
    (∃ reads, readBars calendar bid now bars = .ok reads) ↔ ∀ bar ∈ bars, bar.Dated calendar := by
  induction bars generalizing now with
  | nil => exact iff_of_true ⟨[], rfl⟩ (by simp)
  | cons bar bars ih =>
    -- The head takes the first reading of the clock, the tail those after it.
    rw [List.forall_mem_cons, ← fromProto_isOk (now 0) bid, ← ih]
    constructor
    · rintro ⟨reads, ok⟩
      obtain ⟨read, first, rest, others, -⟩ := readBars_cons_eq_ok.mp ok
      exact ⟨⟨read, first⟩, rest, others⟩
    · rintro ⟨⟨read, first⟩, rest, others⟩
      exact ⟨_, readBars_cons_eq_ok.mpr ⟨read, first, rest, others, rfl⟩⟩

/-- A tick is emitted where its bars and its instant are read, with these bars and its own quotes. -/
theorem handleSpot_eq_ok {now : ℕ → δ} {proto : ProtoOASpotEvent} {event : SpotEvent δ} :
    handleSpot calendar now proto = .ok event ↔
      ∃ reads, readBars calendar proto.bid now proto.bars = .ok reads ∧
        ∃ timestamp, instant (now reads.length) (proto.timestamp == 0)
            (calendar.timestampToDatetime proto.timestamp.toInt) = .ok timestamp ∧
          event = {
            accountId := proto.ctidTraderAccountId.toInt
            symbolId := proto.symbolId.toInt
            bid := if proto.bid = 0 then none else some (units proto.bid.toNat)
            ask := if proto.ask = 0 then none else some (units proto.ask.toNat)
            trendbar := reads
            timestamp } := by
  unfold handleSpot ProtoOASpotEvent.bars
  -- A list that is missing is read as an empty one.
  cases proto.trendbar
  all_goals
    simp only [bind_eq_ok_iff, quote_eq, Except.ok.injEq, exists_eq_left', pure, Except.pure,
      Option.getD_none, Option.getD_some, readBars, eq_comm (a := event)]

/-- An event that is emitted has the bars of its tick, read at its bid. -/
theorem handleSpot_atBid {now : ℕ → δ} {proto : ProtoOASpotEvent} {event : SpotEvent δ}
    (ok : handleSpot calendar now proto = .ok event) :
    List.Forall₂ (AtBid proto.bid) proto.bars event.trendbar ∧
      event.bid = if proto.bid = 0 then none else some (units proto.bid.toNat) := by
  obtain ⟨reads, bars, _, -, rfl⟩ := handleSpot_eq_ok.mp ok
  exact ⟨readBars_atBid bars, rfl⟩

/-- A tick is emitted where the calendar has its instants. -/
theorem handleSpot_isOk (now : ℕ → δ) {proto : ProtoOASpotEvent} :
    (∃ event, handleSpot calendar now proto = .ok event) ↔ proto.Dated calendar := by
  -- The instant of the tick is the last one read.
  have dated (reading : δ) : (proto.timestamp ≠ 0 →
        (calendar.timestampToDatetime proto.timestamp.toInt).isSome) ↔
      ∃ told, instant reading (proto.timestamp == 0)
        (calendar.timestampToDatetime proto.timestamp.toInt) = .ok told := by
    rw [instant_isOk]
    simp
  unfold ProtoOASpotEvent.Dated
  rw [← readBars_isOk proto.bid now]
  constructor
  · rintro ⟨event, ok⟩
    obtain ⟨reads, bars, timestamp, told, -⟩ := handleSpot_eq_ok.mp ok
    exact ⟨⟨reads, bars⟩, (dated _).mpr ⟨timestamp, told⟩⟩
  · rintro ⟨⟨reads, bars⟩, instants⟩
    obtain ⟨timestamp, told⟩ := (dated (now reads.length)).mp instants
    exact ⟨_, handleSpot_eq_ok.mpr ⟨reads, bars, timestamp, told, rfl⟩⟩

/-- A bar that is read at the bid is quoted where the tick has a bid, or where it names the price of zero
for its own close. -/
theorem quoted_iff_of_atBid {proto : ProtoOASpotEvent} {event : SpotEvent δ} {bar : ProtoOATrendbar}
    {read : Trendbar δ} (quoted : event.bid = if proto.bid = 0 then none else some (units proto.bid.toNat))
    (atBid : AtBid proto.bid bar read) :
    Quoted proto event bar read ↔
      proto.bid ≠ 0 ∨ bar.deltaClose ≠ 0 ∧ bar.low.toInt + bar.deltaClose.toNat = 0 := by
  by_cases absent : proto.bid = 0
  · -- The close is zero, which is the bar's own close only if that is zero as well.
    have zero : read.close = 0 := by
      rw [atBid.close, absent]
      simp [units]
    have own : units (bar.low.toInt + bar.deltaClose.toNat) = 0 ↔
        bar.low.toInt + bar.deltaClose.toNat = 0 := by
      unfold units
      rw [div_eq_zero_iff]
      norm_cast
      simp
    simp only [absent, ne_eq, not_true_eq_false, false_or]
    constructor
    · intro whole
      obtain ⟨named, close⟩ := whole.close_delta absent
      rw [zero] at close
      exact ⟨named, own.mp close.symm⟩
    · rintro ⟨named, vanishes⟩
      exact {
        low := atBid.low
        openPrice := atBid.openPrice
        high := atBid.high
        close_bid := fun present => absurd absent present
        close_delta := fun _ => ⟨named, by rw [zero, own.mpr vanishes]⟩ }
  · rw [if_neg absent] at quoted
    refine iff_of_true ?_ (.inl absent)
    exact {
      low := atBid.low
      openPrice := atBid.openPrice
      high := atBid.high
      close_bid := fun _ => by rw [quoted, atBid.close]
      close_delta := fun missing => absurd missing absent }

/-- The bars that are read at the bid are quoted under the same condition, each for itself. -/
theorem forall₂_quoted_iff {proto : ProtoOASpotEvent} {event : SpotEvent δ}
    (quoted : event.bid = if proto.bid = 0 then none else some (units proto.bid.toNat))
    {bars : List ProtoOATrendbar} {reads : List (Trendbar δ)}
    (atBid : List.Forall₂ (AtBid proto.bid) bars reads) :
    List.Forall₂ (Quoted proto event) bars reads ↔
      ∀ bar ∈ bars,
        proto.bid ≠ 0 ∨ bar.deltaClose ≠ 0 ∧ bar.low.toInt + bar.deltaClose.toNat = 0 := by
  -- Bar by bar; the quote of one is independent of the others.
  induction atBid with
  | nil => simp
  | cons first _ ih =>
    rw [List.forall₂_cons, List.forall_mem_cons, quoted_iff_of_atBid quoted first, ih]

end Reading

/-- The bars of a tick are emitted with closes that somebody quoted exactly when the tick has a bid,
when an instant keeps the tick from being emitted, or when every bar names a close of its own that is
the price of zero. -/
theorem bars_quoted_iff {δ : Type} (calendar : Calendar δ) (now : ℕ → δ) (proto : ProtoOASpotEvent) :
    (∀ event, handleSpot calendar now proto = .ok event →
        List.Forall₂ (Quoted proto event) proto.bars event.trendbar) ↔
      proto.bid ≠ 0 ∨ ¬ proto.Dated calendar ∨
        ∀ bar ∈ proto.bars, bar.deltaClose ≠ 0 ∧ bar.low.toInt + bar.deltaClose.toNat = 0 := by
  rw [← handleSpot_isOk now]
  constructor
  · intro quoted
    -- If no event is emitted there is nothing to quote, and the tick is not dated.
    by_cases emitted : ∃ event, handleSpot calendar now proto = .ok event
    · obtain ⟨event, ok⟩ := emitted
      obtain ⟨atBid, bid⟩ := handleSpot_atBid ok
      have each := (forall₂_quoted_iff bid atBid).mp (quoted event ok)
      by_cases absent : proto.bid = 0
      · exact .inr (.inr fun bar member => (each bar member).resolve_left (not_not.mpr absent))
      · exact .inl absent
    · exact .inr (.inl emitted)
  · intro allowed event ok
    obtain ⟨atBid, bid⟩ := handleSpot_atBid ok
    refine (forall₂_quoted_iff bid atBid).mpr fun bar member => ?_
    rcases allowed with present | kept | own
    · exact .inl present
    · exact absurd ⟨event, ok⟩ kept
    · exact .inr (own bar member)

/-- A tick that quotes an ask only, with the bar of the current minute. -/
def askOnly : ProtoOASpotEvent where
  ask := 110020
  trendbar := some [{ period := 1, low := 110000, deltaOpen := 5, deltaClose := 10, deltaHigh := 30 }]

/-- The bar of a tick without a bid is emitted with a close of zero, below its low. -/
theorem ask_only_closes_at_zero :
    ∃ event, handleSpot ⟨some, some⟩ (fun _ => 7) askOnly = .ok event ∧ event.bid = none ∧
      event.trendbar.map (fun bar => (bar.low, bar.close)) = [(11 / 10, 0)] := by
  -- The bid is absent, and `Decimal(proto.bid)` is passed as zero all the same.
  refine ⟨{
    accountId := 0
    symbolId := 0
    bid := none
    ask := some (11002 / 10000)
    trendbar := [⟨7, .m1, 110005 / 100000, 110030 / 100000, 11 / 10, 0, 0⟩]
    timestamp := 7 }, ?_, rfl, rfl⟩
  decide +kernel

end CTrader.MarketData
