import CTrader.Lib.Delta
import CTrader.MarketData.Spot

/-! Historical ticks, which the server sends as differences of neighbours. -/

namespace CTrader.MarketData

open Models Delta

/-- A tick as the server sends it, against its predecessor unless it is the first. -/
structure ProtoOATickData where
  timestamp : ℤ
  tick : ℤ
deriving DecidableEq

/-- A tick as the library hands it out. -/
structure TickData (δ : Type) where
  timestamp : δ
  price : ℚ
deriving DecidableEq

section FromProto

variable {δ : Type} (calendar : Calendar δ)

/-- A tick of a timestamp in milliseconds and a price in hundred-thousandth parts. -/
def TickData.of (timestamp price : ℤ) : Except ConversionError (TickData δ) := do
  let timestamp ← told (calendar.timestampToDatetime timestamp)
  let price ← scaledPrice price
  return { timestamp, price }

/-- The loop over the messages, with the timestamp and the price that they have led to. -/
def accumulate (currentTimestamp currentPrice : ℤ) :
    List ProtoOATickData → Except ConversionError (List (TickData δ))
  | [] => .ok []
  | proto :: protos => do
    let currentTimestamp := currentTimestamp + proto.timestamp
    let currentPrice := currentPrice + proto.tick
    let tick ← TickData.of calendar currentTimestamp currentPrice
    let ticks ← accumulate currentTimestamp currentPrice protos
    return tick :: ticks

/-- `TickData.from_proto_list`. -/
def TickData.fromProtoList (protos : List ProtoOATickData) :
    Except ConversionError (List (TickData δ)) :=
  if protos.isEmpty then .ok [] else accumulate calendar 0 0 protos

end FromProto

/-- The integers of a tick: its timestamp in milliseconds, and its price in hundred-thousandth parts. -/
abbrev Tick := ℤ × ℤ

/-- What a message adds to the tick before it. -/
def ProtoOATickData.delta (proto : ProtoOATickData) : Tick := (proto.timestamp, proto.tick)

/-- The message that adds a delta. -/
def ProtoOATickData.ofDelta (delta : Tick) : ProtoOATickData := ⟨delta.1, delta.2⟩

/-- The first tick as it is, and every other one against its predecessor. -/
def encode : List Tick → List ProtoOATickData
  | [] => []
  | first :: rest => .ofDelta first :: (differences first rest).map .ofDelta

section Decoding

variable {δ : Type} (calendar : Calendar δ) (epoch : δ → ℤ)

/-- A price has at most 28 digits, and the datetime of a timestamp denotes its instant. -/
structure Readable (tick : Tick) : Prop where
  short : |tick.2| < 10 ^ 28
  dated : ∃ instant, calendar.timestampToDatetime tick.1 = some instant ∧ epoch instant = tick.1

/-- A tick is handed out with its exact price and its original instant. -/
structure Decodes (tick : Tick) (data : TickData δ) : Prop where
  price : data.price = tick.2 / 100000
  timestamp : epoch data.timestamp = tick.1

/-- The integers that a tick was handed out from. -/
def TickData.integers (data : TickData δ) : Tick := (epoch data.timestamp, ⌊data.price * 100000⌋)

variable {calendar epoch}

/-- A tick that is readable is read as it is. -/
theorem TickData.of_readable {tick : Tick} (readable : Readable calendar epoch tick) :
    ∃ data, TickData.of calendar tick.1 tick.2 = .ok data ∧ Decodes epoch tick data := by
  obtain ⟨instant, found, original⟩ := readable.dated
  refine ⟨⟨instant, tick.2 / 100000⟩, ?_, rfl, original⟩
  -- The division is exact, as the price fits the decimal context.
  simp only [TickData.of, found, told, Option.elim_some, scaledPrice_eq readable.short, units, bind,
    Except.bind, pure, Except.pure]

/-- The loop hands out the running sums of the messages, from wherever it stands. -/
theorem accumulate_ok {currentTimestamp currentPrice : ℤ} {protos : List ProtoOATickData}
    (readable : ∀ tick ∈ runningSums (currentTimestamp, currentPrice)
      (protos.map ProtoOATickData.delta), Readable calendar epoch tick) :
    ∃ result, accumulate calendar currentTimestamp currentPrice protos = .ok result ∧
      List.Forall₂ (Decodes epoch)
        (runningSums (currentTimestamp, currentPrice) (protos.map ProtoOATickData.delta)) result := by
  induction protos generalizing currentTimestamp currentPrice with
  | nil => exact ⟨[], rfl, .nil⟩
  | cons proto protos ih =>
    rw [List.map_cons, runningSums] at readable ⊢
    rw [List.forall_mem_cons] at readable
    -- Both accumulators move on by the message, and the rest is read from where they are then.
    obtain ⟨data, first, decodes⟩ := TickData.of_readable readable.1
    obtain ⟨rest, others, decoded⟩ := ih readable.2
    refine ⟨data :: rest, ?_, .cons decodes decoded⟩
    simp only [ProtoOATickData.delta, Prod.mk_add_mk] at first others
    simp only [accumulate, first, others, bind, Except.bind, pure, Except.pure]

/-- A list of messages is handed out as its running sums. -/
theorem fromProtoList_ok {protos : List ProtoOATickData}
    (readable : ∀ tick ∈ runningSums 0 (protos.map ProtoOATickData.delta),
      Readable calendar epoch tick) :
    ∃ result, TickData.fromProtoList calendar protos = .ok result ∧
      List.Forall₂ (Decodes epoch) (runningSums 0 (protos.map ProtoOATickData.delta)) result := by
  unfold TickData.fromProtoList
  -- An empty list has no sums, and any other one starts both accumulators at zero.
  cases protos with
  | nil => exact ⟨[], rfl, .nil⟩
  | cons proto protos => exact accumulate_ok readable

/-- The first tick may as well be encoded against zero. -/
theorem encode_eq (ticks : List Tick) :
    encode ticks = (differences 0 ticks).map ProtoOATickData.ofDelta := by
  -- The first difference is taken against nothing.
  cases ticks with
  | nil => rfl
  | cons first rest => rw [encode, differences, sub_zero, List.map_cons]

/-- What was encoded sums up to the ticks again. -/
theorem runningSums_encode (ticks : List Tick) :
    runningSums 0 ((encode ticks).map ProtoOATickData.delta) = ticks := by
  have inverse : ProtoOATickData.delta ∘ ProtoOATickData.ofDelta = id := rfl
  rw [encode_eq, List.map_map, inverse, List.map_id, runningSums_differences]

/-- The running sums of messages are encoded as these messages. -/
theorem encode_runningSums (protos : List ProtoOATickData) :
    encode (runningSums 0 (protos.map ProtoOATickData.delta)) = protos := by
  have inverse : ProtoOATickData.ofDelta ∘ ProtoOATickData.delta = id := rfl
  rw [encode_eq, differences_runningSums, List.map_map, inverse, List.map_id]

/-- A tick that was handed out tells the integers that it was handed out from. -/
theorem Decodes.integers {tick : Tick} {data : TickData δ} (decodes : Decodes epoch tick data) :
    data.integers epoch = tick := by
  -- The price was divided by the very factor that it is multiplied with.
  have scaled : data.price * 100000 = tick.2 := by
    rw [decodes.price, div_mul_cancel₀ _ (by norm_num)]
  rw [TickData.integers, decodes.timestamp, scaled, Int.floor_intCast]

/-- Ticks that were handed out tell all the integers. -/
theorem map_integers {ticks : List Tick} {result : List (TickData δ)}
    (decoded : List.Forall₂ (Decodes epoch) ticks result) :
    result.map (TickData.integers epoch) = ticks := by
  induction decoded with
  | nil => rfl
  | cons first _ ih => rw [List.map_cons, first.integers, ih]

end Decoding

/-- Ticks that are encoded and handed out again come out in their order with exact prices and their
original instants, and what a list of messages is handed out as is encoded as these messages. -/
theorem ticks_round_trip {δ : Type} (calendar : Calendar δ) (epoch : δ → ℤ) :
    (∀ ticks : List Tick, (∀ tick ∈ ticks, Readable calendar epoch tick) →
      ∃ result, TickData.fromProtoList calendar (encode ticks) = .ok result ∧
        result.length = ticks.length ∧ List.Forall₂ (Decodes epoch) ticks result) ∧
      ∀ protos : List ProtoOATickData,
        (∀ tick ∈ runningSums 0 (protos.map ProtoOATickData.delta), Readable calendar epoch tick) →
          ∃ result, TickData.fromProtoList calendar protos = .ok result ∧
            encode (result.map (TickData.integers epoch)) = protos := by
  constructor
  · intro ticks readable
    -- The running sums of the encoded ticks are the ticks themselves.
    have sums := runningSums_encode ticks
    have readable' : ∀ tick ∈ runningSums 0 ((encode ticks).map ProtoOATickData.delta),
        Readable calendar epoch tick := by
      rwa [sums]
    obtain ⟨result, ok, decoded⟩ := fromProtoList_ok readable'
    rw [sums] at decoded
    exact ⟨result, ok, decoded.length_eq.symm, decoded⟩
  · intro protos readable
    -- The integers that come back are the running sums, and their differences the messages.
    obtain ⟨result, ok, decoded⟩ := fromProtoList_ok readable
    exact ⟨result, ok, by rw [map_integers decoded, encode_runningSums]⟩

/-- Three ticks, the newest first, and the price falls and rises. -/
def falling : List Tick := [(1700000003000, 100000), (1700000001000, 98500), (1700000000000, 123456)]

/-- A calendar that tells instants by their milliseconds hands the ticks out, and encodes them again. -/
theorem ticks_round_trip_falling :
    ∃ result : List (TickData ℤ),
      TickData.fromProtoList ⟨some, some⟩ (encode falling) = .ok result ∧
      result.map TickData.price = [1, 985 / 1000, 123456 / 100000] ∧
      encode (result.map (TickData.integers id)) =
        [⟨1700000003000, 100000⟩, ⟨-2000, -1500⟩, ⟨-1000, 24956⟩] := by
  -- Every time is on this calendar, and each price fits its type.
  have readable : ∀ tick ∈ falling, Readable (δ := ℤ) ⟨some, some⟩ id tick := by
    intro tick listed
    refine ⟨?_, tick.1, rfl, rfl⟩
    revert tick
    decide
  obtain ⟨result, ok, -, decoded⟩ := (ticks_round_trip (δ := ℤ) ⟨some, some⟩ id).1 falling readable
  obtain ⟨again, same, encoded⟩ := (ticks_round_trip (δ := ℤ) ⟨some, some⟩ id).2 (encode falling)
    -- The encoded list has the sums it was made from.
    (by rwa [runningSums_encode])
  rw [ok] at same
  cases same
  refine ⟨result, ok, ?_, encoded.trans (by decide)⟩
  obtain _ | ⟨first, _ | ⟨second, _ | ⟨third, _ | _⟩⟩⟩ := decoded
  rw [List.map_cons, List.map_cons, List.map_cons, first.price, second.price, third.price]
  norm_num

end CTrader.MarketData
