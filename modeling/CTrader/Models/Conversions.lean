import CTrader.Lib.Decimal

/-! What the conversions from the wire share: the instants they ask for, and the exceptions they end
with. -/

namespace CTrader.Models

/-- The exceptions that a conversion ends with. -/
inductive ConversionError
  | runtimeError (message : String)
  -- The instant is not one that a datetime holds.
  | timestamp
  -- The exponent of a decimal overflows.
  | overflow
  -- The model refuses a field.
  | validation
deriving DecidableEq, Repr

/-- What the standard library makes of the instants on the wire, if it has a datetime for them. -/
structure Calendar (δ : Type) where
  /-- The instant of a timestamp in seconds. -/
  fromTimestamp : ℤ → Option δ
  /-- The instant of a timestamp in milliseconds. -/
  timestampToDatetime : ℤ → Option δ

variable {δ ε α β : Type}

/-- An instant that the calendar has. -/
def told (converted : Option δ) : Except ConversionError δ := converted.elim (.error .timestamp) .ok

/-- A quotient of decimals, which raises where its exponent overflows. -/
def quotient (a b : ℚ) : Except ConversionError ℚ :=
  (defaultContext.div a b).elim (.error .overflow) .ok

/-- A field that is converted unless it is absent. -/
def unlessAbsent (absent : Bool) (converted : Except ε α) : Except ε (Option α) :=
  if absent then .ok none else some <$> converted

/-- An instant is told where the calendar has it. -/
theorem told_isOk {converted : Option δ} :
    (∃ instant, told converted = .ok instant) ↔ converted.isSome := by
  cases converted <;> simp [told]

/-- A field is read where it is absent or converted. -/
theorem unlessAbsent_isOk {absent : Bool} {converted : Except ε α} :
    (∃ field, unlessAbsent absent converted = .ok field) ↔
      (absent = false → ∃ value, converted = .ok value) := by
  cases absent <;> cases converted <;> simp [unlessAbsent, Functor.map, Except.map]

/-- A computation that raises at its first exception ends well where each of its steps does. -/
theorem bind_eq_ok_iff {first : Except ε α} {rest : α → Except ε β} {result : β} :
    first >>= rest = .ok result ↔ ∃ value, first = .ok value ∧ rest value = .ok result := by
  cases first <;> simp [bind, Except.bind]

/-- A list is converted where each of its items is. -/
theorem mapM_isOk {convert : α → Except ε β} {items : List α} :
    (∃ converted, items.mapM convert = .ok converted) ↔
      ∀ item ∈ items, ∃ value, convert item = .ok value := by
  induction items with
  | nil => exact iff_of_true ⟨[], rfl⟩ (by simp)
  -- The first item, and then the rest of the list.
  | cons item items ih =>
    rw [List.forall_mem_cons, ← ih]
    simp only [List.mapM_cons, bind_eq_ok_iff, pure, Except.pure, Except.ok.injEq]
    constructor
    · rintro ⟨_, value, first, rest, others, -⟩
      exact ⟨⟨value, first⟩, rest, others⟩
    · rintro ⟨⟨value, first⟩, rest, others⟩
      exact ⟨value :: rest, value, first, rest, others, rfl⟩

end CTrader.Models
