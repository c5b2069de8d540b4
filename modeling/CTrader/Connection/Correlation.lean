import CTrader.Connection.Protocol
import CTrader.Lib.History

/-! Replies go to their own request: what a finished request has to show for its result. -/

namespace CTrader.Connection

/-- The reader decoded this reply to a request after the request was registered. -/
def Replied (history : List Note) (serial : Nat) (inner : Inner) : Prop :=
  ∃ later earlier, history = later ++ .decoded ⟨clientMsgId serial, inner⟩ :: earlier ∧
    .registered serial ∈ earlier

/-- A result that comes from the server was decoded from an envelope with the id of the request. -/
def Evidenced (history : List Note) (serial : Nat) : Result → Prop
  | .returned inner => Replied history serial inner ∧ ∀ response, inner ≠ .errorRes response
  | .api error => ∃ response, Replied history serial (.errorRes response) ∧
      error = APIError.fromProto response
  | .raised _ => True

/-- A reply stays decoded as the history grows. -/
theorem Replied.cons {history : List Note} {serial : Nat} {inner : Inner}
    (replied : Replied history serial inner) (note : Note) :
    Replied (note :: history) serial inner := by
  obtain ⟨later, earlier, split, registered⟩ := replied
  exact ⟨note :: later, earlier, by rw [split]; rfl, registered⟩

/-- The evidence for a result is kept as the history grows. -/
theorem Evidenced.cons {history : List Note} {serial : Nat} {result : Result}
    (evidenced : Evidenced history serial result) (note : Note) :
    Evidenced (note :: history) serial result := by
  cases result with
  | returned inner => exact ⟨evidenced.1.cons note, evidenced.2⟩
  | api error =>
    obtain ⟨response, replied, same⟩ := evidenced
    exact ⟨response, replied.cons note, same⟩
  | raised failure => trivial

/-- What a decoded reply leaves in a slot is evidenced by its envelope. -/
theorem Evidenced.decoded {history : List Note} {serial : Nat}
    (registered : .registered serial ∈ history) (inner : Inner) :
    Evidenced (.decoded ⟨clientMsgId serial, inner⟩ :: history) serial inner.outcome := by
  have replied : Replied (.decoded ⟨clientMsgId serial, inner⟩ :: history) serial inner :=
    ⟨[], history, rfl, registered⟩
  cases inner with
  | errorRes response => exact ⟨response, replied, rfl⟩
  | other name fields => exact ⟨replied, by simp⟩

/-- What the slots and the history of a protocol keep to. -/
structure Slots.Correlated (slots : Slots) : Prop where
  -- Every entry of the table stands under the id of the call it belongs to.
  listed : ∀ msgId serial, slots.pending.get? msgId = some serial ↔
    msgId = clientMsgId serial ∧ (slots.requests.get? serial).isSome = true
  bounded : ∀ serial, .registered serial ∈ slots.history → serial ≤ slots.counter
  fresh : ∀ later earlier serial, slots.history = later ++ .registered serial :: earlier →
    .registered serial ∉ earlier
  begun : ∀ serial result, .finished serial result ∈ slots.history →
    .registered serial ∈ slots.history
  -- A call is in flight exactly between its registration and its end.
  inFlight : ∀ serial, (slots.requests.get? serial).isSome = true ↔
    .registered serial ∈ slots.history ∧ ∀ result, .finished serial result ∉ slots.history
  woken : ∀ serial request, slots.requests.get? serial = some request →
    request.pending.event = true → request.pending.outcome ≠ none
  settled : ∀ serial request result, slots.requests.get? serial = some request →
    request.pending.outcome = some result → Evidenced slots.history serial result
  ended : ∀ later earlier serial result, slots.history = later ++ .finished serial result :: earlier →
    Evidenced earlier serial result

namespace Slots.Correlated

variable {slots : Slots}

/-- A fresh protocol has nothing to correlate. -/
theorem init : Correlated {} := by
  constructor <;> simp

/-- A note that registers and finishes nothing keeps everything correlated. -/
theorem note (correlated : slots.Correlated) {note : Note}
    (unregistered : ∀ serial, note ≠ .registered serial)
    (unfinished : ∀ serial result, note ≠ .finished serial result) :
    (slots.log note).Correlated := by
  -- The note is neither a registration nor an ending, so both are where they were.
  have registers (serial : Nat) :
      .registered serial ∈ (slots.log note).history ↔ .registered serial ∈ slots.history := by
    simp [log, (unregistered serial).symm]
  have finishes (serial : Nat) (result : Result) :
      .finished serial result ∈ (slots.log note).history ↔
        .finished serial result ∈ slots.history := by
    simp [log, (unfinished serial result).symm]
  obtain ⟨listed, bounded, fresh, begun, inFlight, woken, settled, ended⟩ := correlated
  refine ⟨listed, ?_, ?_, ?_, ?_, woken, ?_, ?_⟩
  · exact fun serial member => bounded serial ((registers serial).mp member)
  · intro later earlier serial split
    rcases History.cons_eq_split split with ⟨-, same, -⟩ | ⟨rest, -, split⟩
    · exact absurd same (unregistered serial)
    · exact fresh rest earlier serial split
  · intro serial result member
    exact (registers serial).mpr (begun serial result ((finishes serial result).mp member))
  · intro serial
    simp only [registers, finishes]
    exact inFlight serial
  · intro serial request result found outcome
    exact (settled serial request result found outcome).cons note
  · intro later earlier serial result split
    rcases History.cons_eq_split split with ⟨-, same, -⟩ | ⟨rest, -, split⟩
    · exact absurd same (unfinished serial result)
    · exact ended rest earlier serial result split

/-- A number that is taken without a slot keeps everything correlated. -/
theorem skip (correlated : slots.Correlated) : slots.skip.Correlated := by
  obtain ⟨listed, bounded, fresh, begun, inFlight, woken, settled, ended⟩ := correlated
  refine ⟨listed, fun serial member => ?_, fresh, begun, inFlight, woken, settled, ended⟩
  exact Nat.le_succ_of_le (bounded serial member)

/-- A call may move on, and its slot be settled with any result that the history bears out. -/
theorem put (correlated : slots.Correlated) {serial : Nat} {request next : Request}
    (found : slots.requests.get? serial = some request)
    (woken' : next.pending.event = true → next.pending.outcome ≠ none)
    (settled' : ∀ result, next.pending.outcome = some result →
      Evidenced slots.history serial result) : (slots.put serial next).Correlated := by
  obtain ⟨listed, bounded, fresh, begun, inFlight, woken, settled, ended⟩ := correlated
  -- The request changes in place, so who is in flight does not.
  have still (other : Nat) : ((slots.put serial next).requests.get? other).isSome =
      (slots.requests.get? other).isSome := by
    simp only [Slots.put]
    grind [Dict.get?_set]
  refine ⟨?_, bounded, fresh, begun, ?_, ?_, ?_, ended⟩
  · exact fun msgId other => by rw [still]; exact listed msgId other
  · exact fun other => by rw [still]; exact inFlight other
  all_goals
    simp only [Slots.put]
    grind [Dict.get?_set]

/-- A call may move on without touching its slot. -/
theorem advance (correlated : slots.Correlated) {serial : Nat} {request next : Request}
    (found : slots.requests.get? serial = some request) (same : next.pending = request.pending) :
    (slots.put serial next).Correlated := by
  refine correlated.put found ?_ ?_
  · rw [same]
    exact correlated.woken serial request found
  · rw [same]
    exact fun result => correlated.settled serial request result found

/-- A slot may be settled with any result that the history bears out. -/
theorem settle (correlated : slots.Correlated) {serial : Nat} {outcome : Result}
    (evidenced : Evidenced slots.history serial outcome) :
    (slots.settle serial outcome).Correlated := by
  unfold Slots.settle
  split
  · exact correlated
  · rename_i request found
    refine correlated.put found (by simp) fun result same => ?_
    cases same
    exact evidenced

/-- Failing any slots keeps everything correlated. -/
theorem failAll (reason : String) (serials : List Nat) (correlated : slots.Correlated) :
    (slots.failAll reason serials).Correlated := by
  -- The induction is on the list of the slots still to be failed.
  induction serials generalizing slots with
  | nil => exact correlated
  | cons serial rest ih => exact ih (correlated.settle trivial)

/-- A dispatched message is correlated with the request it is addressed to, or with none. -/
theorem dispatchMessage (correlated : slots.Correlated) (running : Bool) (envelope : Envelope)
    (handlers : List Nat) : (slots.dispatchMessage running envelope handlers).Correlated := by
  have seen : (slots.log (.decoded envelope)).Correlated := correlated.note (by simp) (by simp)
  unfold Slots.dispatchMessage
  dsimp only
  split
  · rename_i serial found
    unfold addressee at found
    split at found
    · cases found
    · obtain ⟨addressed, open'⟩ := (correlated.listed _ _).mp found
      -- The id of the envelope is the one that the request was registered under.
      have registered := ((correlated.inFlight serial).mp open').1
      obtain ⟨msgId, inner⟩ := envelope
      subst addressed
      exact (seen.settle (.decoded registered inner)).note (by simp) (by simp)
  · exact seen.note (by simp) (by simp)

/-- A new request takes an id that was never used before. -/
theorem register (correlated : slots.Correlated) : slots.register.Correlated := by
  obtain ⟨listed, bounded, fresh, begun, inFlight, woken, settled, ended⟩ := correlated
  -- The counter has passed every number given out, so the new one was never registered.
  have unused : .registered (slots.counter + 1) ∉ slots.history := fun member =>
    absurd (bounded _ member) (by omega)
  have unended (result : Result) : .finished (slots.counter + 1) result ∉ slots.history :=
    fun member => unused (begun _ _ member)
  have unsent : slots.requests.get? (slots.counter + 1) = none := by
    by_contra held
    exact unused ((inFlight _).mp (Option.isSome_iff_ne_none.mpr held)).1
  refine ⟨?_, ?_, ?_, ?_, ?_, ?_, ?_, ?_⟩
  · intro msgId serial
    simp only [Slots.register, log, Dict.get?_set]
    -- The id of the new request belongs to its number alone, as `clientMsgId` is injective.
    by_cases new : msgId = clientMsgId (slots.counter + 1)
    · subst new
      constructor
      · grind
      · rintro ⟨same, -⟩
        rw [clientMsgId_injective same, if_pos rfl]
    · rw [if_neg new, listed]
      grind
  · intro serial member
    rcases List.mem_cons.mp member with same | member
    · cases same
      exact Nat.le_refl _
    · exact Nat.le_succ_of_le (bounded serial member)
  · intro later earlier serial split
    rcases History.cons_eq_split split with ⟨-, same, rfl⟩ | ⟨rest, -, split⟩
    · cases same
      exact unused
    · exact fresh rest earlier serial split
  · intro serial result member
    simp only [Slots.register, log, List.mem_cons] at member ⊢
    grind
  · intro serial
    simp only [Slots.register, log, Dict.get?_set, List.mem_cons]
    -- The new request is in flight: registered just now, and not ended.
    by_cases new : serial = slots.counter + 1
    · subst new
      simp [unended]
    · simp only [if_neg new, inFlight]
      simp [new]
  · simp only [Slots.register, log, Dict.get?_set]
    grind
  · intro serial request result found outcome
    simp only [Slots.register, log, Dict.get?_set] at found
    -- A request begins without an outcome.
    split at found
    · cases found
      cases outcome
    · exact (settled serial request result found outcome).cons _
  · intro later earlier serial result split
    rcases History.cons_eq_split split with ⟨-, same, -⟩ | ⟨rest, -, split⟩
    · cases same
    · exact ended rest earlier serial result split

/-- A call that leaves with a result the history bears out takes exactly its own entry along. -/
theorem exit (correlated : slots.Correlated) {serial : Nat} {request : Request} {result : Result}
    (found : slots.requests.get? serial = some request)
    (evidenced : Evidenced slots.history serial result) :
    (slots.exit serial result).Correlated := by
  obtain ⟨listed, bounded, fresh, begun, inFlight, woken, settled, ended⟩ := correlated
  -- The request was in flight, and this is where it leaves.
  obtain ⟨registered, open'⟩ := (inFlight serial).mp (by rw [found]; rfl)
  refine ⟨?_, ?_, ?_, ?_, ?_, ?_, ?_, ?_⟩
  · intro msgId other
    simp only [Slots.exit, log, Dict.get?_erase]
    -- Its id goes from `_pending` with it, in the `finally` of `send_request`.
    by_cases own : msgId = clientMsgId serial
    · subst own
      rw [if_pos rfl]
      constructor
      · simp
      · rintro ⟨same, held⟩
        rw [clientMsgId_injective same, if_pos rfl] at held
        cases held
    · rw [if_neg own, listed]
      grind
  · intro other member
    exact bounded other (by simpa [Slots.exit, log] using member)
  · intro later earlier other split
    rcases History.cons_eq_split split with ⟨-, same, -⟩ | ⟨rest, -, split⟩
    · cases same
    · exact fresh rest earlier other split
  · intro other result' member
    simp only [Slots.exit, log, List.mem_cons] at member ⊢
    grind
  · intro other
    simp only [Slots.exit, log, Dict.get?_erase, List.mem_cons]
    by_cases own : other = serial
    · subst own
      rw [if_pos rfl]
      -- It has ended now, so it must not be counted in flight.
      exact ⟨by simp, fun both => absurd (.inl rfl) (both.2 result)⟩
    · simp [own, inFlight]
  · simp only [Slots.exit, log, Dict.get?_erase]
    grind
  · intro other request' result' held outcome
    simp only [Slots.exit, log, Dict.get?_erase] at held
    split at held
    · cases held
    · exact (settled other request' result' held outcome).cons _
  · intro later earlier other result' split
    -- The ending that is logged carries the evidence asked for.
    rcases History.cons_eq_split split with ⟨-, same, rfl⟩ | ⟨rest, -, split⟩
    · cases same
      exact evidenced
    · exact ended rest earlier other result' split

/-- What a woken waiter makes of its slot is borne out by the history. -/
theorem readOutcome (correlated : slots.Correlated) {serial : Nat} {request : Request}
    (found : slots.requests.get? serial = some request) (running : Bool) :
    Evidenced slots.history serial (Desk.readOutcome running request.pending) := by
  unfold Desk.readOutcome
  split
  · trivial
  · cases outcome : request.pending.outcome with
    | none => trivial
    | some result => exact correlated.settled serial request result found outcome

/-- Every move keeps the slots correlated. -/
theorem move {s t : State} {label : Label} (correlated : s.desk.slots.Correlated)
    (move : SlotMove s label t) : t.desk.slots.Correlated := by
  cases move with
  | keep made => exact made ▸ correlated
  | refuse failure made => exact made ▸ correlated.note (by simp) (by simp)
  | skip failure made => exact made ▸ correlated.skip.note (by simp) (by simp)
  | register on made => exact made ▸ correlated.register
  | write found phase linked made => exact made ▸ correlated.advance found rfl
  | sent found phase made => exact made ▸ correlated.advance found rfl
  | interrupt failure found cause made => exact made ▸ correlated.advance found rfl
  -- A request that fails or is unwound needs no evidence: its error is its own.
  | fail failure found cause made => exact made ▸ correlated.exit found trivial
  | unwind found phase made => exact made ▸ correlated.exit found trivial
  -- What is read out was put in by the dispatch, which logged the frame before it.
  | resume found phase woken made =>
    exact made ▸ correlated.exit found (correlated.readOutcome found _)
  | dispatch handlers made => exact made ▸ correlated.dispatchMessage _ _ handlers
  | failPending reason off made => exact made ▸ correlated.failAll reason _

end Slots.Correlated

/-- The slots of every reachable state are correlated. -/
theorem correlated_of_reachable {attempts : Option Int} {s : State}
    (reached : (protocol attempts).Reachable s) : s.desk.slots.Correlated := by
  refine reached.invariant (P := fun s => s.desk.slots.Correlated) .init ?_
  intro s label t _ correlated _ taken
  exact correlated.move (step_slotMove taken)

/-- Replies go to their own request, under ids that are never used twice. -/
theorem replies_to_own_request {attempts : Option Int} {s : State}
    (reached : (protocol attempts).Reachable s) :
    (∀ later earlier serial inner,
      s.desk.slots.history = later ++ .finished serial (.returned inner) :: earlier →
      Replied earlier serial inner ∧ ∀ response, inner ≠ .errorRes response) ∧
    (∀ later earlier serial error,
      s.desk.slots.history = later ++ .finished serial (.api error) :: earlier →
      ∃ response, Replied earlier serial (.errorRes response) ∧
        error = APIError.fromProto response) ∧
    (∀ later earlier serial other, s.desk.slots.history = later ++ .registered serial :: earlier →
      .registered other ∈ earlier → clientMsgId other ≠ clientMsgId serial) ∧
    (∀ msgId, msgId ∈ s.desk.slots.pending.keys ↔ ∃ serial, msgId = clientMsgId serial ∧
      .registered serial ∈ s.desk.slots.history ∧
      ∀ result, .finished serial result ∉ s.desk.slots.history) ∧
    ∀ serial request, s.desk.slots.requests.get? serial = some request →
      request.pending.event = true → request.pending.outcome ≠ none := by
  obtain ⟨listed, bounded, fresh, begun, inFlight, woken, settled, ended⟩ :=
    correlated_of_reachable reached
  refine ⟨?_, ?_, ?_, ?_, woken⟩
  · exact fun later earlier serial inner split => ended later earlier serial _ split
  · exact fun later earlier serial error split => ended later earlier serial _ split
  · intro later earlier serial other split member same
    rw [clientMsgId_injective same] at member
    exact fresh later earlier serial split member
  · intro msgId
    rw [Dict.mem_keys_iff]
    simp only [listed, inFlight]

/-- Two replies that come back out of order still reach the requests they answer. -/
theorem replies_out_of_order : ∃ s, (protocol none).Reachable s ∧
    (∃ later earlier, s.desk.slots.history =
      later ++ .finished 1 (.returned (.other "ProtoOATraderRes" [1])) :: earlier ∧
      Replied earlier 1 (.other "ProtoOATraderRes" [1])) ∧
    ∃ later earlier, s.desk.slots.history =
      later ++ .finished 2 (.returned (.other "ProtoOATraderRes" [2])) :: earlier ∧
      Replied earlier 2 (.other "ProtoOATraderRes" [2]) := by
  have found : ∃ s, (protocol none).Reachable s ∧ s.desk.slots.history.take 2 =
      [.finished 1 (.returned (.other "ProtoOATraderRes" [1])),
        .finished 2 (.returned (.other "ProtoOATraderRes" [2]))] :=
    Machine.exists_reaches
      (Label.online ++ Label.ask 1 ++ Label.ask 2 ++
        [.link (.reader 0 (.frame ⟨"2", .other "ProtoOATraderRes" [2]⟩)),
          .link (.reader 0 (.frame ⟨"1", .other "ProtoOATraderRes" [1]⟩)),
          .desk (.request 2 .resume), .desk (.request 1 .resume)])
      (by decide +kernel)
  obtain ⟨s, reached, newest⟩ := found
  have split := List.take_append_drop 2 s.desk.slots.history
  rw [newest] at split
  have own := (replies_to_own_request reached).1
  exact ⟨s, reached, ⟨[], _, split.symm, (own [] _ 1 _ split.symm).1⟩,
    ⟨[_], _, split.symm, (own [_] _ 2 _ split.symm).1⟩⟩

end CTrader.Connection
