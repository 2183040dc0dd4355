import StreamSync.RttOffsetHull

namespace StreamSync

/-- One exchange as it really was, in the clock of the client; the offset is server clock minus client
clock. -/
structure ClockExchange where
  clientSentAt : Int
  clockOffset : Int
  forwardDelay : Nat
  serverProcessing : Nat
  backwardDelay : Nat

/-- What the two clocks showed during the exchange. -/
structure ClockExchange.Observed (exchange : ClockExchange)
    (observation : HeartbeatExchangeObservation) : Prop where
  clientSent : (observation.clientSentAtMicros.toNat : Int) = exchange.clientSentAt
  serverReceived : (observation.serverReceivedAtMicros.toNat : Int) =
    exchange.clientSentAt + exchange.forwardDelay + exchange.clockOffset
  serverSent : (observation.serverSentAtMicros.toNat : Int) =
    exchange.clientSentAt + exchange.forwardDelay + exchange.serverProcessing + exchange.clockOffset
  clientReceived : (observation.clientReceivedAtMicros.toNat : Int) =
    exchange.clientSentAt + exchange.forwardDelay + exchange.serverProcessing + exchange.backwardDelay

def tryI128 (value : Int) : Option Int :=
  if -170141183460469231731687303715884105728 ≤ value ∧ value ≤ 170141183460469231731687303715884105727 then
    some value
  else none

theorem tryI128_eq_some {value : Int} (h : value.natAbs ≤ 73786976294838206464) :
    tryI128 value = some value := if_pos (by omega)

namespace HeartbeatExchangeObservation

def clientToServer (observation : HeartbeatExchangeObservation) : Int :=
  observation.serverReceivedAtMicros.toNat - observation.clientSentAtMicros.toNat

def serverToClient (observation : HeartbeatExchangeObservation) : Int :=
  observation.serverSentAtMicros.toNat - observation.clientReceivedAtMicros.toNat

def clockOffset (observation : HeartbeatExchangeObservation) : Int :=
  (observation.clientToServer + observation.serverToClient).tdiv 2

/-- The same offset, with every `i128` operation on the way checked. -/
def checkedClockOffset (observation : HeartbeatExchangeObservation) : Option Int := do
  let clientToServer ← tryI128
    (observation.serverReceivedAtMicros.toNat - observation.clientSentAtMicros.toNat)
  let serverToClient ← tryI128
    (observation.serverSentAtMicros.toNat - observation.clientReceivedAtMicros.toNat)
  let sum ← tryI128 (clientToServer + serverToClient)
  tryI128 (sum.tdiv 2)

/-- The times that the two clocks measured are in order, and the client's covers the server's. -/
structure Ordered (observation : HeartbeatExchangeObservation) : Prop where
  client : observation.clientSentAtMicros ≤ observation.clientReceivedAtMicros
  server : observation.serverReceivedAtMicros ≤ observation.serverSentAtMicros
  covers : observation.serverSentAtMicros - observation.serverReceivedAtMicros ≤
    observation.clientReceivedAtMicros - observation.clientSentAtMicros

/-- What each error of the calculation means. -/
def Fails (observation : HeartbeatExchangeObservation) : HeartbeatRttOffsetCalculationError → Prop
  | .clientReceiveBeforeSend => observation.clientReceivedAtMicros < observation.clientSentAtMicros
  | .serverSendBeforeReceive =>
    observation.clientSentAtMicros ≤ observation.clientReceivedAtMicros ∧
      observation.serverSentAtMicros < observation.serverReceivedAtMicros
  | .roundTripShorterThanServerProcessing =>
    observation.clientSentAtMicros ≤ observation.clientReceivedAtMicros ∧
      observation.serverReceivedAtMicros ≤ observation.serverSentAtMicros ∧
        observation.clientReceivedAtMicros - observation.clientSentAtMicros <
          observation.serverSentAtMicros - observation.serverReceivedAtMicros
  | .clockOffsetOutOfRange => observation.Ordered ∧ tryI64 observation.clockOffset = none

theorem clockOffset_bounds (observation : HeartbeatExchangeObservation) :
    observation.clientToServer.natAbs ≤ 18446744073709551616 ∧
      observation.serverToClient.natAbs ≤ 18446744073709551616 ∧
        observation.clockOffset.natAbs ≤ 36893488147419103232 := by
  have hclientSent := observation.clientSentAtMicros.toNat_lt
  have hserverReceived := observation.serverReceivedAtMicros.toNat_lt
  have hserverSent := observation.serverSentAtMicros.toNat_lt
  have hclientReceived := observation.clientReceivedAtMicros.toNat_lt
  have hhalf := MovingAverage.tdiv_between (observation.clientToServer + observation.serverToClient)
    (show (0 : Int) < 2 by omega)
  unfold clockOffset
  unfold clientToServer serverToClient at *
  omega

theorem checkedClockOffset_eq (observation : HeartbeatExchangeObservation) :
    observation.checkedClockOffset = some observation.clockOffset := by
  obtain ⟨hforward, hbackward, hoffset⟩ := clockOffset_bounds observation
  have hfirst : tryI128 (observation.serverReceivedAtMicros.toNat - observation.clientSentAtMicros.toNat) =
      some observation.clientToServer := tryI128_eq_some (by unfold clientToServer at hforward; omega)
  have hsecond : tryI128 (observation.serverSentAtMicros.toNat - observation.clientReceivedAtMicros.toNat) =
      some observation.serverToClient := tryI128_eq_some (by unfold serverToClient at hbackward; omega)
  have hsum : tryI128 (observation.clientToServer + observation.serverToClient) =
      some (observation.clientToServer + observation.serverToClient) := tryI128_eq_some (by omega)
  have hhalf : tryI128 observation.clockOffset = some observation.clockOffset := tryI128_eq_some (by omega)
  unfold checkedClockOffset
  simp only [hfirst, hsecond, hsum, bind, Option.bind]
  exact hhalf

end HeartbeatExchangeObservation

open HeartbeatExchangeObservation

section Calculate

variable {observation : HeartbeatExchangeObservation}

theorem calculateEstimate_of_ordered (h : observation.Ordered) :
    calculateEstimate observation =
      match tryI64 observation.clockOffset with
      | some clockOffsetMicros =>
        .ok ⟨observation.clientReceivedAtMicros - observation.clientSentAtMicros -
          (observation.serverSentAtMicros - observation.serverReceivedAtMicros),
          observation.serverSentAtMicros - observation.serverReceivedAtMicros, clockOffsetMicros⟩
      | none => .error .clockOffsetOutOfRange := by
  unfold calculateEstimate
  simp only [checkedSub_of_le h.client, checkedSub_of_le h.server, checkedSub_of_le h.covers, bind,
    Except.bind]
  rfl

theorem calculateEstimate_client_lt
    (h : observation.clientReceivedAtMicros < observation.clientSentAtMicros) :
    calculateEstimate observation = .error .clientReceiveBeforeSend := by
  unfold calculateEstimate
  simp only [checkedSub_of_lt h, bind, Except.bind]

theorem calculateEstimate_server_lt
    (hclient : observation.clientSentAtMicros ≤ observation.clientReceivedAtMicros)
    (h : observation.serverSentAtMicros < observation.serverReceivedAtMicros) :
    calculateEstimate observation = .error .serverSendBeforeReceive := by
  unfold calculateEstimate
  simp only [checkedSub_of_le hclient, checkedSub_of_lt h, bind, Except.bind]

theorem calculateEstimate_shorter
    (hclient : observation.clientSentAtMicros ≤ observation.clientReceivedAtMicros)
    (hserver : observation.serverReceivedAtMicros ≤ observation.serverSentAtMicros)
    (h : observation.clientReceivedAtMicros - observation.clientSentAtMicros <
      observation.serverSentAtMicros - observation.serverReceivedAtMicros) :
    calculateEstimate observation = .error .roundTripShorterThanServerProcessing := by
  unfold calculateEstimate
  simp only [checkedSub_of_le hclient, checkedSub_of_le hserver, checkedSub_of_lt h, bind, Except.bind]

/-- The calculation fails in the four ways that its errors name, each where no earlier check has failed. -/
theorem calculateEstimate_eq_error_iff {error : HeartbeatRttOffsetCalculationError} :
    calculateEstimate observation = .error error ↔ observation.Fails error := by
  by_cases hclient : observation.clientSentAtMicros ≤ observation.clientReceivedAtMicros
  · by_cases hserver : observation.serverReceivedAtMicros ≤ observation.serverSentAtMicros
    · by_cases hcovers : observation.serverSentAtMicros - observation.serverReceivedAtMicros ≤
        observation.clientReceivedAtMicros - observation.clientSentAtMicros
      · have hordered : observation.Ordered := ⟨hclient, hserver, hcovers⟩
        rw [calculateEstimate_of_ordered hordered]
        cases hoffset : tryI64 observation.clockOffset <;> cases error <;>
          simp [Fails, hordered, hoffset, hclient, hserver, hcovers]
      · rw [calculateEstimate_shorter hclient hserver (UInt64.not_le.mp hcovers)]
        cases error <;> simp [Fails, hclient, hserver, UInt64.not_le.mp hcovers]
        exact fun hordered => absurd hordered.covers hcovers
    · rw [calculateEstimate_server_lt hclient (UInt64.not_le.mp hserver)]
      cases error <;> simp [Fails, hclient, hserver, UInt64.not_le.mp hserver]
      exact fun hordered => absurd hordered.server hserver
  · rw [calculateEstimate_client_lt (UInt64.not_le.mp hclient)]
    cases error <;> simp [Fails, hclient, UInt64.not_le.mp hclient]
    exact fun hordered => absurd hordered.client hclient

end Calculate

namespace ClockExchange

variable {exchange : ClockExchange} {observation : HeartbeatExchangeObservation}

/-- Clocks that run at one speed never put an exchange out of order. -/
theorem Observed.durations (h : exchange.Observed observation) :
    (observation.clientReceivedAtMicros - observation.clientSentAtMicros).toNat =
        exchange.forwardDelay + exchange.serverProcessing + exchange.backwardDelay ∧
      (observation.serverSentAtMicros - observation.serverReceivedAtMicros).toNat =
        exchange.serverProcessing ∧ observation.Ordered := by
  obtain ⟨hclientSent, hserverReceived, hserverSent, hclientReceived⟩ := h
  have hclient : observation.clientSentAtMicros ≤ observation.clientReceivedAtMicros := by
    rw [UInt64.le_iff_toNat_le]
    omega
  have hserver : observation.serverReceivedAtMicros ≤ observation.serverSentAtMicros := by
    rw [UInt64.le_iff_toNat_le]
    omega
  have helapsed := UInt64.toNat_sub_of_le _ _ hclient
  have hprocessing := UInt64.toNat_sub_of_le _ _ hserver
  refine ⟨by omega, by omega, hclient, hserver, ?_⟩
  rw [UInt64.le_iff_toNat_le]
  omega

/-- Half of what the two paths show together is off by half of the delays at most. -/
theorem Observed.clockOffset_near (h : exchange.Observed observation) :
    (observation.clockOffset - exchange.clockOffset).natAbs ≤
      (exchange.forwardDelay + exchange.backwardDelay + 1) / 2 := by
  obtain ⟨hclientSent, hserverReceived, hserverSent, hclientReceived⟩ := h
  have hsum : observation.clientToServer + observation.serverToClient =
      2 * exchange.clockOffset + (exchange.forwardDelay - exchange.backwardDelay) := by
    unfold clientToServer serverToClient
    omega
  have hnear := MovingAverage.tdiv_two_near exchange.clockOffset
    ((exchange.forwardDelay : Int) - exchange.backwardDelay)
  unfold HeartbeatExchangeObservation.clockOffset
  rw [hsum]
  omega

theorem Observed.calculateEstimate_eq (h : exchange.Observed observation) :
    (∃ estimate, calculateEstimate observation = .ok estimate ∧
      estimate.rttMicros.toNat = exchange.forwardDelay + exchange.backwardDelay ∧
      estimate.serverProcessingMicros.toNat = exchange.serverProcessing ∧
      (estimate.clockOffsetMicros.toInt - exchange.clockOffset).natAbs ≤
        (exchange.forwardDelay + exchange.backwardDelay + 1) / 2) ∨
      calculateEstimate observation = .error .clockOffsetOutOfRange := by
  obtain ⟨helapsed, hprocessing, hordered⟩ := h.durations
  have hnear := h.clockOffset_near
  rw [calculateEstimate_of_ordered hordered]
  unfold tryI64
  split
  next clockOffsetMicros hsome =>
    split at hsome
    next hrange =>
      cases hsome
      refine .inl ⟨_, rfl, ?_, hprocessing, ?_⟩
      · have hrtt := UInt64.toNat_sub_of_le _ _ hordered.covers
        dsimp only
        omega
      · rw [Int64.toInt_ofInt_of_le hrange.1 (by omega)]
        exact hnear
    next => cases hsome
  next => exact .inr rfl

end ClockExchange

/-- An exchange of any clock offset and any delays gives the sum of the two delays, the processing time and
the offset up to half of that sum, unless the offset leaves its range; every other failure is one of the
three times being out of order; and no `i128` operation on the way overflows. -/
theorem calculateEstimate_sound :
    (∀ (exchange : ClockExchange) (observation : HeartbeatExchangeObservation),
      exchange.Observed observation →
        (∃ estimate, calculateEstimate observation = .ok estimate ∧
          estimate.rttMicros.toNat = exchange.forwardDelay + exchange.backwardDelay ∧
          estimate.serverProcessingMicros.toNat = exchange.serverProcessing ∧
          (estimate.clockOffsetMicros.toInt - exchange.clockOffset).natAbs ≤
            (exchange.forwardDelay + exchange.backwardDelay + 1) / 2) ∨
          calculateEstimate observation = .error .clockOffsetOutOfRange) ∧
      (∀ (observation : HeartbeatExchangeObservation) (error : HeartbeatRttOffsetCalculationError),
        calculateEstimate observation = .error error ↔ observation.Fails error) ∧
        ∀ observation : HeartbeatExchangeObservation,
          observation.checkedClockOffset = some observation.clockOffset :=
  ⟨fun _ _ h => h.calculateEstimate_eq, fun _ _ => calculateEstimate_eq_error_iff, checkedClockOffset_eq⟩

/-- Delays of 10 and 21 µs and a server clock that is 50 µs behind. -/
theorem calculateEstimate_sound_behind :
    (∃ estimate, calculateEstimate ⟨1000, 960, 965, 1036⟩ = .ok estimate ∧
      estimate.rttMicros.toNat = 10 + 21 ∧ estimate.serverProcessingMicros.toNat = 5 ∧
      (estimate.clockOffsetMicros.toInt - (-50)).natAbs ≤ (10 + 21 + 1) / 2) ∨
      calculateEstimate ⟨1000, 960, 965, 1036⟩ = .error .clockOffsetOutOfRange :=
  calculateEstimate_sound.1 ⟨1000, -50, 10, 5, 21⟩ _ ⟨rfl, rfl, rfl, rfl⟩

end StreamSync
