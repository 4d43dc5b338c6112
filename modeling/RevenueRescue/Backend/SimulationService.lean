import RevenueRescue.Simulator.BaselineSimulator

namespace RevenueRescue.SimulationService

open SimulatorProvider PaymentSimulator BaselineSimulator

structure RunResults where
  revenueAtRiskPaise : Int
  revenueRecoveredPaise : Int
  recoveryRatePct : ℚ
  simulationId : String
  seed : Int
  note : String := "All numbers computed from real simulation execution"

structure SimulationRun where
  simulationId : String
  randomSeed : Int
  numCustomers : Int
  numEvents : Int
  isBaseline : Bool
  status : String := "PENDING"
  progressPct : ℚ := 0
  error : Option String := none
  results : Option RunResults := none
  revenueAtRiskPaise : Int := 0
  revenueRecoveredPaise : Int := 0
  recoveryRatePct : ℚ := 0
  totalCases : Nat := 0
  recoveredCases : Nat := 0
  escalatedCases : Nat := 0
  policyViolations : Nat := 0

/-- What the service reads of the final state of an agent. -/
structure AgentFinal where
  caseIsRecovered : Bool := false
  escalationReason : String := ""

/-- The events of a run, as many as it asks for. -/
abbrev Batch (numEvents : Int) := { events : List PaymentEvent // events.length = numEvents.toNat }

/-- What a run meets outside the service: the random streams by their seeds, the generators, the active policy, the
agent, the ids, and the database, where `some` is the error of a flush. -/
structure World where
  random : Int → Nat → ℚ
  generateBatch : (seed numCustomers numEvents : Int) → (simulationId : String) → Except String (Batch numEvents)
  activePolicyConfig : Except String Unit
  agent : (run : SimulationRun) → Nat → PaymentEvent → Except String AgentFinal
  ids : Nat → Draws
  flush : Nat → SimulationRun → Option String

/-- The run with the local variables of the loop; `flushes` counts the flushes so far. -/
structure Loop where
  run : SimulationRun
  drawn : Nat := 0
  totalRecovered : Int := 0
  recoveredCases : Nat := 0
  escalatedCases : Nat := 0
  flushes : Nat

/-- An exception, and the run when it was raised. -/
structure Failure where
  error : String
  run : SimulationRun
  flushes : Nat

def flush (world : World) (loop : Loop) : Except Failure Loop :=
  match world.flush loop.flushes loop.run with
  | none => .ok { loop with flushes := loop.flushes + 1 }
  | some error => .error ⟨error, loop.run, loop.flushes + 1⟩

/-- One attempt at an event: a retry without a diagnosis, or a run of the agent. -/
def attempt (world : World) (i : Nat) (event : PaymentEvent) (loop : Loop) : Except Failure (Bool × Loop) :=
  if loop.run.isBaseline then
    match executeRetry (world.random loop.run.randomSeed) loop.drawn {
      caseId := "baseline-" ++ toString i
      customerId := event.customerId
      customerSegment := event.segment
      failureReason := event.failureReason
      retryNumber := 1
      amountPaise := event.amountPaise } (world.ids loop.drawn) with
    | some (drawn, resultPay) =>
        let vr := verifyPaymentAttempt ("baseline-" ++ toString i) resultPay
        .ok (decide (vr.outcome = .recovered), { loop with drawn := drawn })
    | none => .error ⟨"list index out of range", loop.run, loop.flushes⟩
  else
    match world.agent loop.run i event with
    | .ok final =>
        .ok (final.caseIsRecovered,
          if final.escalationReason = "" then loop else { loop with escalatedCases := loop.escalatedCases + 1 })
    | .error error => .error ⟨error, loop.run, loop.flushes⟩

def count (event : PaymentEvent) (recovered : Bool) (loop : Loop) : Loop :=
  if recovered then { loop with
    totalRecovered := loop.totalRecovered + event.amountPaise
    recoveredCases := loop.recoveredCases + 1 }
  else loop

def updateProgress (world : World) (i : Nat) (loop : Loop) : Except Failure Loop :=
  if (i : Int) % max 1 (loop.run.numEvents / 20) = 0 then
    let progress := PyFloat.double (PyFloat.double ((i : ℚ) / loop.run.numEvents) * 100)
    flush world { loop with run := { loop.run with progressPct := progress } }
  else .ok loop

/-- A body of the loop over the events. -/
def processEvent (world : World) (i : Nat) (event : PaymentEvent) (loop : Loop) : Except Failure Loop := do
  let (recovered, loop) ← attempt world i event loop
  updateProgress world i (count event recovered loop)

def processEvents (world : World) : Nat → List PaymentEvent → Loop → Except Failure Loop
  | _, [], loop => .ok loop
  | i, event :: events, loop => do
      let loop ← processEvent world i event loop
      processEvents world (i + 1) events loop

/-- The run with its figures. -/
def completed (events : List PaymentEvent) (loop : Loop) : SimulationRun :=
  let totalAtRisk := (events.map PaymentEvent.amountPaise).sum
  let rate := if totalAtRisk > 0 then
      Metrics.round2 (PyFloat.double (PyFloat.double ((loop.totalRecovered : ℚ) / totalAtRisk) * 100))
    else 0
  { loop.run with
    status := "COMPLETED"
    progressPct := 100
    revenueAtRiskPaise := totalAtRisk
    revenueRecoveredPaise := loop.totalRecovered
    recoveryRatePct := rate
    totalCases := events.length
    recoveredCases := loop.recoveredCases
    escalatedCases := loop.escalatedCases
    policyViolations := 0
    results := some {
      revenueAtRiskPaise := totalAtRisk
      revenueRecoveredPaise := loop.totalRecovered
      recoveryRatePct := rate
      simulationId := loop.run.simulationId
      seed := loop.run.randomSeed } }

/-- The part of `execute_run` inside its `try`. -/
def simulate (world : World) (run : SimulationRun) : Except Failure Loop := do
  let failure (error : String) : Failure := ⟨error, run, 1⟩
  let events ← (world.generateBatch run.randomSeed run.numCustomers run.numEvents run.simulationId).mapError failure
  let _ ← world.activePolicyConfig.mapError failure
  let loop ← processEvents world 0 events.val { run := run, flushes := 1 }
  flush world { loop with run := completed events.val loop }

inductive Outcome
  | returned (run : SimulationRun)
  | raised (error : String) (run : SimulationRun)

def running (run : SimulationRun) : SimulationRun := { run with status := "RUNNING" }

/-- `execute_run` on the run that it finds. -/
def executeRun (world : World) (run : SimulationRun) : Outcome :=
  match world.flush 0 (running run) with
  | some error => .raised error (running run)
  | none =>
      match simulate world (running run) with
      | .ok loop => .returned loop.run
      | .error failure =>
          let run := { failure.run with status := "FAILED", error := some failure.error }
          match world.flush failure.flushes run with
          | none => .returned run
          | some error => .raised error run

/-- The figures of a run are those of a batch. -/
structure Reports (run : SimulationRun) (figures : BatchMetrics) : Prop where
  revenueAtRisk : run.revenueAtRiskPaise = figures.totalAtRiskPaise
  revenueRecovered : run.revenueRecoveredPaise = figures.totalRecoveredPaise
  recoveredCases : run.recoveredCases = figures.recoveredCount
  totalCases : run.totalCases = figures.totalEvents
  recoveryRate : run.recoveryRatePct = figures.recoveryRatePct
  results : ∃ results, run.results = some results ∧ results.revenueAtRiskPaise = figures.totalAtRiskPaise ∧
    results.revenueRecoveredPaise = figures.totalRecoveredPaise ∧ results.recoveryRatePct = figures.recoveryRatePct

variable {world : World} {run : SimulationRun} {event : PaymentEvent} {events : List PaymentEvent} {loop loop' : Loop} {i : Nat}

theorem flush_ok (h : flush world loop = .ok loop') : loop' = { loop with flushes := loop.flushes + 1 } := by
  rw [flush] at h
  split at h
  · exact (Except.ok.inj h).symm
  · cases h

theorem flush_of_none (h : world.flush loop.flushes loop.run = none) :
    flush world loop = .ok { loop with flushes := loop.flushes + 1 } := by
  rw [flush, h]

/-- The attempt of a baseline takes one number of the stream. -/
theorem attempt_baseline (world : World) (i : Nat) (event : PaymentEvent) (hbase : loop.run.isBaseline = true) :
    attempt world i event loop =
      .ok (goesThrough (world.random loop.run.randomSeed) loop.drawn event, { loop with drawn := loop.drawn + 1 }) := by
  obtain ⟨result, hresult, hrecovered, -⟩ := first_retry (world.random loop.run.randomSeed) loop.drawn event
    ⟨"baseline-" ++ toString i, event.customerId, event.segment, event.failureReason, 1, event.amountPaise, "INR"⟩
    (world.ids loop.drawn) ("baseline-" ++ toString i) rfl rfl rfl rfl
  rw [attempt, if_pos hbase, hresult]
  exact congrArg (fun recovered => Except.ok (recovered, { loop with drawn := loop.drawn + 1 })) hrecovered

/-- What a body of the loop changes in a baseline run. -/
structure Counted (world : World) (event : PaymentEvent) (loop loop' : Loop) : Prop where
  isBaseline : loop'.run.isBaseline = loop.run.isBaseline
  randomSeed : loop'.run.randomSeed = loop.run.randomSeed
  drawn : loop'.drawn = loop.drawn + 1
  totalRecovered : loop'.totalRecovered = loop.totalRecovered +
    if goesThrough (world.random loop.run.randomSeed) loop.drawn event then event.amountPaise else 0
  recoveredCases : loop'.recoveredCases = loop.recoveredCases +
    if goesThrough (world.random loop.run.randomSeed) loop.drawn event then 1 else 0

theorem count_counted (world : World) (event : PaymentEvent) (loop : Loop) :
    Counted world event loop (count event (goesThrough (world.random loop.run.randomSeed) loop.drawn event)
      { loop with drawn := loop.drawn + 1 }) := by
  cases hgo : goesThrough (world.random loop.run.randomSeed) loop.drawn event <;> constructor <;> simp [count, hgo]

/-- The progress of a run leaves its counts. -/
theorem updateProgress_counted {counted : Loop} (h : Counted world event loop counted)
    (hprogress : updateProgress world i counted = .ok loop') : Counted world event loop loop' := by
  rw [updateProgress] at hprogress
  split at hprogress
  · rw [flush_ok hprogress]
    exact ⟨h.isBaseline, h.randomSeed, h.drawn, h.totalRecovered, h.recoveredCases⟩
  · rw [← Except.ok.inj hprogress]
    exact h

theorem processEvent_counted (hbase : loop.run.isBaseline = true) (h : processEvent world i event loop = .ok loop') :
    Counted world event loop loop' := by
  rw [processEvent, attempt_baseline world i event hbase] at h
  exact updateProgress_counted (count_counted world event loop) h

/-- The loop adds up the amounts of the events whose retry goes through. -/
theorem processEvents_totals (hbase : loop.run.isBaseline = true) (h : processEvents world i events loop = .ok loop') :
    loop'.totalRecovered = loop.totalRecovered +
      ((recoveredEvents (world.random loop.run.randomSeed) loop.drawn events).map PaymentEvent.amountPaise).sum ∧
    loop'.recoveredCases = loop.recoveredCases +
      (recoveredEvents (world.random loop.run.randomSeed) loop.drawn events).length := by
  induction events generalizing i loop with
  | nil =>
      rw [← Except.ok.inj h]
      simp [recoveredEvents]
  | cons event events ih =>
      rw [processEvents] at h
      cases hevent : processEvent world i event loop with
      | error failure =>
          rw [hevent] at h
          cases h
      | ok next =>
          rw [hevent] at h
          have hcounted := processEvent_counted hbase hevent
          have hrest := ih (hcounted.isBaseline.trans hbase) h
          rw [hcounted.randomSeed, hcounted.drawn, hcounted.totalRecovered, hcounted.recoveredCases] at hrest
          rw [hrest.1, hrest.2]
          cases hgo : goesThrough (world.random loop.run.randomSeed) loop.drawn event with
          | true =>
              simp only [recoveredEvents, hgo, if_true, List.map_cons, List.sum_cons, List.length_cons]
              omega
          | false =>
              simp only [recoveredEvents, hgo, Bool.false_eq_true, if_false]
              omega

section

variable (hflush : ∀ flushes run, world.flush flushes run = none)

include hflush

theorem processEvent_ok (i : Nat) (event : PaymentEvent) (hbase : loop.run.isBaseline = true) :
    ∃ loop', processEvent world i event loop = .ok loop' := by
  rw [processEvent, attempt_baseline world i event hbase]
  change ∃ loop', updateProgress world i _ = .ok loop'
  rw [updateProgress]
  split
  · exact ⟨_, flush_of_none (hflush _ _)⟩
  · exact ⟨_, rfl⟩

theorem processEvents_ok (i : Nat) (events : List PaymentEvent) (hbase : loop.run.isBaseline = true) :
    ∃ loop', processEvents world i events loop = .ok loop' := by
  induction events generalizing i loop with
  | nil => exact ⟨loop, rfl⟩
  | cons event events ih =>
      obtain ⟨next, hnext⟩ := processEvent_ok hflush i event hbase
      obtain ⟨loop', hloop⟩ := ih (i + 1) ((processEvent_counted hbase hnext).isBaseline.trans hbase)
      refine ⟨loop', ?_⟩
      rw [processEvents, hnext]
      exact hloop

end

theorem round2_zero : Metrics.round2 0 = 0 := by
  simp [Metrics.round2, PyFloat.roundHalfEven, PyFloat.double_zero]

/-- The figures of a completed run, when the loop has added up what a batch recovers. -/
theorem completed_reports {results : List BaselineResult} {recovered : List PaymentEvent}
    (hlen : results.length = events.length)
    (hrisk : (results.map BaselineResult.amountPaise).sum = (events.map PaymentEvent.amountPaise).sum)
    (hcount : (results.filter fun r => r.outcome = "RECOVERED").length = recovered.length)
    (hsum : ((results.filter fun r => r.outcome = "RECOVERED").map BaselineResult.amountRecovered).sum =
      (recovered.map PaymentEvent.amountPaise).sum)
    (htotal : loop.totalRecovered = (recovered.map PaymentEvent.amountPaise).sum)
    (hcases : loop.recoveredCases = recovered.length) :
    Reports (completed events loop) (computeMetrics results) := by
  have hrate : (completed events loop).recoveryRatePct = (computeMetrics results).recoveryRatePct := by
    simp only [completed, computeMetrics, hrisk, hsum, htotal]
    split
    · rfl
    · exact round2_zero.symm
  exact {
    revenueAtRisk := hrisk.symm
    revenueRecovered := htotal.trans hsum.symm
    recoveredCases := hcases.trans hcount.symm
    totalCases := hlen.symm
    recoveryRate := hrate
    results := ⟨_, rfl, hrisk.symm, htotal.trans hsum.symm, hrate⟩ }

/-- A run whose `try` succeeds ends with the figures of the loop over its events. -/
theorem simulate_run (run : SimulationRun) {batch : Batch run.numEvents} {final : Loop}
    (hgen : world.generateBatch run.randomSeed run.numCustomers run.numEvents run.simulationId = .ok batch)
    (h : simulate world run = .ok final) :
    ∃ loop, processEvents world 0 batch.val { run := run, flushes := 1 } = .ok loop ∧
      final.run = completed batch.val loop := by
  simp only [simulate, hgen, Except.mapError, bind, Except.bind] at h
  cases hpolicy : world.activePolicyConfig with
  | error error =>
      rw [hpolicy] at h
      cases h
  | ok config =>
      rw [hpolicy] at h
      cases hloop : processEvents world 0 batch.val { run := run, flushes := 1 } with
      | error failure =>
          simp only [hloop] at h
          cases h
      | ok loop =>
          simp only [hloop] at h
          exact ⟨loop, rfl, by rw [flush_ok h]⟩

/-- A run that comes back as completed is the one of its `try`. -/
theorem executeRun_completed {final : SimulationRun} (h : executeRun world run = .returned final)
    (hstatus : final.status = "COMPLETED") :
    ∃ loop, simulate world (running run) = .ok loop ∧ loop.run = final := by
  simp only [executeRun] at h
  split at h
  · cases h
  · split at h
    next loop hloop => exact ⟨loop, hloop, Outcome.returned.inj h⟩
    next failure hfailure =>
      split at h
      · rw [← Outcome.returned.inj h] at hstatus
        have hfailed : "FAILED" = "COMPLETED" := hstatus
        exact absurd hfailed (by decide)
      · cases h

/-- A completed baseline run reports what a baseline batch with its seed reports on its events, and a baseline run
completes when the policy is there and no flush fails. -/
theorem baselines_agree (world : World) (run : SimulationRun) (ids : Nat → Draws) (batch : Batch run.numEvents)
    (hbase : run.isBaseline = true)
    (hgen : world.generateBatch run.randomSeed run.numCustomers run.numEvents run.simulationId = .ok batch) :
    ∃ results, runBatch (world.random run.randomSeed) ids 0 batch.val = some results ∧
      (∀ final, executeRun world run = .returned final → final.status = "COMPLETED" →
        Reports final (computeMetrics results)) ∧
      (world.activePolicyConfig = .ok () → (∀ flushes run, world.flush flushes run = none) →
        ∃ final, executeRun world run = .returned final ∧ final.status = "COMPLETED") := by
  obtain ⟨results, hresults, hlen, hrisk, hcount, hsum⟩ := runBatch_totals (world.random run.randomSeed) ids 0 batch.val
  refine ⟨results, hresults, fun final hfinal hstatus => ?_, fun hpolicy hflush => ?_⟩
  · obtain ⟨last, hlast, rfl⟩ := executeRun_completed hfinal hstatus
    obtain ⟨loop, hloop, hrun⟩ := simulate_run (running run) hgen hlast
    obtain ⟨htotal, hcases⟩ := processEvents_totals hbase hloop
    rw [hrun]
    exact completed_reports hlen hrisk hcount hsum (htotal.trans (zero_add _)) (hcases.trans (zero_add _))
  · have hrunning : world.generateBatch (running run).randomSeed (running run).numCustomers (running run).numEvents
        (running run).simulationId = .ok batch := hgen
    have hstart : ({ run := running run, flushes := 1 } : Loop).run.isBaseline = true := hbase
    obtain ⟨loop, hloop⟩ := processEvents_ok hflush 0 batch.val hstart
    have hsimulate : simulate world (running run) =
        .ok { loop with run := completed batch.val loop, flushes := loop.flushes + 1 } := by
      simp only [simulate, hrunning, hpolicy, Except.mapError, bind, Except.bind, hloop]
      exact flush_of_none (hflush _ _)
    refine ⟨completed batch.val loop, ?_, rfl⟩
    simp only [executeRun, hflush, hsimulate]

def zeroDraws : Draws := ⟨⟨List.replicate 32 0, rfl⟩, ⟨List.replicate 32 0, rfl⟩⟩

def sampleEvent : PaymentEvent where
  eventId := "EVT-1"
  customerId := "CUST-1"
  segment := "STANDARD"
  failureReason := .insufficientFunds
  amountPaise := 49900
  currency := "INR"
  amount_pos := by decide

/-- A stream whose first number lets a retry through, and a database that never fails. -/
def sampleWorld : World where
  random := fun _ drawn => if drawn = 0 then 0 else 1
  generateBatch := fun _ _ numEvents _ => .ok ⟨List.replicate numEvents.toNat sampleEvent, List.length_replicate⟩
  activePolicyConfig := .ok ()
  agent := fun _ _ _ => .ok {}
  ids := fun _ => zeroDraws
  flush := fun _ _ => none

def sampleRun : SimulationRun where
  simulationId := "SIM-1"
  randomSeed := 42
  numCustomers := 1
  numEvents := 2
  isBaseline := true

theorem baselines_agree_sample :
    ∃ results final, runBatch (sampleWorld.random 42) (fun _ => zeroDraws) 0 [sampleEvent, sampleEvent] = some results ∧
      executeRun sampleWorld sampleRun = .returned final ∧ Reports final (computeMetrics results) := by
  obtain ⟨results, hresults, hreports, hcompletes⟩ := baselines_agree sampleWorld sampleRun (fun _ => zeroDraws)
    ⟨[sampleEvent, sampleEvent], rfl⟩ rfl rfl
  obtain ⟨final, hfinal, hstatus⟩ := hcompletes rfl (fun _ _ => rfl)
  exact ⟨results, final, hresults, hfinal, hreports final hfinal hstatus⟩

end RevenueRescue.SimulationService
