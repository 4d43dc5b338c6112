import RevenueRescue.Backend.SimulationService

namespace RevenueRescue.SimulationService

open SimulatorProvider PaymentSimulator BaselineSimulator

/-- A run of which only the progress has changed, and that to a percentage. -/
def Progressed (run run' : SimulationRun) : Prop :=
  ∃ progress, run' = { run with progressPct := progress } ∧
    (progress = run.progressPct ∨ 0 ≤ progress ∧ progress ≤ 100)

/-- What the loop does with events: some of them are recovered, and no more escalate than there are. -/
structure Accounts (events : List PaymentEvent) (loop loop' : Loop) : Prop where
  run : Progressed loop.run loop'.run
  recovered : ∃ recovered : List PaymentEvent, recovered.Sublist events ∧
    loop'.totalRecovered = loop.totalRecovered + (recovered.map PaymentEvent.amountPaise).sum ∧
    loop'.recoveredCases = loop.recoveredCases + recovered.length
  escalated : loop.escalatedCases ≤ loop'.escalatedCases ∧ loop'.escalatedCases ≤ loop.escalatedCases + events.length
  baseline : loop.run.isBaseline = true → loop'.escalatedCases = loop.escalatedCases

/-- The books of a completed run on its events. -/
structure Balanced (run : SimulationRun) (events : List PaymentEvent) (final : SimulationRun) : Prop where
  atRisk : final.revenueAtRiskPaise = (events.map PaymentEvent.amountPaise).sum
  recovered : ∃ recovered : List PaymentEvent, recovered.Sublist events ∧
    final.revenueRecoveredPaise = (recovered.map PaymentEvent.amountPaise).sum ∧ final.recoveredCases = recovered.length
  bounded : 0 ≤ final.revenueRecoveredPaise ∧ final.revenueRecoveredPaise ≤ final.revenueAtRiskPaise
  rate : 0 ≤ final.recoveryRatePct ∧ final.recoveryRatePct ≤ 100
  total : final.totalCases = events.length
  escalated : final.escalatedCases ≤ final.totalCases
  baseline : run.isBaseline = true → final.escalatedCases = 0
  progress : final.progressPct = 100
  results : final.results = some {
    revenueAtRiskPaise := final.revenueAtRiskPaise
    revenueRecoveredPaise := final.revenueRecoveredPaise
    recoveryRatePct := final.recoveryRatePct
    simulationId := run.simulationId
    seed := run.randomSeed }

variable {world : World} {run run' final : SimulationRun} {event : PaymentEvent} {events recovered : List PaymentEvent}
  {loop loop' : Loop} {i : Nat} {failure : Failure} {q r : ℚ}

theorem Progressed.refl (run : SimulationRun) : Progressed run run := ⟨run.progressPct, rfl, .inl rfl⟩

theorem Progressed.trans (h : Progressed run run') (h' : Progressed run' final) : Progressed run final := by
  obtain ⟨p, rfl, hp⟩ := h
  obtain ⟨p', rfl, hp'⟩ := h'
  exact ⟨p', rfl, hp'.elim (fun heq => heq ▸ hp) .inr⟩

section Percentages

/-- A share of a whole, as a percentage of doubles. -/
theorem percentage (h0 : 0 ≤ q) (h1 : q ≤ 1) :
    0 ≤ PyFloat.double (PyFloat.double q * 100) ∧ PyFloat.double (PyFloat.double q * 100) ≤ 100 := by
  have hlow : 0 ≤ PyFloat.double q := PyFloat.double_nonneg h0
  have hhigh : PyFloat.double q ≤ 1 := PyFloat.double_one ▸ PyFloat.double_mono h0 h1
  refine ⟨PyFloat.double_nonneg (by positivity), ?_⟩
  have hproduct : PyFloat.double q * 100 ≤ 100 := by linarith
  have hmono := PyFloat.double_mono (by positivity) hproduct
  rwa [PyFloat.double_hundred] at hmono

theorem round2_percentage (h0 : 0 ≤ q) (h1 : q ≤ 100) : 0 ≤ Metrics.round2 q ∧ Metrics.round2 q ≤ 100 := by
  obtain ⟨hlow, hhigh⟩ := PyFloat.roundHalfEven_bounds (n := 10000) (mul_nonneg h0 (by norm_num : (0 : ℚ) ≤ 100))
    (by push_cast; linarith)
  have hlow' : (0 : ℚ) ≤ PyFloat.roundHalfEven (q * 100) := by exact_mod_cast hlow
  have hhigh' : (PyFloat.roundHalfEven (q * 100) : ℚ) ≤ 10000 := by exact_mod_cast hhigh
  refine ⟨PyFloat.double_nonneg (by positivity), ?_⟩
  have hquotient : (PyFloat.roundHalfEven (q * 100) : ℚ) / 100 ≤ 100 := by linarith
  have hmono := PyFloat.double_mono (by positivity) hquotient
  rwa [PyFloat.double_hundred] at hmono

end Percentages

theorem attempt_ok {isRecovered : Bool} (h : attempt world i event loop = .ok (isRecovered, loop')) :
    loop'.run = loop.run ∧ loop'.totalRecovered = loop.totalRecovered ∧ loop'.recoveredCases = loop.recoveredCases ∧
      (loop'.escalatedCases = loop.escalatedCases ∨
        loop.run.isBaseline = false ∧ loop'.escalatedCases = loop.escalatedCases + 1) := by
  by_cases hbase : loop.run.isBaseline = true
  · rw [attempt_baseline world i event hbase] at h
    cases h
    exact ⟨rfl, rfl, rfl, .inl rfl⟩
  · rw [attempt, if_neg hbase] at h
    cases hagent : world.agent loop.run i event with
    | error error =>
        rw [hagent] at h
        cases h
    | ok state =>
        simp only [hagent] at h
        obtain ⟨-, rfl⟩ := Prod.mk.inj (Except.ok.inj h)
        split
        · exact ⟨rfl, rfl, rfl, .inl rfl⟩
        · exact ⟨rfl, rfl, rfl, .inr ⟨Bool.eq_false_of_not_eq_true hbase, rfl⟩⟩

theorem attempt_error (h : attempt world i event loop = .error failure) : failure.run = loop.run := by
  by_cases hbase : loop.run.isBaseline = true
  · rw [attempt_baseline world i event hbase] at h
    cases h
  · rw [attempt, if_neg hbase] at h
    cases hagent : world.agent loop.run i event with
    | error error =>
        rw [hagent] at h
        cases h
        rfl
    | ok state =>
        rw [hagent] at h
        cases h

theorem flush_error (h : flush world loop = .error failure) : failure.run = loop.run := by
  rw [flush] at h
  split at h
  · cases h
  · cases h
    rfl

theorem progress_percentage (hi : (i : Int) < run.numEvents) :
    Progressed run { run with
      progressPct := PyFloat.double (PyFloat.double ((i : ℚ) / run.numEvents) * 100) } := by
  have hi' : (i : ℚ) < run.numEvents := by exact_mod_cast hi
  have h0 : (0 : ℚ) ≤ i := Nat.cast_nonneg i
  have hpos : (0 : ℚ) < run.numEvents := lt_of_le_of_lt h0 hi'
  exact ⟨_, rfl, .inr (percentage (by positivity) ((div_le_one hpos).mpr hi'.le))⟩

theorem updateProgress_ok (hi : (i : Int) < loop.run.numEvents) (h : updateProgress world i loop = .ok loop') :
    Progressed loop.run loop'.run ∧ loop'.totalRecovered = loop.totalRecovered ∧
      loop'.recoveredCases = loop.recoveredCases ∧ loop'.escalatedCases = loop.escalatedCases := by
  rw [updateProgress] at h
  split at h
  · rw [flush_ok h]
    exact ⟨progress_percentage hi, rfl, rfl, rfl⟩
  · cases h
    exact ⟨.refl _, rfl, rfl, rfl⟩

theorem updateProgress_error (hi : (i : Int) < loop.run.numEvents) (h : updateProgress world i loop = .error failure) :
    Progressed loop.run failure.run := by
  rw [updateProgress] at h
  split at h
  · rw [flush_error h]
    exact progress_percentage hi
  · cases h

@[simp] theorem count_run (event : PaymentEvent) (isRecovered : Bool) (loop : Loop) :
    (count event isRecovered loop).run = loop.run := by
  cases isRecovered <;> rfl

@[simp] theorem count_escalated (event : PaymentEvent) (isRecovered : Bool) (loop : Loop) :
    (count event isRecovered loop).escalatedCases = loop.escalatedCases := by
  cases isRecovered <;> rfl

theorem count_recovered (event : PaymentEvent) (isRecovered : Bool) (loop : Loop) :
    ∃ recovered : List PaymentEvent, recovered.Sublist [event] ∧
      (count event isRecovered loop).totalRecovered =
        loop.totalRecovered + (recovered.map PaymentEvent.amountPaise).sum ∧
      (count event isRecovered loop).recoveredCases = loop.recoveredCases + recovered.length := by
  cases isRecovered with
  | false => exact ⟨[], List.nil_sublist _, by simp [count], rfl⟩
  | true => exact ⟨[event], List.Sublist.refl _, by simp [count], rfl⟩

theorem processEvent_accounts (hi : (i : Int) < loop.run.numEvents) (h : processEvent world i event loop = .ok loop') :
    Accounts [event] loop loop' := by
  rw [processEvent] at h
  cases hattempt : attempt world i event loop with
  | error failure =>
      rw [hattempt] at h
      cases h
  | ok next =>
      obtain ⟨isRecovered, next⟩ := next
      obtain ⟨hrun, htotal, hcases, hescalated⟩ := attempt_ok hattempt
      rw [hattempt] at h
      have hcount : (count event isRecovered next).run = loop.run := (count_run ..).trans hrun
      obtain ⟨hprogress, htotal', hcases', hescalated'⟩ := updateProgress_ok (hcount ▸ hi) h
      obtain ⟨recovered, hsub, hsum, hlen⟩ := count_recovered event isRecovered next
      rw [count_escalated] at hescalated'
      refine ⟨hcount ▸ hprogress, ⟨recovered, hsub, ?_, ?_⟩, ?_, fun hbase => ?_⟩
      · rw [htotal', hsum, htotal]
      · rw [hcases', hlen, hcases]
      · rw [hescalated', List.length_singleton]
        omega
      · rcases hescalated with heq | ⟨hagent, -⟩
        · rw [hescalated', heq]
        · rw [hagent] at hbase
          cases hbase

theorem processEvent_error (hi : (i : Int) < loop.run.numEvents) (h : processEvent world i event loop = .error failure) :
    Progressed loop.run failure.run := by
  rw [processEvent] at h
  cases hattempt : attempt world i event loop with
  | error raised =>
      rw [hattempt] at h
      cases h
      rw [attempt_error hattempt]
      exact .refl _
  | ok next =>
      obtain ⟨isRecovered, next⟩ := next
      rw [hattempt] at h
      have hcount : (count event isRecovered next).run = loop.run := (count_run ..).trans (attempt_ok hattempt).1
      exact hcount ▸ updateProgress_error (hcount ▸ hi) h

theorem Accounts.append {first rest : List PaymentEvent} {middle : Loop} (h : Accounts first loop middle)
    (h' : Accounts rest middle loop') : Accounts (first ++ rest) loop loop' := by
  obtain ⟨recovered, hsub, hsum, hlen⟩ := h.recovered
  obtain ⟨recovered', hsub', hsum', hlen'⟩ := h'.recovered
  obtain ⟨p, hp, -⟩ := h.run
  refine ⟨h.run.trans h'.run, ⟨recovered ++ recovered', hsub.append hsub', ?_, ?_⟩, ?_, fun hbase => ?_⟩
  · rw [hsum', hsum, List.map_append, List.sum_append, add_assoc]
  · rw [hlen', hlen, List.length_append, add_assoc]
  · have hlow := h.escalated
    have hhigh := h'.escalated
    rw [List.length_append]
    omega
  · rw [h'.baseline (by rw [hp]; exact hbase), h.baseline hbase]

/-- The loop keeps the books of its events, whatever the agent and the retries come to. -/
theorem processEvents_accounts (hi : i + events.length ≤ loop.run.numEvents.toNat)
    (h : processEvents world i events loop = .ok loop') : Accounts events loop loop' := by
  induction events generalizing i loop with
  | nil =>
      cases h
      exact ⟨.refl _, ⟨[], .refl _, by simp, rfl⟩, ⟨le_rfl, le_rfl⟩, fun _ => rfl⟩
  | cons event events ih =>
      rw [List.length_cons] at hi
      rw [processEvents] at h
      cases hevent : processEvent world i event loop with
      | error failure =>
          rw [hevent] at h
          cases h
      | ok next =>
          rw [hevent] at h
          have hfirst := processEvent_accounts (by omega) hevent
          obtain ⟨p, hp, -⟩ := hfirst.run
          have hnum : next.run.numEvents = loop.run.numEvents := by rw [hp]
          exact hfirst.append (ih (by omega) h)

/-- A loop that is broken off leaves the run without figures. -/
theorem processEvents_error (hi : i + events.length ≤ loop.run.numEvents.toNat)
    (h : processEvents world i events loop = .error failure) : Progressed loop.run failure.run := by
  induction events generalizing i loop with
  | nil => cases h
  | cons event events ih =>
      rw [List.length_cons] at hi
      rw [processEvents] at h
      cases hevent : processEvent world i event loop with
      | error raised =>
          rw [hevent] at h
          cases h
          exact processEvent_error (by omega) hevent
      | ok next =>
          rw [hevent] at h
          have hfirst := (processEvent_accounts (by omega) hevent).run
          obtain ⟨p, hp, -⟩ := hfirst
          have hnum : next.run.numEvents = loop.run.numEvents := by rw [hp]
          exact (processEvent_accounts (by omega) hevent).run.trans (ih (by omega) h)

theorem amounts_nonneg (events : List PaymentEvent) : ∀ amount ∈ events.map PaymentEvent.amountPaise, 0 ≤ amount := by
  intro amount h
  obtain ⟨event, -, rfl⟩ := List.mem_map.mp h
  exact event.amount_pos.le

theorem completed_balanced (h : Accounts events { run := run, flushes := 1 } loop) :
    Balanced run events (completed events loop) := by
  obtain ⟨recovered, hsub, hsum, hlen⟩ := h.recovered
  simp only [zero_add] at hsum hlen
  have hlow : 0 ≤ loop.totalRecovered := hsum ▸ List.sum_nonneg (amounts_nonneg recovered)
  have hhigh : loop.totalRecovered ≤ (events.map PaymentEvent.amountPaise).sum :=
    hsum ▸ (hsub.map _).sum_le_sum (amounts_nonneg events)
  obtain ⟨p, hp, -⟩ := h.run
  refine ⟨rfl, ⟨recovered, hsub, hsum, hlen⟩, ⟨hlow, hhigh⟩, ?_, rfl, ?_, fun hbase => h.baseline hbase, rfl, ?_⟩
  · simp only [completed]
    split
    · rename_i hpos
      have hpos' : (0 : ℚ) < ((events.map PaymentEvent.amountPaise).sum : ℤ) := by exact_mod_cast hpos
      have hlow' : (0 : ℚ) ≤ loop.totalRecovered := by exact_mod_cast hlow
      have hshare : (loop.totalRecovered : ℚ) / ((events.map PaymentEvent.amountPaise).sum : ℤ) ≤ 1 :=
        (div_le_one hpos').mpr (by exact_mod_cast hhigh)
      obtain ⟨h0, h1⟩ := percentage (by positivity) hshare
      exact round2_percentage h0 h1
    · exact ⟨le_rfl, by norm_num⟩
  · have hescalated := h.escalated.2
    rwa [zero_add] at hescalated
  · simp only [completed, hp]

section

variable {batch : Batch run.numEvents}

/-- What the `try` is given, up to its loop. -/
theorem simulate_eq (hgen : world.generateBatch run.randomSeed run.numCustomers run.numEvents run.simulationId = .ok batch)
    (hpolicy : world.activePolicyConfig = .ok ()) :
    simulate world run = (processEvents world 0 batch.val { run := run, flushes := 1 }).bind fun loop =>
      flush world { loop with run := completed batch.val loop } := by
  simp only [simulate, hgen, hpolicy, Except.mapError, bind, Except.bind]

theorem batch_length (batch : Batch run.numEvents) : 0 + batch.val.length ≤ run.numEvents.toNat := by
  rw [Nat.zero_add, batch.property]

end

theorem simulate_ok (h : simulate world run = .ok loop) : ∃ batch : Batch run.numEvents,
    world.generateBatch run.randomSeed run.numCustomers run.numEvents run.simulationId = .ok batch ∧
      ∃ last, Accounts batch.val { run := run, flushes := 1 } last ∧ loop.run = completed batch.val last := by
  cases hgen : world.generateBatch run.randomSeed run.numCustomers run.numEvents run.simulationId with
  | error error =>
      simp only [simulate, hgen, Except.mapError, bind, Except.bind] at h
      cases h
  | ok batch =>
      obtain ⟨last, hlast, hrun⟩ := simulate_run run hgen h
      exact ⟨batch, rfl, last, processEvents_accounts (batch_length batch) hlast, hrun⟩

/-- Where the `try` raises, the run has no figures yet, or it has them all and the last flush failed. -/
theorem simulate_error (h : simulate world run = .error failure) : Progressed run failure.run ∨
    ∃ batch : Batch run.numEvents,
      world.generateBatch run.randomSeed run.numCustomers run.numEvents run.simulationId = .ok batch ∧
        ∃ last, Accounts batch.val { run := run, flushes := 1 } last ∧ failure.run = completed batch.val last := by
  cases hgen : world.generateBatch run.randomSeed run.numCustomers run.numEvents run.simulationId with
  | error error =>
      simp only [simulate, hgen, Except.mapError, bind, Except.bind] at h
      cases h
      exact .inl (.refl run)
  | ok batch =>
      cases hpolicy : world.activePolicyConfig with
      | error error =>
          simp only [simulate, hgen, hpolicy, Except.mapError, bind, Except.bind] at h
          cases h
          exact .inl (.refl run)
      | ok config =>
          rw [simulate_eq hgen hpolicy] at h
          cases hloop : processEvents world 0 batch.val { run := run, flushes := 1 } with
          | error raised =>
              rw [hloop] at h
              cases h
              exact .inl (processEvents_error (batch_length batch) hloop)
          | ok last =>
              rw [hloop] at h
              exact .inr ⟨batch, rfl, last, processEvents_accounts (batch_length batch) hloop, flush_error h⟩

/-- A run that has been executed has either completed with books that balance on the events of its seed, or failed with
its error; a failed run keeps the figures it had, unless it was the flush of the completed run that failed. -/
theorem executeRun_balanced (world : World) (run final : SimulationRun) (h : executeRun world run = .returned final) :
    (final.status = "COMPLETED" ∨ final.status = "FAILED" ∧ final.error.isSome = true) ∧
      ((final.status = "FAILED" ∧ ∃ progress, (progress = run.progressPct ∨ 0 ≤ progress ∧ progress ≤ 100) ∧
          final = { run with status := "FAILED", progressPct := progress, error := final.error }) ∨
        ∃ batch : Batch run.numEvents,
          world.generateBatch run.randomSeed run.numCustomers run.numEvents run.simulationId = .ok batch ∧
            Balanced run batch.val final) := by
  simp only [executeRun] at h
  split at h
  · cases h
  split at h
  next loop hloop =>
    obtain rfl := Outcome.returned.inj h
    obtain ⟨batch, hgen, last, haccounts, hrun⟩ := simulate_ok hloop
    have hbalanced : Balanced (running run) batch.val loop.run := hrun ▸ completed_balanced haccounts
    exact ⟨.inl (by rw [hrun]; rfl), .inr ⟨batch, hgen, { hbalanced with }⟩⟩
  next failure hfailure =>
    split at h
    · obtain rfl := Outcome.returned.inj h
      refine ⟨.inr ⟨rfl, rfl⟩, ?_⟩
      rcases simulate_error hfailure with ⟨progress, hrun, hprogress⟩ | ⟨batch, hgen, last, haccounts, hrun⟩
      · exact .inl ⟨rfl, progress, hprogress, by rw [hrun]; rfl⟩
      · have hbalanced : Balanced (running run) batch.val failure.run := hrun ▸ completed_balanced haccounts
        exact .inr ⟨batch, hgen, { hbalanced with }⟩
    · cases h

/-- An agent that recovers the first event and escalates the second one. -/
def agentWorld : World :=
  { sampleWorld with
    random := fun _ _ => 0
    agent := fun _ i _ => .ok (if i = 0 then { caseIsRecovered := true } else { escalationReason := "ESCALATE" }) }

def agentRun : SimulationRun := { sampleRun with isBaseline := false }

def agentLoop : Loop where
  run := { running agentRun with progressPct := PyFloat.double (PyFloat.double (((1 : Nat) : ℚ) / (2 : Int)) * 100) }
  totalRecovered := 49900
  recoveredCases := 1
  escalatedCases := 1
  flushes := 3

theorem executeRun_balanced_sample : ∃ final, executeRun agentWorld agentRun = .returned final ∧
    final.recoveredCases = 1 ∧ final.escalatedCases = 1 ∧
    ∃ batch : Batch 2, Balanced agentRun batch.val final := by
  have hrun : executeRun agentWorld agentRun = .returned (completed [sampleEvent, sampleEvent] agentLoop) := rfl
  refine ⟨_, hrun, rfl, rfl, ?_⟩
  rcases (executeRun_balanced agentWorld agentRun _ hrun).2 with ⟨hfailed, -⟩ | ⟨batch, -, hbalanced⟩
  · exact absurd hfailed (by decide)
  · exact ⟨batch, hbalanced⟩

end RevenueRescue.SimulationService
