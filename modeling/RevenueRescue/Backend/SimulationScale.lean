import RevenueRescue.Backend.SimulationBooks
import RevenueRescue.Simulator.Population

namespace RevenueRescue.SimulationScale

open PyRandom Generators PaymentSimulator BaselineSimulator SimulationService

/-- The numbers that `random` gives from a state on. -/
def stream (r : Random) : r.State → Nat → ℚ
  | s, 0 => (r.random s).1
  | s, n + 1 => stream r (r.random s).2 n

/-- The events as a run reads them. -/
def toBatch {numEvents : Int} : (events : Except String (List GeneratedEvent)) →
    (∀ found, events = .ok found → found.length = numEvents.toNat) → Except String (Batch numEvents)
  | .ok found, h => .ok ⟨found.map GeneratedEvent.read, (List.length_map _).trans (h found rfl)⟩
  | .error error, _ => .error error

/-- A world whose generators and streams are those of their seeds. -/
def seeded (r : Random) (out : Surroundings) (world : World) : World :=
  { world with
    random := fun seed => stream r (r.seeded seed)
    generateBatch := fun seed numCustomers numEvents simulationId =>
      toBatch (populate r out seed numCustomers numEvents simulationId) fun _ h => (populate_ok h).1 }

variable {r : Random} {out out' : Surroundings} {world world' : World} {run run' final final' : SimulationRun}
  {xs ys : List PaymentEvent} {random : Nat → ℚ} {drawn : Nat}

theorem toBatch_ok {numEvents : Int} {events : Except String (List GeneratedEvent)} {batch : Batch numEvents}
    {hlen : ∀ found, events = .ok found → found.length = numEvents.toNat} (h : toBatch events hlen = .ok batch) :
    ∃ found, events = .ok found ∧ batch.val = found.map GeneratedEvent.read := by
  cases events with
  | error error => cases h
  | ok found =>
      cases h
      exact ⟨found, rfl, rfl⟩

theorem toBatch_of_ok {numEvents : Int} {events : Except String (List GeneratedEvent)} {found : List GeneratedEvent}
    (hlen : ∀ found, events = .ok found → found.length = numEvents.toNat) (h : events = .ok found) :
    ∃ batch, toBatch events hlen = .ok batch := by
  subst h
  exact ⟨_, rfl⟩

theorem recoveredEvents_append (random : Nat → ℚ) (drawn : Nat) (xs ys : List PaymentEvent) :
    recoveredEvents random drawn (xs ++ ys) =
      recoveredEvents random drawn xs ++ recoveredEvents random (drawn + xs.length) ys := by
  induction xs generalizing drawn with
  | nil => rfl
  | cons x xs ih =>
      have hnext : drawn + 1 + xs.length = drawn + (x :: xs).length := by
        rw [List.length_cons]
        omega
      rw [List.cons_append, recoveredEvents, recoveredEvents, ih, hnext]
      split
      · rfl
      · rfl

theorem recoveredEvents_sublist (random : Nat → ℚ) (drawn : Nat) (xs : List PaymentEvent) :
    (recoveredEvents random drawn xs).Sublist xs := by
  induction xs generalizing drawn with
  | nil => exact List.Sublist.refl _
  | cons x xs ih =>
      rw [recoveredEvents]
      split
      · exact (ih _).cons_cons x
      · exact (ih _).cons x

/-- The amounts that the generators draw. -/
def Drawn (x : PaymentEvent) : Prop := 20000 ≤ x.amountPaise ∧ x.amountPaise ≤ 5000000

theorem sum_drawn (h : ∀ x ∈ xs, Drawn x) :
    20000 * (xs.length : Int) ≤ (xs.map PaymentEvent.amountPaise).sum ∧
      (xs.map PaymentEvent.amountPaise).sum ≤ 5000000 * (xs.length : Int) := by
  induction xs with
  | nil => exact ⟨le_rfl, le_rfl⟩
  | cons x xs ih =>
      obtain ⟨hlow, hhigh⟩ := h x List.mem_cons_self
      obtain ⟨hleast, hgreatest⟩ := ih fun y hy => h y (List.mem_cons_of_mem _ hy)
      simp only [List.map_cons, List.sum_cons, List.length_cons, Nat.cast_succ]
      omega

/-- What further events add to what a baseline recovers. -/
theorem recovered_drawn (h : ∀ y ∈ ys, Drawn y) (random : Nat → ℚ) (drawn : Nat) :
    0 ≤ ((recoveredEvents random drawn ys).map PaymentEvent.amountPaise).sum ∧
      ((recoveredEvents random drawn ys).map PaymentEvent.amountPaise).sum ≤ 5000000 * (ys.length : Int) ∧
      (recoveredEvents random drawn ys).length ≤ ys.length := by
  have hsub := recoveredEvents_sublist random drawn ys
  obtain ⟨hlow, hhigh⟩ := sum_drawn fun y hy => h y (hsub.subset hy)
  have hlen := hsub.length_le
  refine ⟨?_, ?_, hlen⟩ <;> omega

/-- A run that has completed has the figures of the events of its seed. -/
theorem completed_seeded (h : executeRun (seeded r out world) run = .returned final)
    (hstatus : final.status = "COMPLETED") :
    ∃ events loop, populate r out run.randomSeed run.numCustomers run.numEvents run.simulationId = .ok events ∧
      final = completed (events.map GeneratedEvent.read) loop ∧
      (run.isBaseline = true → loop.totalRecovered =
          ((recoveredEvents (stream r (r.seeded run.randomSeed)) 0 (events.map GeneratedEvent.read)).map
            PaymentEvent.amountPaise).sum ∧
        loop.recoveredCases =
          (recoveredEvents (stream r (r.seeded run.randomSeed)) 0 (events.map GeneratedEvent.read)).length) := by
  obtain ⟨last, hlast, rfl⟩ := executeRun_completed h hstatus
  obtain ⟨batch, hgen, -⟩ := simulate_ok hlast
  obtain ⟨loop, hloop, hrun⟩ := simulate_run (running run) hgen hlast
  obtain ⟨events, hevents, hbatch⟩ := toBatch_ok hgen
  rw [hbatch] at hrun hloop
  refine ⟨events, loop, hevents, hrun, fun hbase => ?_⟩
  obtain ⟨htotal, hcases⟩ := processEvents_totals hbase hloop
  exact ⟨htotal.trans (zero_add _), hcases.trans (zero_add _)⟩

/-- A baseline that has customers completes, if the policy is there and no flush fails. -/
theorem seeded_completes (r : Random) (out : Surroundings) (hbase : run.isBaseline = true)
    (hcustomers : 0 < run.numCustomers) (hpolicy : world.activePolicyConfig = .ok ())
    (hflush : ∀ flushes run, world.flush flushes run = none) :
    ∃ final, executeRun (seeded r out world) run = .returned final ∧ final.status = "COMPLETED" := by
  obtain ⟨customers, -, -, -, -, hpopulate⟩ :=
    populate_wellFormed r out run.randomSeed run.numCustomers run.numEvents run.simulationId
  rcases hpopulate with ⟨-, hnone, -⟩ | ⟨events, hevents, -⟩
  · omega
  · obtain ⟨batch, hbatch⟩ := toBatch_of_ok (fun _ h => (populate_ok h).1) hevents
    have hgen : (seeded r out world).generateBatch (running run).randomSeed (running run).numCustomers
        (running run).numEvents (running run).simulationId = .ok batch := hbatch
    have hflush' : ∀ flushes run, (seeded r out world).flush flushes run = none := hflush
    have hstart : ({ run := running run, flushes := 1 } : Loop).run.isBaseline = true := hbase
    obtain ⟨loop, hloop⟩ := processEvents_ok hflush' 0 batch.val hstart
    have hsimulate := simulate_eq hgen hpolicy
    rw [hloop] at hsimulate
    refine ⟨completed batch.val loop, ?_, rfl⟩
    have hlast : flush (seeded r out world) { loop with run := completed batch.val loop } =
        .ok { loop with run := completed batch.val loop, flushes := loop.flushes + 1 } := flush_of_none (hflush' _ _)
    simp only [executeRun, hflush', hsimulate, Except.bind, hlast]

theorem drawn_read {events : List GeneratedEvent} {seed numCustomers numEvents : Int} {simulationId : String}
    (h : populate r out seed numCustomers numEvents simulationId = .ok events) :
    ∀ x ∈ events.map GeneratedEvent.read, Drawn x := fun x hx => by
  obtain ⟨event, hmem, rfl⟩ := List.mem_map.mp hx
  exact (populate_ok h).2 event hmem

/-- Of two completed runs with one seed and as many customers, the one with more events has the cases of the other one
and further ones, each of 200 to 50000 rupees; this is all that its figures differ by, whatever clocks, identifiers,
policies, agents and databases the two have met, and a baseline with as many events reports the same. -/
theorem seeded_runs_scale (hseed : run.randomSeed = run'.randomSeed) (hcustomers : run.numCustomers = run'.numCustomers)
    (hevents : run.numEvents ≤ run'.numEvents) (h : executeRun (seeded r out world) run = .returned final)
    (hstatus : final.status = "COMPLETED") (h' : executeRun (seeded r out' world') run' = .returned final')
    (hstatus' : final'.status = "COMPLETED") :
    ∃ further : Nat, final'.totalCases = final.totalCases + further ∧ (run.numEvents = run'.numEvents → further = 0) ∧
      (final.revenueAtRiskPaise + 20000 * further ≤ final'.revenueAtRiskPaise ∧
        final'.revenueAtRiskPaise ≤ final.revenueAtRiskPaise + 5000000 * further) ∧
      (run.isBaseline = true → run'.isBaseline = true →
        (final.revenueRecoveredPaise ≤ final'.revenueRecoveredPaise ∧
          final'.revenueRecoveredPaise ≤ final.revenueRecoveredPaise + 5000000 * further) ∧
        (final.recoveredCases ≤ final'.recoveredCases ∧ final'.recoveredCases ≤ final.recoveredCases + further) ∧
        (run.numEvents = run'.numEvents → final'.recoveryRatePct = final.recoveryRatePct)) := by
  obtain ⟨events, loop, hpopulate, rfl, hbaseline⟩ := completed_seeded h hstatus
  obtain ⟨events', loop', hpopulate', rfl, hbaseline'⟩ := completed_seeded h' hstatus'
  rw [hseed, hcustomers] at hpopulate
  rw [hseed] at hbaseline
  obtain ⟨further, hfurther⟩ := populate_prefix hevents hpopulate hpopulate'
  have hdrawn : ∀ x ∈ further, Drawn x := fun x hx =>
    drawn_read hpopulate' x (hfurther ▸ List.mem_append_right _ hx)
  have hlen : (events'.map GeneratedEvent.read).length = (events.map GeneratedEvent.read).length + further.length := by
    rw [← hfurther, List.length_append]
  have hnone (heq : run.numEvents = run'.numEvents) : further = [] := by
    rw [List.length_map, List.length_map, (populate_ok hpopulate).1, (populate_ok hpopulate').1, heq] at hlen
    exact List.length_eq_zero_iff.mp (by omega)
  obtain ⟨hleast, hgreatest⟩ := sum_drawn hdrawn
  have hrisk : ((events'.map GeneratedEvent.read).map PaymentEvent.amountPaise).sum =
      ((events.map GeneratedEvent.read).map PaymentEvent.amountPaise).sum +
        (further.map PaymentEvent.amountPaise).sum := by
    rw [← hfurther, List.map_append, List.sum_append]
  refine ⟨further.length, hlen, fun heq => by rw [hnone heq, List.length_nil], ?_, fun hbase hbase' => ?_⟩
  · simp only [completed]
    omega
  · obtain ⟨htotal, hcases⟩ := hbaseline hbase
    obtain ⟨htotal', hcases'⟩ := hbaseline' hbase'
    rw [← hfurther, recoveredEvents_append, List.map_append, List.sum_append, ← htotal] at htotal'
    rw [← hfurther, recoveredEvents_append, List.length_append, ← hcases] at hcases'
    obtain ⟨hlow, hhigh, hcount⟩ := recovered_drawn hdrawn (stream r (r.seeded run'.randomSeed))
      (0 + (events.map GeneratedEvent.read).length)
    refine ⟨?_, ?_, fun heq => ?_⟩
    · simp only [completed]
      omega
    · simp only [completed]
      omega
    · obtain rfl := hnone heq
      have hsame : loop'.totalRecovered = loop.totalRecovered := by simpa [recoveredEvents] using htotal'
      rw [List.append_nil] at hfurther
      simp only [completed, hsame, ← hfurther]

/-- A source that counts what is drawn from it. -/
def countingRandom : Random where
  State := Nat
  seeded := Int.toNat
  random := fun s => (0, s + 1)
  randbelow := fun n h s => (⟨s % n, Nat.mod_lt s h⟩, s + 1)

def sampleSurroundings (now : Int) : Surroundings where
  fake := fun _ => ⟨"Asha", "asha@example.com", "98765"⟩
  sha256 := id
  uuid4 := fun _ => .ofDigit 1
  now := now

def longerRun : SimulationRun := { sampleRun with numEvents := 5 }

theorem seeded_runs_scale_sample : ∃ final final' further,
    executeRun (seeded countingRandom (sampleSurroundings 0) sampleWorld) sampleRun = .returned final ∧
      executeRun (seeded countingRandom (sampleSurroundings 1) sampleWorld) longerRun = .returned final' ∧
      final'.totalCases = final.totalCases + further ∧
      final.revenueAtRiskPaise + 20000 * (further : Nat) ≤ final'.revenueAtRiskPaise := by
  have hflush : ∀ flushes run, sampleWorld.flush flushes run = none := fun _ _ => rfl
  have hcustomers : 0 < sampleRun.numCustomers := by decide
  have hcustomers' : 0 < longerRun.numCustomers := by decide
  have hseed : sampleRun.randomSeed = longerRun.randomSeed := rfl
  have hevents : sampleRun.numEvents ≤ longerRun.numEvents := by decide
  obtain ⟨final, hrun, hstatus⟩ := seeded_completes countingRandom (sampleSurroundings 0) rfl hcustomers rfl hflush
  obtain ⟨final', hrun', hstatus'⟩ := seeded_completes countingRandom (sampleSurroundings 1) rfl hcustomers' rfl hflush
  obtain ⟨further, htotal, -, hrisk, -⟩ := seeded_runs_scale hseed rfl hevents hrun hstatus hrun' hstatus'
  exact ⟨final, final', further, hrun, hrun', htotal, hrisk.1⟩

end RevenueRescue.SimulationScale
