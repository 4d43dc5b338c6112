import RevenueRescue.Agents.Effects

namespace RevenueRescue.RunOutcome

open Enums PolicySchema PolicyEngine AgentSchemas NodeUtils DeterministicNodes
open RecoveryGraph GraphEffects Machine

variable {policy : PolicyConfig} {limit : Nat} {s u : AgentState} {n m : Node} {w : NodeInput}
variable {effect : Option Effect} {r r' : Run} {P : Run → NodeInput → Prop}

theorem advance_finished {count : Nat} (h : advance limit count n s = .finished) : n = .completion := by
  unfold advance at h
  cases n <;> first | rfl | (simp only [successor] at h; cases h)

theorem found_edge (hn : n = .riskDetection ∨ n = .completion) (hr : s.caseIsRecovered = true)
    (hu : Returns policy s w n effect u) :
    u.verificationResult = s.verificationResult ∧
      ∀ m, Edge (wrapNode n u) n m → m = .riskDetection ∨ m = .completion := by
  rcases hn with rfl | rfl
  · cases hu with
    | riskPassed h => rw [hr] at h; cases h
    | riskStopped =>
        refine ⟨rfl, fun m he => ?_⟩
        cases he with
        | rejected => exact .inr rfl
        | accepted h => simp at h
  · cases hu with
    | completion => exact ⟨rfl, fun m he => by cases he⟩

theorem unverified_of_reach (hr : s.caseIsRecovered = true) (hv : s.verificationResult = none)
    (h : Reach (step policy limit) P (start s) r) : r.state.verificationResult = none := by
  have hfound : r.state.verificationResult = none ∧
      ∀ n, r.next = .node n → n = .riskDetection ∨ n = .completion := by
    refine h.invariant (I := fun r => r.state.verificationResult = none ∧
      ∀ n, r.next = .node n → n = .riskDetection ∨ n = .completion)
      ⟨hv, fun n hn => .inl (by simpa [start, eq_comm] using hn)⟩ fun r w r' hreach hi _ hs => ?_
    cases step_cases hs with
    | gaveUp => exact ⟨hi.1, by simp⟩
    | raised => exact ⟨hi.1, by simp⟩
    | returned hn _ _ hu =>
        obtain ⟨hver, hnext⟩ := found_edge (hi.2 _ hn) (recovered_of_reach hreach hr) hu
        exact ⟨hver.trans hi.1, fun m hm => hnext m (edge_of_advance hm)⟩
  exact hfound.1

theorem verified_of_reach (hs : s.caseIsRecovered = false)
    (h : Reach (step policy limit) P (start s) r) (hr : r.state.caseIsRecovered = true) :
    ∃ v, r.state.verificationResult = some v := by
  refine h.invariant (I := fun r => r.state.caseIsRecovered = true →
    ∃ v, r.state.verificationResult = some v) (fun h => ?_) (fun r w r' _ hi _ hs hr => ?_) hr
  · rw [show (start s).state = s from rfl, hs] at h
    cases h
  · cases step_cases hs with
    | gaveUp | raised => exact hi hr
    | returned _ _ _ hu =>
        cases hu <;> first | exact hi hr | exact ⟨_, rfl⟩

/-- What holds in front of each node so that every run that ends has its case stopped. -/
structure Halting (s : AgentState) (n : Node) : Prop where
  fresh : n = .riskDetection → s.error = none ∧ s.caseIsStopped = false
  unresolved : n ≠ .riskDetection → n ≠ .completion → s.caseIsRecovered = false
  completion : n = .completion → s.caseIsStopped = true ∨
    (s.policyResult.map (·.decision) = some .denied ∧ s.caseIsRecovered = false)

theorem halting_edge (h : Halting s n) (hu : Returns policy s w n effect u)
    (he : Edge (wrapNode n u) n m) : Halting (wrapNode n u) m := by
  cases he with
  | rejected hstop =>
      refine ⟨nofun, by simp, fun _ => ?_⟩
      cases hu with
      | riskStopped => exact .inl rfl
      | riskPassed => simp [h.fresh rfl] at hstop
  | accepted hstop =>
      refine ⟨nofun, fun _ _ => ?_, nofun⟩
      cases hu with
      | riskStopped => cases hstop
      | riskPassed hr => exact hr
  | refused hd =>
      have hr : s.caseIsRecovered = false := h.unresolved (by decide) (by decide)
      refine ⟨nofun, by simp, fun _ => .inr ?_⟩
      cases hu with
      | policyMissing _ result hes => simp [hes] at hd
      | policyDecided => exact ⟨by simpa using hd, hr⟩
  | recovered hr =>
      refine ⟨nofun, by simp, fun _ => .inl ?_⟩
      have hs : s.caseIsRecovered = false := h.unresolved (by decide) (by decide)
      cases hu with
      | recovered => rfl
      | unverified | unpaid => exact absurd (hs.symm.trans hr) (by decide)
  | escalation =>
      refine ⟨nofun, by simp, fun _ => .inl ?_⟩
      cases hu
      rfl
  | again hr | exhausted hr => exact ⟨nofun, fun _ _ => hr, nofun⟩
  | contextBuilder | diagnosis | strategy | approved | referred | actionExecution | observation | replan =>
      have hr : s.caseIsRecovered = false := h.unresolved (by decide) (by decide)
      refine ⟨nofun, fun _ _ => ?_, nofun⟩
      cases hu <;> exact hr

theorem halting_of_reach (he : s.error = none) (hs : s.caseIsStopped = false)
    (h : Reach (step policy limit) P (start s) r) :
    (∀ n, r.next = .node n → Halting r.state n) ∧
      (r.next = .finished → r.state.caseIsStopped = true) := by
  refine h.invariant (I := fun r => (∀ n, r.next = .node n → Halting r.state n) ∧
    (r.next = .finished → r.state.caseIsStopped = true)) ⟨fun n hn => ?_, by simp [start]⟩
    fun r w r' _ hi _ hstep => ?_
  · obtain rfl : Node.riskDetection = n := by simpa [start] using hn
    exact ⟨fun _ => ⟨he, hs⟩, by simp, by simp⟩
  · cases step_cases hstep with
    | gaveUp => exact ⟨by simp, by simp [outOfSteps]⟩
    | raised => exact ⟨by simp, by simp⟩
    | returned hn _ _ hu =>
        refine ⟨fun m hm => halting_edge (hi.1 _ hn) hu (edge_of_advance hm), fun hk => ?_⟩
        obtain rfl := advance_finished hk
        have hcompletion := (hi.1 _ hn).completion rfl
        cases hu with
        | completion hstop => exact hstop hcompletion

theorem stopped_of_finished (he : s.error = none) (hs : s.caseIsStopped = false)
    (h : Reach (step policy limit) P (start s) r) (hf : r.next = .finished) :
    r.state.caseIsStopped = true :=
  (halting_of_reach he hs h).2 hf

end RevenueRescue.RunOutcome
