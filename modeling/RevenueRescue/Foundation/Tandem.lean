namespace RevenueRescue.Tandem

/- Two runs of deterministic machines over one kind of state: step by step they
stand in `together`, until a step after which they only stand in `parted`. -/

variable {σ : Type}

def settle (f : σ → Option σ) : Nat → σ → σ
  | 0, s => s
  | fuel + 1, s =>
      match f s with
      | some t => settle f fuel t
      | none => s

structure Pair (f g : σ → Option σ) (together parted : σ → σ → Prop) : Prop where
  both : ∀ s t, together s t → (f s = none ∧ g t = none) ∨
    ∃ s' t', f s = some s' ∧ g t = some t' ∧ (together s' t' ∨ parted s' t')
  left : ∀ s s' t, parted s t → f s = some s' → parted s' t
  right : ∀ s t t', parted s t → g t = some t' → parted s t'

variable {f g : σ → Option σ} {together parted : σ → σ → Prop} {s t : σ}

theorem settle_none (h : f s = none) (fuel : Nat) : settle f fuel s = s := by
  cases fuel with
  | zero => rfl
  | succ fuel => simp only [settle, h]

theorem settle_succ (fuel : Nat) : settle f (fuel + 1) s = (f (settle f fuel s)).getD (settle f fuel s) := by
  induction fuel generalizing s with
  | zero =>
      unfold settle
      cases f s <;> rfl
  | succ fuel ih =>
      rw [settle]
      cases h : f s with
      | none => simp only [settle_none h, h, Option.getD_none]
      | some u => exact ih.trans (by simp only [settle, h])

theorem settle_keeps {P : σ → Prop} (hstep : ∀ s t, P s → f s = some t → P t) (fuel : Nat) (hs : P s) :
    P (settle f fuel s) := by
  induction fuel generalizing s with
  | zero => exact hs
  | succ fuel ih =>
      rw [settle]
      cases h : f s with
      | none => exact hs
      | some u => exact ih (hstep s u hs h)

theorem Pair.parted_settle (h : Pair f g together parted) (hp : parted s t) (m n : Nat) :
    parted (settle f m s) (settle g n t) :=
  settle_keeps (P := fun u => parted (settle f m s) u) (fun u v hu hv => h.right _ u v hu hv) n
    (settle_keeps (P := fun u => parted u t) (fun u v hu hv => h.left u v t hu hv) m hp)

theorem Pair.settle (h : Pair f g together parted) (hs : together s t) (fuel : Nat) :
    together (settle f fuel s) (settle g fuel t) ∨ parted (settle f fuel s) (settle g fuel t) := by
  induction fuel generalizing s t with
  | zero => exact .inl hs
  | succ fuel ih =>
      rcases h.both s t hs with ⟨hf, hg⟩ | ⟨s', t', hf, hg, hnext | hnext⟩
      · rw [settle_none hf, settle_none hg]
        exact .inl hs
      · simp only [Tandem.settle, hf, hg]
        exact ih hnext
      · simp only [Tandem.settle, hf, hg]
        exact .inr (h.parted_settle hnext fuel fuel)

end RevenueRescue.Tandem
