import StreamingPortal.Shared.Tasks

set_option autoImplicit false

/-!
# A task that runs alone

Each operation takes effect and the task is resumed with its result at once; what the
environment answers depends on the frame only.
-/

namespace StreamingPortal.Tasks

structure Solo (Store World Frame : Type) where
  store : Store
  world : World
  frame : Frame

variable {Store World Op Answer Frame Request : Type}
variable (P : Program Store World Op Answer Frame Request) (oracle : Frame → Answer) (p : Nat)

def soloRound (time : Int) (c : Solo Store World Frame) : Option (Solo Store World Frame) :=
  -- From one await to the next; a task that cannot be resumed stays in its frame.
  match P.op c.frame with
  | some op =>
      (P.perform c.store p op).bind fun result =>
        (P.resume (P.tick time c.world) p c.frame result.2).map fun next =>
          ⟨result.1, next.1, next.2⟩
  | none =>
      match P.resume (P.tick time c.world) p c.frame (oracle c.frame) with
      | some next => some ⟨c.store, next.1, next.2⟩
      | none => some { c with world := P.tick time c.world }

def alone (clock : Nat → Int) : Nat → Solo Store World Frame → Option (Solo Store World Frame)
  -- `clock n` is the time when `n` rounds are left.
  | 0, c => some c
  | rounds + 1, c => (soloRound P oracle p (clock rounds) c).bind (alone clock rounds)

variable {P oracle p}

/-- What one round of two runs keeps, any number of rounds keeps. -/
theorem alone_related {R : Solo Store World Frame → Solo Store World Frame → Prop}
    (advance : ∀ time c₁ c₂, R c₁ c₂ →
      ∃ d₁ d₂, soloRound P oracle p time c₁ = some d₁ ∧
        soloRound P oracle p time c₂ = some d₂ ∧ R d₁ d₂)
    (clock : Nat → Int) (rounds : Nat) {c₁ c₂ : Solo Store World Frame} (start : R c₁ c₂) :
    ∃ d₁ d₂, alone P oracle p clock rounds c₁ = some d₁ ∧
      alone P oracle p clock rounds c₂ = some d₂ ∧ R d₁ d₂ := by
  induction rounds generalizing c₁ c₂ with
  | zero => exact ⟨c₁, c₂, rfl, rfl, start⟩
  | succ rounds ih =>
      obtain ⟨d₁, d₂, first₁, first₂, related⟩ := advance (clock rounds) c₁ c₂ start
      obtain ⟨e₁, e₂, rest₁, rest₂, related⟩ := ih related
      exact ⟨e₁, e₂, by simp [alone, first₁, rest₁], by simp [alone, first₂, rest₂], related⟩

/-- A task whose rank drops in every round has finished when there are as many rounds. -/
theorem alone_rank {rank : Frame → Nat} (inv : Solo Store World Frame → Prop)
    (drops : ∀ time c d, inv c → soloRound P oracle p time c = some d →
      inv d ∧ rank d.frame ≤ rank c.frame - 1)
    {clock : Nat → Int} {rounds : Nat} {c d : Solo Store World Frame} (start : inv c)
    (ran : alone P oracle p clock rounds c = some d) :
    inv d ∧ rank d.frame ≤ rank c.frame - rounds := by
  induction rounds generalizing c with
  | zero =>
      obtain rfl := Option.some.inj ran
      exact ⟨start, Nat.le_refl _⟩
  | succ rounds ih =>
      obtain ⟨e, first, rest⟩ := Option.bind_eq_some_iff.mp ran
      obtain ⟨kept, lower⟩ := drops (clock rounds) c e start first
      obtain ⟨kept, lowest⟩ := ih kept rest
      exact ⟨kept, by omega⟩

end StreamingPortal.Tasks
