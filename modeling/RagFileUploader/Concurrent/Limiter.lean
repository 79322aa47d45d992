import RagFileUploader.Concurrent.Reachable

/-!
# Calls of the rate limiter

The four methods of the rate limiter as they see one counter, interleaved command by command.  A
call issues at most two commands; `LimiterPhase` says which of them it has behind it, and so which
one comes next.
-/

namespace RagFileUploader

open Effects Stores

variable {env : Environment} {settings : Settings} {w : UUID}

/-- A call of one of the limiter's methods. -/
inductive LimiterCall where
  | checkAndIncrement
  | decrement
  | getCurrentCount
  | reset
  deriving DecidableEq

/-- The call as a program, with the count that `get_current_count` returns. -/
def LimiterCall.program (settings : Settings) (w : UUID) : LimiterCall → Service (Option ℤ)
  | .checkAndIncrement => (fun _ => none) <$> RedisRateLimiter.checkAndIncrement settings w
  | .decrement => (fun _ => none) <$> RedisRateLimiter.decrement w
  | .getCurrentCount => some <$> RedisRateLimiter.getCurrentCount w
  | .reset => (fun _ => none) <$> RedisRateLimiter.reset w

/-- Calls of the limiter that are about to start. -/
def limiterPool (settings : Settings) (w : UUID) (σ : World) (calls : List LimiterCall) :
    Pool serviceSignature World (Option ℤ) where
  state := σ
  threads := calls.map (LimiterCall.program settings w)
  journal := []

/-! ## Phases -/

/-- How far a call has got. -/
inductive LimiterPhase where
  | start (call : LimiterCall)
  /-- The count was below the limit. -/
  | admitted
  /-- The call has found or made the counter negative. -/
  | clamping (call : LimiterCall)
  /-- All commands were issued and none has failed. -/
  | through (call : LimiterCall)
  /-- The call was refused, or a command has failed. -/
  | raised (call : LimiterCall)
  deriving DecidableEq

namespace LimiterPhase

/-- Whose phase it is. -/
def call : LimiterPhase → LimiterCall
  | start call | clamping call | through call | raised call => call
  | admitted => .checkAndIncrement

/-- The command that comes next. -/
def command? (w : UUID) : LimiterPhase → Option Command
  | start .checkAndIncrement | start .getCurrentCount => some (.hgetCounter w)
  | start .decrement => some (.hincrbyCounter w (-1))
  | start .reset | clamping _ => some (.hsetCounter w 0)
  | admitted => some (.hincrbyCounter w 1)
  | through _ | raised _ => none

/-- After a reply. -/
def after (limit : ℤ) (phase : LimiterPhase) (c : Command) (reply : Except Exc c.Reply) :
    LimiterPhase :=
  match phase, c, reply with
  | start .checkAndIncrement, .hgetCounter _, .ok count? =>
      if count?.getD 0 ≥ limit then raised .checkAndIncrement else admitted
  | start .decrement, .hincrbyCounter _ _, .ok count =>
      if count < 0 then clamping .decrement else through .decrement
  | start .getCurrentCount, .hgetCounter _, .ok count? =>
      if count?.getD 0 < 0 then clamping .getCurrentCount else through .getCurrentCount
  | phase, _, .ok _ => through phase.call
  | phase, _, .error _ => raised phase.call

/-- A call that returns has come through, one that raises has not, and has no increment left to
make. -/
def Ended : Except Exc (Option ℤ) → LimiterPhase → Prop
  | .ok _, phase => phase = through phase.call
  | .error _, phase => phase = raised phase.call ∨ phase = start phase.call

@[simp] theorem call_after (limit : ℤ) (phase : LimiterPhase) (c : Command)
    (reply : Except Exc c.Reply) : (phase.after limit c reply).call = phase.call := by
  unfold after
  split
  · split <;> rfl
  · split <;> rfl
  · split <;> rfl
  · rfl
  · rfl

end LimiterPhase

/-- A call issues the commands of its phases, whatever the replies. -/
def limiterMonitor (settings : Settings) (w : UUID) : Monitor serviceSignature LimiterPhase where
  may := fun phase c => phase.command? w = some c
  replies := fun _ _ _ => True
  after := fun phase c reply => phase.after settings.maxConcurrentUploads c reply

/-! ## One command -/

/-- What the next command of a call does to the counter, and where it leads the call. -/
inductive LimiterStep (limit : ℤ) (w : UUID) (σ : World) :
    LimiterPhase → Command → LimiterPhase → World → Prop
  | enter (h : σ.counter w < limit) :
      LimiterStep limit w σ (.start .checkAndIncrement) (.hgetCounter w) .admitted σ
  | refuse (h : limit ≤ σ.counter w) : LimiterStep limit w σ (.start .checkAndIncrement)
      (.hgetCounter w) (.raised .checkAndIncrement) σ
  | increment : LimiterStep limit w σ .admitted (.hincrbyCounter w 1) (.through .checkAndIncrement)
      (σ.setCounter w (σ.counter w + 1))
  | release (h : 0 < σ.counter w) : LimiterStep limit w σ (.start .decrement)
      (.hincrbyCounter w (-1)) (.through .decrement) (σ.setCounter w (σ.counter w - 1))
  | undershoot (h : σ.counter w ≤ 0) : LimiterStep limit w σ (.start .decrement)
      (.hincrbyCounter w (-1)) (.clamping .decrement) (σ.setCounter w (σ.counter w - 1))
  | query (phase : LimiterPhase) (hphase : phase = .through .getCurrentCount ∨
        phase = .clamping .getCurrentCount) :
      LimiterStep limit w σ (.start .getCurrentCount) (.hgetCounter w) phase σ
  | reset : LimiterStep limit w σ (.start .reset) (.hsetCounter w 0) (.through .reset)
      (σ.setCounter w 0)
  | clamp (call : LimiterCall) : LimiterStep limit w σ (.clamping call) (.hsetCounter w 0)
      (.through call) (σ.setCounter w 0)

theorem limiterStep_act {limit : ℤ} {σ : World} {phase : LimiterPhase} {c : Command}
    (hc : phase.command? w = some c) :
    LimiterStep limit w σ phase c (phase.after limit c (c.act env σ).1) (c.act env σ).2 := by
  cases phase with
  | start call =>
      cases call with
      | checkAndIncrement =>
          cases hc
          change LimiterStep limit w σ _ _ (if σ.counter w ≥ limit then _ else _) σ
          split
          · exact .refuse ‹_›
          · exact .enter (not_le.mp ‹_›)
      | decrement =>
          cases hc
          change LimiterStep limit w σ _ _ (if σ.counter w - 1 < 0 then _ else _)
            (σ.setCounter w (σ.counter w - 1))
          split
          · exact .undershoot (by omega)
          · exact .release (by omega)
      | getCurrentCount =>
          cases hc
          change LimiterStep limit w σ _ _ (if σ.counter w < 0 then _ else _) σ
          split
          · exact .query _ (.inr rfl)
          · exact .query _ (.inl rfl)
      | reset =>
          cases hc
          exact .reset
  | admitted =>
      cases hc
      exact .increment
  | clamping call =>
      cases hc
      exact .clamp call
  | through call => cases hc
  | raised call => cases hc

@[simp] theorem LimiterPhase.after_error {limit : ℤ} {phase : LimiterPhase} {c : Command}
    {e : Exc} :
    phase.after limit c (.error e) = .raised phase.call := by
  unfold after
  split <;> first | contradiction | rfl

/-! ## The methods -/

theorem LimiterCall.obeys_program (settings : Settings) (w : UUID) (c : LimiterCall) :
    (c.program settings w).Obeys (limiterMonitor settings w) LimiterPhase.Ended (.start c) := by
  cases c with
  | checkAndIncrement =>
      refine obeys_map (obeys_ofExcept_bind (fun key hkey => ?_) fun _ _ => .inr rfl)
      obtain rfl := workspaceKey_eq_ok hkey
      rw [Program.obeys_tryCatch, Program.obeys_bind]
      refine obeys_send rfl fun reply _ => ?_
      cases reply with
      | error e => exact .inl rfl
      | ok count? =>
          dsimp only
          -- the monitor takes the same branch as the program
          by_cases hlimit : count?.getD 0 ≥ settings.maxConcurrentUploads
          · have hafter : (limiterMonitor settings key).after (.start .checkAndIncrement)
                (.hgetCounter key) (.ok count?) = .raised .checkAndIncrement := if_pos hlimit
            rw [hafter, raiseIf, if_pos hlimit]
            exact .inl rfl
          · have hafter : (limiterMonitor settings key).after (.start .checkAndIncrement)
                (.hgetCounter key) (.ok count?) = .admitted := if_neg hlimit
            rw [hafter, raiseIf, if_neg hlimit]
            refine obeys_map (obeys_send rfl fun reply _ => ?_)
            cases reply with
            | error e => exact .inl rfl
            | ok count => rfl
  | decrement =>
      refine obeys_map (obeys_ofExcept_bind (fun key hkey => ?_) fun _ _ => .inr rfl)
      obtain rfl := workspaceKey_eq_ok hkey
      rw [Program.obeys_tryCatch, Program.obeys_bind]
      refine obeys_send rfl fun reply _ => ?_
      cases reply with
      | error e => exact .inl rfl
      | ok count =>
          dsimp only
          -- below zero the program goes on to the clamp
          by_cases hcount : count < 0
          · have hafter : (limiterMonitor settings key).after (.start .decrement)
                (.hincrbyCounter key (-1)) (.ok count) = .clamping .decrement := if_pos hcount
            rw [hafter, if_pos hcount]
            refine obeys_send rfl fun reply _ => ?_
            cases reply with
            | error e => exact .inl rfl
            | ok _ => rfl
          · have hafter : (limiterMonitor settings key).after (.start .decrement)
                (.hincrbyCounter key (-1)) (.ok count) = .through .decrement := if_neg hcount
            rw [hafter, if_neg hcount]
            rfl
  | getCurrentCount =>
      refine obeys_map (obeys_ofExcept_bind (fun key hkey => ?_) fun _ _ => .inr rfl)
      obtain rfl := workspaceKey_eq_ok hkey
      rw [Program.obeys_tryCatch, Program.obeys_bind]
      refine obeys_send rfl fun reply _ => ?_
      cases reply with
      | error e => exact .inl rfl
      | ok count? =>
          dsimp only
          by_cases hcount : count?.getD 0 < 0
          · have hafter : (limiterMonitor settings key).after (.start .getCurrentCount)
                (.hgetCounter key) (.ok count?) = .clamping .getCurrentCount := if_pos hcount
            rw [hafter, if_pos hcount, Program.obeys_bind]
            refine obeys_send rfl fun reply _ => ?_
            cases reply with
            | error e => exact .inl rfl
            | ok _ => rfl
          · have hafter : (limiterMonitor settings key).after (.start .getCurrentCount)
                (.hgetCounter key) (.ok count?) = .through .getCurrentCount := if_neg hcount
            rw [hafter, if_neg hcount]
            rfl
  | reset =>
      refine obeys_map (obeys_ofExcept_bind (fun key hkey => ?_) fun _ _ => .inr rfl)
      obtain rfl := workspaceKey_eq_ok hkey
      rw [Program.obeys_tryCatch]
      refine obeys_send rfl fun reply _ => ?_
      cases reply with
      | error e => exact .inl rfl
      | ok _ => rfl

theorem watched_limiterPool (settings : Settings) (w : UUID) {σ : World}
    {calls : List LimiterCall} {I : List LimiterPhase → World → List (ℕ × Command) → Prop}
    (h : I (calls.map .start) σ []) :
    Pool.Watched (limiterMonitor settings w) LimiterPhase.Ended I
      (limiterPool settings w σ calls) (calls.map .start) := by
  refine ⟨?_, h⟩
  clear h
  unfold limiterPool
  induction calls with
  | nil => exact .nil
  | cons c calls ih => exact .cons (c.obeys_program settings w) ih

end RagFileUploader
