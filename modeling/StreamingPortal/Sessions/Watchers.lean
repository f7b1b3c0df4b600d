import StreamingPortal.Sessions.EndSession

set_option autoImplicit false

/-! # `watch_session_timeout` and `watch_idle_sessions` -/

namespace StreamingPortal.Sessions

def seconds (n : Int) : Int := n * 1000000

def watchSessionTimeout (cfg : Config) (w : World) : Frame :=
  .watch (.queryingTimedOut (w.now - seconds cfg.sessionTtl))

def watchIdleSessions (cfg : Config) (w : World) : Frame :=
  .watch (.queryingExpired (w.now - seconds cfg.sessionIdleTimeout))

def stopIdle (now : Int) : List SessionInstance → Frame
  -- The loop of `watch_idle_sessions` over the sessions it has loaded.
  | [] => .watch .sleepingIdle
  | session :: rest => .watch (.savingExpiry (session.markIdleExpired now) rest now)

def watchOp : WatchFrame → Option DbOp
  | .queryingTimedOut cutoff => some (.timedOutSessions cutoff)
  | .queryingExpired cutoff => some (.expiredSessions cutoff)
  | .queryingOrphaned _ cutoff => some (.orphanedSessions cutoff)
  | .savingExpiry session _ _ => some (.save session [.status, .duration])
  | _ => none

def watchResume (cfg : Config) (w : World) : WatchFrame → Answer → Option (World × Frame)
  | .queryingTimedOut _, .sessions sessions => some (w, terminateTimedOut sessions)
  | .sleepingTimeout, .done => some (w, watchSessionTimeout cfg w)
  | .queryingExpired _, .sessions expired =>
      some (w, .watch (.queryingOrphaned expired (w.now - seconds cfg.sessionIdleTimeout)))
  | .queryingOrphaned expired _, .sessions orphaned =>
      some (w, stopIdle w.now (expired ++ orphaned))
  | .savingExpiry session rest now, .saved =>
      some (w.emitSessionEndMetrics session, stopIdle now rest)
  | .sleepingIdle, .done => some (w, watchIdleSessions cfg w)
  | _, .raised => some (w, .finished .raised)
  | _, _ => none

/-! ## All a resumed watcher can do -/

inductive WatchStep (cfg : Config) (w : World) : WatchFrame → Answer → World → Frame → Prop
  | timedOut (cutoff : Int) (sessions : List SessionInstance) :
      WatchStep cfg w (.queryingTimedOut cutoff) (.sessions sessions) w (terminateTimedOut sessions)
  | timeoutSlept : WatchStep cfg w .sleepingTimeout .done w (watchSessionTimeout cfg w)
  | expired (cutoff : Int) (expired : List SessionInstance) :
      WatchStep cfg w (.queryingExpired cutoff) (.sessions expired) w
        (.watch (.queryingOrphaned expired (w.now - seconds cfg.sessionIdleTimeout)))
  | orphaned (expired : List SessionInstance) (cutoff : Int) (orphaned : List SessionInstance) :
      WatchStep cfg w (.queryingOrphaned expired cutoff) (.sessions orphaned) w
        (stopIdle w.now (expired ++ orphaned))
  | saved (session : SessionInstance) (rest : List SessionInstance) (now : Int) :
      WatchStep cfg w (.savingExpiry session rest now) .saved (w.emitSessionEndMetrics session)
        (stopIdle now rest)
  | idleSlept : WatchStep cfg w .sleepingIdle .done w (watchIdleSessions cfg w)
  | raised (f : WatchFrame) : WatchStep cfg w f .raised w (.finished .raised)

theorem watchResume_cases {cfg : Config} {w w' : World} {f : WatchFrame} {a : Answer} {f' : Frame}
    (h : watchResume cfg w f a = some (w', f')) : WatchStep cfg w f a w' f' := by
  unfold watchResume at h
  split at h
  all_goals first | contradiction | obtain ⟨rfl, rfl⟩ := Prod.mk.inj (Option.some.inj h)
  -- One constructor for each equation.
  all_goals constructor

end StreamingPortal.Sessions
