import Taws.Frontend.Web
import Taws.Mutex

/-!
# When the calls of the attester are serialised

The enclave has one TCS, and the flags of `attester_api.cpp` are plain variables: no two goroutines of the
server may be inside an attester call at once.  The mutex keeps the `/teep` handlers apart from each other
and from detection; the two calls with which the worker starts up are made without it.

* `Place` — what matters of where a goroutine is: its call, and whether it holds the mutex or runs the
  function of `s.once`.
* `ServerInvariant` — the mutex and `s.once` name the goroutine at a place that holds them.
* `Serialised`, `StartUpApart` — the promise, and the condition on the steps of a run under which it is kept.
* `attesterCalls_serialised_iff` — the promise is kept in every state of a run iff its steps meet the condition.
-/

namespace Taws.Frontend

/-! ## Places -/

structure Place where
  call : Option AttesterCall
  holdsMu : Bool
  runsOnce : Bool
  deriving DecidableEq

/-- Outside of calls, the mutex and `s.once`. -/
def Place.outside : Place := ⟨none, false, false⟩

/-- Inside a call. -/
def Place.calls (call : AttesterCall) (holdsMu : Bool) : Place := ⟨some call, holdsMu, false⟩

/-- Between the lock and the unlock of the mutex, outside of calls. -/
def Place.locked : Place := ⟨none, true, false⟩

/-- In the function of `s.once`. -/
def Place.once : Place := ⟨none, false, true⟩

variable (cfg : ServerConfig)

def Worker.place : Worker → Place
  | .setLogLevel .inside => .calls (setLogLevelCall cfg.logLevel) false
  | .initializeEnclave .inside => .calls (initializeEnclaveCall cfg.keygen) false
  | .invokeWasm .inside req => .calls (.invokeWasm cfg.wappName cfg.funcName req.input cfg.maxOut.toNat) true
  | .invokeWasm .before _ => .locked
  | .unlocks _ _ => .locked
  | .panicked => .locked
  | _ => .outside

def DetectState.place : DetectState → Place
  | .makesChannel => .once
  | .startsWorker => .once
  | .leavesOnce => .once
  | _ => .outside

def TeepState.place : TeepState → Place
  | .setLogLevel .before => .locked
  | .setLogLevel .inside => .calls (setLogLevelCall cfg.logLevel) true
  | .initializeEnclave .before => .locked
  | .initializeEnclave .inside => .calls (initializeEnclaveCall cfg.keygen) true
  | .runInstallSession .before => .locked
  | .runInstallSession .inside => .calls (runInstallSessionCall cfg.tamURL cfg.wappName) true
  | .unlocks _ => .locked
  | _ => .outside

def Handler.place : Handler → Place
  | .detect _ state => state.place
  | .teep state => state.place cfg

/-- A handler that does not exist is nowhere. -/
def Server.place (server : Server) : Goroutine → Place
  | .worker => server.worker.place cfg
  | .handler id => (server.handlers[id]?.map (Handler.place cfg)).getD .outside

/-- The goroutine is inside an attester call. -/
def Server.Inside (server : Server) (goroutine : Goroutine) : Prop := (server.place cfg goroutine).call.isSome = true

instance (server : Server) (goroutine : Goroutine) : Decidable (server.Inside cfg goroutine) :=
  inferInstanceAs (Decidable (_ = _))

/-- At most one goroutine is inside an attester call. -/
def Serialised (server : Server) : Prop := AtMostOne (server.Inside cfg)

/-! ## The condition on the steps -/

/-- The worker is about to make one of the two calls it makes without the mutex. -/
def Worker.entersStartUp : Worker → Bool
  | .setLogLevel .before => true
  | .initializeEnclave .before => true
  | _ => false

/-- The worker is inside one of them. -/
def Worker.inStartUp : Worker → Bool
  | .setLogLevel .inside => true
  | .initializeEnclave .inside => true
  | _ => false

/-- The handler is about to make a call. -/
def Handler.entersCall : Handler → Bool
  | .teep (.setLogLevel .before) => true
  | .teep (.initializeEnclave .before) => true
  | .teep (.runInstallSession .before) => true
  | _ => false

/-- The worker makes a call of its start-up only while no handler is inside a call, and a handler makes a
call only while the worker is not inside a call of its start-up. -/
def StartUpApart (server : Server) : Action → Prop
  | .request _ => True
  | .step .worker _ =>
    server.worker.entersStartUp = true → ∀ id < server.handlers.length, ¬ server.Inside cfg (.handler id)
  | .step (.handler id) _ =>
    server.handlers[id]?.any Handler.entersCall = true → server.worker.inStartUp = false

instance (server : Server) (action : Action) : Decidable (StartUpApart cfg server action) := by
  unfold StartUpApart
  split <;> infer_instance

/-! ## What one step does -/

/-- Who takes the step. -/
def Action.actor : Action → Option Goroutine
  | .request _ => none
  | .step goroutine _ => some goroutine

/-- The goroutine whose function `s.once` runs. -/
def Once.caller : Once → Option Goroutine
  | .running caller => some caller
  | _ => none

/-- The worker is about to make a call. -/
def Worker.entersCall (makes : Bool) : Worker → Bool
  | .invokeWasm .before _ => 0 < cfg.maxOut && makes
  | worker => worker.entersStartUp

/-- The goroutine is about to make a call. -/
def Server.entersCall (server : Server) (makes : Bool) : Goroutine → Bool
  | .worker => server.worker.entersCall cfg makes
  | .handler id => server.handlers[id]?.any Handler.entersCall

/-- The handler is on its way to starting the worker. -/
def Handler.beforeStart : Handler → Bool
  | .detect _ .makesChannel => true
  | .detect _ .startsWorker => true
  | _ => false

/-- While `s.once` is unused, and while a handler is on its way, there is no worker. -/
structure Unstarted (server : Server) : Prop where
  unused : server.once = .unused → server.worker = .notStarted
  before : ∀ (id : Nat) (handler : Handler), server.handlers[id]? = some handler →
    handler.beforeStart = true → server.worker = .notStarted

structure ServerInvariant (server : Server) : Prop where
  mutex : Guarded server.mu fun goroutine => (server.place cfg goroutine).holdsMu = true
  once : Guarded server.once.caller fun goroutine => (server.place cfg goroutine).runsOnce = true
  unstarted : Unstarted server

/-- What the step from `server` to `after` does to the locks, when it takes the goroutine from one place to
another and `enters` says whether a call is made. -/
structure Acts (goroutine : Goroutine) (server after : Server) (place place' : Place) (enters : Bool) : Prop where
  mutex : LockStep goroutine server.mu after.mu (place.holdsMu = true) (place'.holdsMu = true)
  once : LockStep goroutine server.once.caller after.once.caller (place.runsOnce = true) (place'.runsOnce = true)
  call : place'.call.isSome = enters

variable {cfg} {server after : Server} {goroutine : Goroutine} {place place' : Place} {enters : Bool} {id : Nat}

/-- A step that leaves the locks alone. -/
theorem Acts.apart (mutex : after.mu = server.mu) (once : after.once = server.once)
    (holdsMu : place'.holdsMu = place.holdsMu) (runsOnce : place'.runsOnce = place.runsOnce)
    (call : place'.call.isSome = enters) : Acts goroutine server after place place' enters where
  mutex := by
    rw [mutex, holdsMu]
    exact .keep .rfl
  once := by
    rw [once, runsOnce]
    exact .keep .rfl
  call := call

theorem Acts.stays (outside : place.call = none) : Acts goroutine server server place place false :=
  .apart rfl rfl rfl rfl (by rw [outside]; rfl)

theorem runWorker_acts (env : StepEnv) :
    Acts .worker server (runWorker cfg env server) (server.worker.place cfg)
      ((runWorker cfg env server).worker.place cfg) (server.worker.entersCall cfg env.makes) := by
  obtain ⟨reqCh, once, mu, worker, handlers⟩ := server
  cases worker with
  | notStarted => exact .stays rfl
  | setLogLevel phase =>
    cases phase with
    | before => exact .apart rfl rfl rfl rfl rfl
    | inside =>
      simp only [runWorker]
      split <;> exact .apart rfl rfl rfl rfl rfl
  | initializeEnclave phase =>
    cases phase with
    | before => exact .apart rfl rfl rfl rfl rfl
    | inside =>
      simp only [runWorker]
      split <;> exact .apart rfl rfl rfl rfl rfl
  | receivesFailed err => exact .stays rfl
  | repliesFailed err req => exact .apart rfl rfl rfl rfl rfl
  | receives => exact .stays rfl
  | locks req =>
    simp only [runWorker]
    split
    · next free => exact ⟨by rw [free]; exact .lock rfl, .keep .rfl, rfl⟩
    · exact .stays rfl
  | invokeWasm phase req =>
    cases phase with
    | before =>
      -- without a positive limit the bridge returns before it makes the call
      obtain ⟨makes, returned⟩ := env
      by_cases refused : cfg.maxOut ≤ 0
      · have silent : decide (0 < cfg.maxOut) = false := decide_eq_false (by omega)
        simp only [runWorker, invokeWasmCall, if_pos refused]
        exact .apart rfl rfl rfl rfl (by rw [Worker.entersCall, silent]; rfl)
      · have positive : decide (0 < cfg.maxOut) = true := decide_eq_true (by omega)
        simp only [runWorker, invokeWasmCall, if_neg refused]
        cases makes <;> exact .apart rfl rfl rfl rfl (by rw [Worker.entersCall, positive]; rfl)
    | inside =>
      simp only [runWorker]
      split <;> exact .apart rfl rfl rfl rfl rfl
  | unlocks req response => exact ⟨.unlock rfl (by simp [runWorker, Worker.place, Place.outside]), .keep .rfl, rfl⟩
  | replies req response => exact .apart rfl rfl rfl rfl rfl
  | panicked => exact .apart rfl rfl rfl rfl rfl

theorem place_handler {handler : Handler} (there : server.handlers[id]? = some handler) :
    server.place cfg (.handler id) = handler.place cfg := by
  simp [Server.place, there]

theorem runsOnce_of_beforeStart {handler : Handler} (before : handler.beforeStart = true) :
    (handler.place cfg).runsOnce = true := by
  unfold Handler.beforeStart at before
  split at before
  · rfl
  · rfl
  · cases before

theorem set_there {handlers : List Handler} {handler : Handler} (there : handlers[id]? = some handler)
    (next : Handler) : (handlers.set id next)[id]? = some next :=
  List.getElem?_set_self (List.getElem?_eq_some_iff.mp there).1

/-- A step of the handler `id`, between the places at which it is before and after. -/
def HandlerActs (cfg : ServerConfig) (id : Nat) (handler : Handler) (server after : Server) : Prop :=
  ∃ next, after.handlers[id]? = some next ∧
    Acts (.handler id) server after (handler.place cfg) (next.place cfg) handler.entersCall

theorem handleTeep_acts {state : TeepState} (there : server.handlers[id]? = some (.teep state))
    (returned : AttesterReturn) :
    HandlerActs cfg id (.teep state) server (handleTeep returned id state server) := by
  have moved := set_there there
  cases state with
  | arrived method =>
    simp only [handleTeep]
    split <;> exact ⟨_, moved _, .apart rfl rfl rfl rfl rfl⟩
  | locks =>
    simp only [handleTeep]
    split
    · next free => exact ⟨_, moved _, by rw [free]; exact .lock rfl, .keep .rfl, rfl⟩
    · exact ⟨_, there, .stays rfl⟩
  | setLogLevel phase =>
    cases phase with
    | before => exact ⟨_, moved _, .apart rfl rfl rfl rfl rfl⟩
    | inside =>
      simp only [handleTeep]
      split <;> exact ⟨_, moved _, .apart rfl rfl rfl rfl rfl⟩
  | initializeEnclave phase =>
    cases phase with
    | before => exact ⟨_, moved _, .apart rfl rfl rfl rfl rfl⟩
    | inside =>
      simp only [handleTeep]
      split <;> exact ⟨_, moved _, .apart rfl rfl rfl rfl rfl⟩
  | runInstallSession phase =>
    cases phase with
    | before => exact ⟨_, moved _, .apart rfl rfl rfl rfl rfl⟩
    | inside => exact ⟨_, moved _, .apart rfl rfl rfl rfl rfl⟩
  | unlocks response =>
    exact ⟨_, moved _, .unlock rfl (by simp [Handler.place, TeepState.place, Place.outside]), .keep .rfl, rfl⟩
  | done response => exact ⟨_, there, .stays rfl⟩

theorem handleDetect_acts {upload : Upload} {state : DetectState}
    (there : server.handlers[id]? = some (.detect upload state)) :
    HandlerActs cfg id (.detect upload state) server (handleDetect id upload state server) := by
  have moved := set_there there
  cases state with
  | arrived method =>
    simp only [handleDetect]
    split <;> exact ⟨_, moved _, .apart rfl rfl rfl rfl rfl⟩
  | onceDo =>
    simp only [handleDetect]
    split
    · next unused => exact ⟨_, moved _, .keep .rfl, by rw [unused]; exact .lock rfl, rfl⟩
    · exact ⟨_, there, .stays rfl⟩
    · exact ⟨_, moved _, .apart rfl rfl rfl rfl rfl⟩
  | makesChannel => exact ⟨_, moved _, .apart rfl rfl rfl rfl rfl⟩
  | startsWorker => exact ⟨_, moved _, .apart rfl rfl rfl rfl rfl⟩
  | leavesOnce =>
    exact ⟨_, moved _, .keep .rfl, .unlock rfl (by simp [Handler.place, DetectState.place, Place.outside]), rfl⟩
  | readsImage =>
    simp only [handleDetect]
    split <;> exact ⟨_, moved _, .apart rfl rfl rfl rfl rfl⟩
  | sends input =>
    simp only [handleDetect]
    split
    · split
      · exact ⟨_, moved _, .apart rfl rfl rfl rfl rfl⟩
      · exact ⟨_, there, .stays rfl⟩
    · exact ⟨_, there, .stays rfl⟩
  | waits respCh =>
    cases respCh with
    | none => exact ⟨_, there, .stays rfl⟩
    | some resp =>
      simp only [handleDetect]
      split <;> exact ⟨_, moved _, .apart rfl rfl rfl rfl rfl⟩
  | done response => exact ⟨_, there, .stays rfl⟩

/-! ## What one step leaves alone -/

/-- A handler's reply does not move it to another place. -/
theorem receive_place (response : DetectResponse) (handler : Handler) :
    (handler.receive response).place cfg = handler.place cfg := by
  unfold Handler.receive
  split <;> rfl

theorem receive_beforeStart (response : DetectResponse) (handler : Handler) :
    (handler.receive response).beforeStart = handler.beforeStart := by
  unfold Handler.receive
  split <;> rfl

/-- The worker sends replies to the handlers, and does nothing else to them. -/
theorem runWorker_handlers (cfg : ServerConfig) (server : Server) {β : Type} {observe : Handler → β}
    (unaffected : ∀ response handler, observe (Handler.receive response handler) = observe handler)
    (env : StepEnv) (id : Nat) :
    (runWorker cfg env server).handlers[id]?.map observe = server.handlers[id]?.map observe := by
  have replied : ∀ req response,
      (server.reply req response).handlers[id]?.map observe = server.handlers[id]?.map observe := by
    intro req response
    simp only [Server.reply, List.getElem?_modify, Option.map_eq_map, Option.map_map]
    split
    · congr 1
      funext handler
      exact unaffected response handler
    · rfl
  unfold runWorker
  repeat' split
  all_goals first | exact replied _ _ | rfl

theorem runWorker_notStarted (idle : server.worker = .notStarted) (env : StepEnv) :
    runWorker cfg env server = server := by
  simp only [runWorker, idle]

theorem runWorker_once (env : StepEnv) : (runWorker cfg env server).once = server.once := by
  unfold runWorker
  repeat' split
  all_goals rfl

theorem handleTeep_worker (returned : AttesterReturn) (state : TeepState) :
    (handleTeep returned id state server).worker = server.worker := by
  unfold handleTeep
  repeat' split
  all_goals rfl

theorem handleTeep_once (returned : AttesterReturn) (state : TeepState) :
    (handleTeep returned id state server).once = server.once := by
  unfold handleTeep
  repeat' split
  all_goals rfl

theorem handleTeep_handlers (returned : AttesterReturn) (state : TeepState) {other : Nat} (apart : other ≠ id) :
    (handleTeep returned id state server).handlers[other]? = server.handlers[other]? := by
  have moved : ∀ next, (server.setHandler id next).handlers[other]? = server.handlers[other]? := by
    intro next
    exact List.getElem?_set_ne (Ne.symm apart)
  unfold handleTeep
  repeat' split
  all_goals first | exact moved _ | rfl

theorem handleDetect_handlers (upload : Upload) (state : DetectState) {other : Nat} (apart : other ≠ id) :
    (handleDetect id upload state server).handlers[other]? = server.handlers[other]? := by
  have moved : ∀ next, (server.setHandler id next).handlers[other]? = server.handlers[other]? := by
    intro next
    exact List.getElem?_set_ne (Ne.symm apart)
  unfold handleDetect
  repeat' split
  all_goals first | exact moved _ | rfl

/-- A `/detect` handler starts the worker, hands it a request, or leaves it alone. -/
theorem handleDetect_worker (server : Server) (id : Nat) (upload : Upload) (state : DetectState) :
    (handleDetect id upload state server).worker = server.worker ∨
      state = .startsWorker ∧ (handleDetect id upload state server).worker = .setLogLevel .before ∨
      ∃ input, state = .sends input ∧
        server.worker.accept ⟨input, id⟩ = some (handleDetect id upload state server).worker := by
  cases state with
  | startsWorker => exact .inr (.inl ⟨rfl, rfl⟩)
  -- the send and the receive are one step of both goroutines
  | sends input =>
    simp only [handleDetect]
    split
    · next worker accepted =>
      split
      · exact .inr (.inr ⟨input, rfl, accepted⟩)
      · exact .inl rfl
    · exact .inl rfl
  | waits respCh =>
    refine .inl ?_
    cases respCh with
    | none => rfl
    | some resp =>
      simp only [handleDetect]
      split <;> rfl
  | _ =>
    refine .inl ?_
    simp only [handleDetect]
    repeat' split
    all_goals rfl

/-- The worker only accepts a request outside of calls and of the mutex. -/
theorem accept_place {worker next : Worker} {req : DetectRequest} (accepts : worker.accept req = some next) :
    worker.place cfg = .outside ∧ next.place cfg = .outside := by
  cases worker with
  | receives =>
    cases accepts
    exact ⟨rfl, rfl⟩
  | receivesFailed err =>
    cases accepts
    exact ⟨rfl, rfl⟩
  | _ => cases accepts

/-- A `/detect` handler runs the function of `s.once` from before it makes the channel. -/
theorem handleDetect_once (upload : Upload) (state : DetectState)
    (unused : (handleDetect id upload state server).once = .unused) : server.once = .unused := by
  cases state with
  | onceDo =>
    cases before : server.once with
    | unused => rfl
    | running caller => simp [handleDetect, before] at unused
    | done => simp [handleDetect, before, Server.setHandler] at unused
  | leavesOnce => cases unused
  | waits respCh =>
    cases respCh with
    | none => exact unused
    | some resp =>
      simp only [handleDetect] at unused
      split at unused <;> exact unused
  | _ =>
    simp only [handleDetect] at unused
    repeat' split at unused
    all_goals exact unused

/-- Before the worker is started only the function of `s.once` that has been entered gets nearer to it. -/
theorem handleDetect_beforeStart {upload : Upload} {state : DetectState} {next : Handler}
    (there : server.handlers[id]? = some (.detect upload state))
    (here : (handleDetect id upload state server).handlers[id]? = some next) (before : next.beforeStart = true) :
    (state = .onceDo ∧ server.once = .unused ∨ state = .makesChannel) ∧
      (handleDetect id upload state server).worker = server.worker := by
  -- a handler that has moved to `next` is there
  have moved : ∀ {place : Handler}, (server.handlers.set id place)[id]? = some next → place.beforeStart = true := by
    intro place at_
    rw [set_there there] at at_
    rw [Option.some.inj at_]
    exact before
  have stayed : server.handlers[id]? = some next → Handler.beforeStart (.detect upload state) = true := by
    intro at_
    rw [there] at at_
    rw [Option.some.inj at_]
    exact before
  cases state with
  | makesChannel => exact ⟨.inr rfl, rfl⟩
  | onceDo =>
    cases used : server.once with
    | unused =>
      refine ⟨.inl ⟨rfl, rfl⟩, ?_⟩
      simp only [handleDetect, used]
      rfl
    | running caller =>
      simp only [handleDetect, used] at here
      cases stayed here
    | done =>
      simp only [handleDetect, used] at here
      cases moved here
  | waits respCh =>
    cases respCh with
    | none => cases stayed here
    | some resp =>
      simp only [handleDetect] at here
      split at here <;> cases moved here
  | done response => cases stayed here
  | sends input =>
    simp only [handleDetect] at here
    repeat' split at here
    · cases moved here
    · cases stayed here
    · cases stayed here
  | _ =>
    simp only [handleDetect] at here
    repeat' split at here
    all_goals cases moved here

/-! ## Steps of the server -/

theorem start_invariant : ServerInvariant cfg .start where
  mutex := by
    intro goroutine
    cases goroutine <;> simp [Server.start, Server.place, Worker.place, Place.outside]
  once := by
    intro goroutine
    cases goroutine <;> simp [Server.start, Server.place, Worker.place, Place.outside, Once.caller]
  unstarted := ⟨fun _ => rfl, by simp [Server.start]⟩

theorem step_panicked (panicked : server.worker = .panicked) (action : Action) :
    serverStep cfg server action = server := if_pos panicked

theorem step_worker (running : server.worker ≠ .panicked) (env : StepEnv) :
    serverStep cfg server (.step .worker env) = runWorker cfg env server := if_neg running

theorem step_request (running : server.worker ≠ .panicked) (request : Request) :
    serverStep cfg server (.request request) = { server with handlers := server.handlers ++ [request.handler] } :=
  if_neg running

theorem step_detect (running : server.worker ≠ .panicked) {upload : Upload} {state : DetectState}
    (there : server.handlers[id]? = some (.detect upload state)) (env : StepEnv) :
    serverStep cfg server (.step (.handler id) env) = handleDetect id upload state server := by
  rw [serverStep, if_neg running]
  simp only [there]

theorem step_teep (running : server.worker ≠ .panicked) {state : TeepState}
    (there : server.handlers[id]? = some (.teep state)) (env : StepEnv) :
    serverStep cfg server (.step (.handler id) env) = handleTeep env.returned id state server := by
  rw [serverStep, if_neg running]
  simp only [there]

theorem step_nobody (running : server.worker ≠ .panicked) (absent : server.handlers[id]? = none)
    (env : StepEnv) : serverStep cfg server (.step (.handler id) env) = server := by
  rw [serverStep, if_neg running]
  simp only [absent]

theorem HandlerActs.places {handler : Handler} {makes : Bool} (there : server.handlers[id]? = some handler)
    (acts : HandlerActs cfg id handler server after) :
    Acts (.handler id) server after (server.place cfg (.handler id)) (after.place cfg (.handler id))
      (server.entersCall cfg makes (.handler id)) := by
  obtain ⟨next, here, acts⟩ := acts
  simpa [Server.place, Server.entersCall, there, here] using acts

/-- The step of a goroutine. -/
theorem step_acts (cfg : ServerConfig) (running : server.worker ≠ .panicked) (goroutine : Goroutine)
    (env : StepEnv) :
    Acts goroutine server (serverStep cfg server (.step goroutine env)) (server.place cfg goroutine)
      ((serverStep cfg server (.step goroutine env)).place cfg goroutine)
      (server.entersCall cfg env.makes goroutine) := by
  cases goroutine with
  | worker =>
    rw [step_worker running]
    exact runWorker_acts env
  | handler id =>
    match there : server.handlers[id]? with
    | some (.detect upload state) =>
      rw [step_detect running there]
      exact (handleDetect_acts there).places there
    | some (.teep state) =>
      rw [step_teep running there]
      exact (handleTeep_acts there env.returned).places there
    | none =>
      rw [step_nobody running there]
      have nowhere : server.place cfg (.handler id) = .outside := by simp [Server.place, there]
      have idle : server.entersCall cfg env.makes (.handler id) = false := by simp [Server.entersCall, there]
      rw [nowhere, idle]
      exact .stays rfl

theorem request_place (request : Request) (handlers : List Handler) (id : Nat) :
    ((handlers ++ [request.handler])[id]?.map (Handler.place cfg)).getD .outside =
      (handlers[id]?.map (Handler.place cfg)).getD .outside := by
  by_cases old : id < handlers.length
  · rw [List.getElem?_append_left old]
  · rw [List.getElem?_append_right (by omega), List.getElem?_eq_none (l := handlers) (by omega)]
    cases id - handlers.length with
    | zero => cases request <;> rfl
    | succ beyond => rfl

theorem handleDetect_place (invariant : ServerInvariant cfg server) {upload : Upload} {state : DetectState}
    (there : server.handlers[id]? = some (.detect upload state)) :
    (handleDetect id upload state server).worker.place cfg = server.worker.place cfg := by
  obtain same | ⟨rfl, started⟩ | ⟨input, rfl, accepted⟩ := handleDetect_worker server id upload state
  · rw [same]
  · rw [started, invariant.unstarted.before id _ there rfl]
    rfl
  · rw [(accept_place accepted).1, (accept_place accepted).2]

/-- Everybody else stays where they are. -/
theorem step_place (invariant : ServerInvariant cfg server) (action : Action)
    (apart : action.actor ≠ some goroutine) :
    (serverStep cfg server action).place cfg goroutine = server.place cfg goroutine := by
  by_cases ended : server.worker = .panicked
  · rw [step_panicked ended]
  cases action with
  | request request =>
    rw [step_request ended]
    cases goroutine with
    | worker => rfl
    | handler id => exact request_place request server.handlers id
  | step actor env =>
    replace apart : actor ≠ goroutine := fun same => apart (congrArg some same)
    match actor, goroutine with
    | .worker, .worker => exact absurd rfl apart
    | .worker, .handler id =>
      rw [step_worker ended]
      exact congrArg (Option.getD · .outside) (runWorker_handlers cfg server receive_place env id)
    | .handler id, .worker =>
      match there : server.handlers[id]? with
      | some (.detect upload state) =>
        rw [step_detect ended there]
        exact handleDetect_place invariant there
      | some (.teep state) =>
        rw [step_teep ended there]
        exact congrArg (Worker.place cfg) (handleTeep_worker env.returned state)
      | none => rw [step_nobody ended there]
    | .handler id, .handler other =>
      replace apart : other ≠ id := fun same => apart (congrArg Goroutine.handler same.symm)
      match there : server.handlers[id]? with
      | some (.detect upload state) =>
        rw [step_detect ended there, Server.place, handleDetect_handlers upload state apart]
        rfl
      | some (.teep state) =>
        rw [step_teep ended there, Server.place, handleTeep_handlers env.returned state apart]
        rfl
      | none => rw [step_nobody ended there]

/-! ## The invariant -/

theorem request_unstarted (unstarted : Unstarted server) (request : Request) :
    Unstarted { server with handlers := server.handlers ++ [request.handler] } := by
  refine ⟨unstarted.unused, ?_⟩
  intro id handler there before
  rcases List.mem_append.mp (List.mem_of_getElem? there) with old | new
  · obtain ⟨index, there⟩ := List.getElem?_of_mem old
    exact unstarted.before index handler there before
  · rw [List.mem_singleton.mp new] at before
    cases request <;> cases before

theorem runWorker_unstarted (unstarted : Unstarted server) (env : StepEnv) :
    Unstarted (runWorker cfg env server) := by
  have idle : server.worker = .notStarted → (runWorker cfg env server).worker = .notStarted := by
    intro idle
    rw [runWorker_notStarted idle, idle]
  refine ⟨fun unused => idle (unstarted.unused (by rwa [runWorker_once] at unused)), ?_⟩
  intro id handler here before
  have observed := runWorker_handlers cfg server receive_beforeStart env id
  rw [here, Option.map_some, before] at observed
  obtain ⟨old, there, before⟩ := Option.map_eq_some_iff.mp observed.symm
  exact idle (unstarted.before id old there before)

theorem handleTeep_handler {state : TeepState} (there : server.handlers[id]? = some (.teep state))
    (returned : AttesterReturn) :
    ∃ next, (handleTeep returned id state server).handlers[id]? = some (.teep next) := by
  unfold handleTeep
  repeat' split
  all_goals first | exact ⟨_, set_there there _⟩ | exact ⟨_, there⟩

theorem handleTeep_unstarted (unstarted : Unstarted server) {state : TeepState}
    (there : server.handlers[id]? = some (.teep state)) (returned : AttesterReturn) :
    Unstarted (handleTeep returned id state server) := by
  refine ⟨?_, ?_⟩
  · rw [handleTeep_once, handleTeep_worker]
    exact unstarted.unused
  · intro other handler here before
    rw [handleTeep_worker]
    by_cases same : other = id
    · obtain ⟨next, moved⟩ := handleTeep_handler there returned
      rw [same, moved] at here
      cases here
      cases before
    · rw [handleTeep_handlers returned state same] at here
      exact unstarted.before other handler here before

/-- The one who starts the worker runs the function of `s.once`, and nobody else does. -/
theorem handleDetect_unstarted (invariant : ServerInvariant cfg server) {upload : Upload} {state : DetectState}
    (there : server.handlers[id]? = some (.detect upload state)) :
    Unstarted (handleDetect id upload state server) := by
  have unstarted := invariant.unstarted
  -- a worker that is not started stays so unless this is the one who starts it
  have idle : server.worker = .notStarted → state ≠ .startsWorker →
      (handleDetect id upload state server).worker = .notStarted := by
    intro idle other
    obtain same | ⟨starts, -⟩ | ⟨input, -, accepted⟩ := handleDetect_worker server id upload state
    · rw [same, idle]
    · exact absurd starts other
    · rw [idle] at accepted
      cases accepted
  have runs : state = .startsWorker → (server.place cfg (.handler id)).runsOnce = true := by
    rintro rfl
    rw [place_handler there]
    rfl
  refine ⟨?_, ?_⟩
  · intro unused
    have unused := handleDetect_once upload state unused
    refine idle (unstarted.unused unused) ?_
    intro starts
    have running := (invariant.once (.handler id)).mp (runs starts)
    rw [unused] at running
    cases running
  · intro other handler here before
    by_cases same : other = id
    · subst same
      obtain ⟨nearer, same⟩ := handleDetect_beforeStart there here before
      rw [same]
      obtain ⟨-, unused⟩ | rfl := nearer
      · exact unstarted.unused unused
      · exact unstarted.before other _ there rfl
    · rw [handleDetect_handlers upload state same] at here
      refine idle (unstarted.before other handler here before) ?_
      intro starts
      -- two handlers would run the function of `s.once`
      have theirs : (server.place cfg (.handler other)).runsOnce = true := by
        rw [place_handler here]
        exact runsOnce_of_beforeStart before
      have both := invariant.once.unique theirs (runs starts)
      cases both
      exact same rfl

theorem step_unstarted (invariant : ServerInvariant cfg server) (action : Action) :
    Unstarted (serverStep cfg server action) := by
  by_cases ended : server.worker = .panicked
  · rw [step_panicked ended]
    exact invariant.unstarted
  match action with
  | .request request =>
    rw [step_request ended]
    exact request_unstarted invariant.unstarted request
  | .step .worker env =>
    rw [step_worker ended]
    exact runWorker_unstarted invariant.unstarted env
  | .step (.handler id) env =>
    match there : server.handlers[id]? with
    | some (.detect upload state) =>
      rw [step_detect ended there]
      exact handleDetect_unstarted invariant there
    | some (.teep state) =>
      rw [step_teep ended there]
      exact handleTeep_unstarted invariant.unstarted there env.returned
    | none =>
      rw [step_nobody ended there]
      exact invariant.unstarted

theorem step_invariant (invariant : ServerInvariant cfg server) (action : Action) :
    ServerInvariant cfg (serverStep cfg server action) := by
  by_cases ended : server.worker = .panicked
  · rw [step_panicked ended]
    exact invariant
  cases action with
  | request request =>
    have places : ∀ goroutine,
        (serverStep cfg server (.request request)).place cfg goroutine = server.place cfg goroutine := by
      intro goroutine
      exact step_place invariant _ (by simp [Action.actor])
    have sameMu : (serverStep cfg server (.request request)).mu = server.mu := by rw [step_request ended]
    have sameOnce : (serverStep cfg server (.request request)).once = server.once := by rw [step_request ended]
    refine ⟨?_, ?_, step_unstarted invariant _⟩
    · rw [sameMu]
      exact invariant.mutex.congr fun goroutine => by rw [places goroutine]
    · rw [sameOnce]
      exact invariant.once.congr fun goroutine => by rw [places goroutine]
  | step actor env =>
    have acts := step_acts cfg ended actor env
    have places : ∀ other, other ≠ actor →
        (serverStep cfg server (.step actor env)).place cfg other = server.place cfg other := by
      intro other apart
      exact step_place invariant _ (fun same => apart (Option.some.inj same).symm)
    exact ⟨invariant.mutex.step acts.mutex fun other apart => by rw [places other apart],
      invariant.once.step acts.once fun other apart => by rw [places other apart], step_unstarted invariant _⟩

/-! ## Who may make a call -/

/-- Calls other than those of the start-up are made with the mutex. -/
theorem worker_entersCall {worker : Worker} {makes : Bool} (enters : worker.entersCall cfg makes = true) :
    worker.entersStartUp = true ∨ (worker.place cfg).holdsMu = true := by
  unfold Worker.entersCall at enters
  split at enters
  · exact .inr rfl
  · exact .inl enters

theorem worker_call {worker : Worker} (inside : (worker.place cfg).call.isSome = true) :
    worker.inStartUp = true ∨ (worker.place cfg).holdsMu = true := by
  unfold Worker.place at inside ⊢
  split at inside
  all_goals first | exact .inl rfl | exact .inr rfl | cases inside

theorem handler_call {handler : Handler} (inside : (handler.place cfg).call.isSome = true) :
    (handler.place cfg).holdsMu = true := by
  match handler with
  | .detect upload state =>
    simp only [Handler.place, DetectState.place] at inside
    split at inside <;> cases inside
  | .teep state =>
    simp only [Handler.place, TeepState.place] at inside ⊢
    split at inside
    all_goals first | rfl | cases inside

theorem handler_entersCall {handler : Handler} (enters : handler.entersCall = true) :
    (handler.place cfg).holdsMu = true := by
  unfold Handler.entersCall at enters
  split at enters
  all_goals first | rfl | cases enters

theorem worker_startUp_call {worker : Worker} (inside : worker.inStartUp = true) :
    (worker.place cfg).call.isSome = true := by
  unfold Worker.inStartUp at inside
  split at inside
  · rfl
  · rfl
  · cases inside

theorem worker_startUp_enters {worker : Worker} (makes : Bool) (enters : worker.entersStartUp = true) :
    worker.entersCall cfg makes = true := by
  unfold Worker.entersStartUp at enters
  split at enters
  · rfl
  · rfl
  · cases enters

/-- A handler that is inside a call exists and holds the mutex. -/
theorem inside_handler (inside : server.Inside cfg (.handler id)) :
    id < server.handlers.length ∧ (server.place cfg (.handler id)).holdsMu = true := by
  unfold Server.Inside at inside
  cases there : server.handlers[id]? with
  | none =>
    rw [Server.place, there] at inside
    cases inside
  | some handler =>
    rw [place_handler there] at inside ⊢
    exact ⟨(List.getElem?_eq_some_iff.mp there).1, handler_call inside⟩

theorem entersCall_handler {makes : Bool} (enters : server.entersCall cfg makes (.handler id) = true) :
    (server.place cfg (.handler id)).holdsMu = true := by
  replace enters : server.handlers[id]?.any Handler.entersCall = true := enters
  cases there : server.handlers[id]? with
  | none =>
    rw [there] at enters
    cases enters
  | some handler =>
    rw [there] at enters
    rw [place_handler there]
    exact handler_entersCall enters

/-! ## The condition -/

/-- The worker makes its calls alone iff it makes those of its start-up alone: the mutex does the rest. -/
theorem worker_alone_iff (invariant : ServerInvariant cfg server) (env : StepEnv) :
    (server.entersCall cfg env.makes .worker = true → ∀ other, other ≠ .worker → ¬ server.Inside cfg other) ↔
      StartUpApart cfg server (.step .worker env) := by
  constructor
  · intro alone enters id _
    exact alone (worker_startUp_enters _ enters) (.handler id) (by simp)
  · intro apart enters other notWorker inside
    cases other with
    | worker => exact notWorker rfl
    | handler id =>
      obtain ⟨there, holds⟩ := inside_handler inside
      obtain startUp | locked := worker_entersCall enters
      · exact apart startUp id there inside
      -- for `InvokeWasm` both would hold the mutex
      · have both := invariant.mutex.unique (show (server.place cfg .worker).holdsMu = true from locked) holds
        cases both

/-- A handler makes its calls alone iff the worker is not inside a call of its start-up. -/
theorem handler_alone_iff (invariant : ServerInvariant cfg server) (id : Nat) (env : StepEnv) :
    (server.entersCall cfg env.makes (.handler id) = true → ∀ other, other ≠ .handler id → ¬ server.Inside cfg other) ↔
      StartUpApart cfg server (.step (.handler id) env) := by
  constructor
  · intro alone enters
    have outside := alone enters .worker (by simp)
    exact eq_false_of_ne_true fun startUp => outside (worker_startUp_call startUp)
  · intro apart enters other notThis inside
    have holds := entersCall_handler enters
    cases other with
    | worker =>
      obtain startUp | locked := worker_call inside
      · rw [apart enters] at startUp
        cases startUp
      · have both := invariant.mutex.unique (show (server.place cfg .worker).holdsMu = true from locked) holds
        cases both
    | handler other =>
      exact notThis (invariant.mutex.unique (inside_handler inside).2 holds)

theorem serialised_step_iff (invariant : ServerInvariant cfg server) (serialised : Serialised cfg server)
    (action : Action) : Serialised cfg (serverStep cfg server action) ↔ StartUpApart cfg server action := by
  -- after a panic no step does anything, and none of them starts the worker up
  by_cases ended : server.worker = .panicked
  · rw [step_panicked ended]
    refine ⟨fun _ => ?_, fun _ => serialised⟩
    match action with
    | .request request => trivial
    | .step .worker env =>
      intro enters
      rw [ended] at enters
      cases enters
    | .step (.handler id) env =>
      intro _
      rw [ended]
      rfl
  cases action with
  | request request =>
    refine ⟨fun _ => trivial, fun _ => ?_⟩
    intro first second firstInside secondInside
    unfold Server.Inside at firstInside secondInside
    rw [step_place invariant _ (by simp [Action.actor])] at firstInside secondInside
    exact serialised first second firstInside secondInside
  | step actor env =>
    have others : ∀ other, other ≠ actor →
        ((serverStep cfg server (.step actor env)).Inside cfg other ↔ server.Inside cfg other) := by
      intro other apart
      unfold Server.Inside
      rw [step_place invariant (.step actor env) fun same => apart (Option.some.inj same).symm]
    have acts : (serverStep cfg server (.step actor env)).Inside cfg actor ↔
        server.entersCall cfg env.makes actor = true := by
      unfold Server.Inside
      rw [(step_acts cfg ended actor env).call]
    rw [Serialised, serialised.step_iff others, acts]
    cases actor with
    | worker => exact worker_alone_iff invariant env
    | handler id => exact handler_alone_iff invariant id env

theorem start_serialised : Serialised cfg .start := by
  intro first second inside
  cases first <;> cases inside

/-- The calls of the attester are serialised in every state of a run exactly when, at every step of it, the
calls with which the worker starts up are kept apart from those of the `/teep` handlers. -/
theorem attesterCalls_serialised_iff (cfg : ServerConfig) (actions : List Action) :
    (webServer cfg).Along (Serialised cfg) .start actions ↔
      (webServer cfg).Meets (StartUpApart cfg) .start actions := by
  rw [Machine.along_iff, and_iff_right start_serialised]
  have preserved : ∀ server action, ServerInvariant cfg server ∧ Serialised cfg server →
      Serialised cfg (serverStep cfg server action) →
      ServerInvariant cfg (serverStep cfg server action) ∧ Serialised cfg (serverStep cfg server action) := by
    intro server action holds serialised
    exact ⟨step_invariant holds.1 action, serialised⟩
  have agree : ∀ server action, ServerInvariant cfg server ∧ Serialised cfg server →
      (Serialised cfg (serverStep cfg server action) ↔ StartUpApart cfg server action) := by
    intro server action holds
    exact serialised_step_iff holds.1 holds.2 action
  exact Machine.meets_congr preserved agree ⟨start_invariant, start_serialised⟩ actions

/-! ## A start-up during an installation -/

/-- The defaults of `main.go`. -/
def defaultConfig : ServerConfig where
  wappName := "yolov8.wasm".toUTF8.toList
  funcName := "detector_yolov8_wasm".toUTF8.toList
  maxOut := 16 * 1024 * 1024
  keygen := App.keygenYes
  tamURL := "http://localhost:8080/tam".toUTF8.toList
  logLevel := App.tawsLogLevelInfo

def succeeded : StepEnv := ⟨true, ⟨0, .ok, [], 0⟩⟩

/-- A `/teep` request gets as far as `attester_init`; then the first `/detect` request starts the worker, which
gets as far. -/
def startUpDuringInstall : List Action :=
  .request (.teep .post) :: List.replicate 5 (.step (.handler 0) succeeded) ++
    .request (.detect .post ⟨none, true, .ok [255, 216]⟩) :: List.replicate 4 (.step (.handler 1) succeeded) ++
    List.replicate 3 (.step .worker succeeded)

/-- Both of them then find that there is no enclave yet, and create it. -/
theorem attesterInit_twice :
    (((webServer defaultConfig).run .start startUpDuringInstall).1.place defaultConfig .worker).call =
        some (.init (some App.keygenYes)) ∧
      (((webServer defaultConfig).run .start startUpDuringInstall).1.place defaultConfig (.handler 0)).call =
        some (.init (some App.keygenYes)) ∧
      ¬ (webServer defaultConfig).Along (Serialised defaultConfig) .start startUpDuringInstall := by
  refine ⟨rfl, rfl, ?_⟩
  intro along
  have both := along startUpDuringInstall List.prefix_rfl .worker (.handler 0) rfl rfl
  cases both

end Taws.Frontend
