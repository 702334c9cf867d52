import Taws.Frontend.Serialised

/-!
# Where a request is

What one step of a goroutine can do, case by case, and what holds between the handlers and the worker at all
times: a handler that waits for an answer is the one whose request the worker has in hand, with the image that
the handler has read.

* `Handler.Blocked`, `Worker.Blocked` — the places where a step changes nothing.
* `DetectStep`, `WorkerStep`, `handleTeep_step` — every other step.
* `Handler.work`, `Worker.work` — what is left to do; each step takes something from it.
* `RequestInvariant` — who waits for what.
-/

namespace Taws.Frontend

/-! ## Places and work -/

/-- The request that the worker has in hand. -/
def Worker.request : Worker → Option DetectRequest
  | .repliesFailed _ req => some req
  | .locks req => some req
  | .invokeWasm _ req => some req
  | .unlocks req _ => some req
  | .replies req _ => some req
  | _ => none

/-- The steps to the next request at most. -/
def Worker.work : Worker → Nat
  | .setLogLevel .before => 4
  | .setLogLevel .inside => 3
  | .initializeEnclave .before => 2
  | .initializeEnclave .inside => 1
  | .locks _ => 5
  | .invokeWasm .before _ => 4
  | .invokeWasm .inside _ => 3
  | .unlocks _ _ => 2
  | .replies _ _ => 1
  | .repliesFailed _ _ => 1
  | _ => 0

def DetectState.work : DetectState → Nat
  | .arrived _ => 9
  | .onceDo => 8
  | .makesChannel => 7
  | .startsWorker => 6
  | .leavesOnce => 5
  | .readsImage => 4
  | .sends _ => 3
  | .waits none => 2
  | .waits (some _) => 1
  | .done _ => 0

def TeepState.work : TeepState → Nat
  | .arrived _ => 9
  | .locks => 8
  | .setLogLevel .before => 7
  | .setLogLevel .inside => 6
  | .initializeEnclave .before => 5
  | .initializeEnclave .inside => 4
  | .runInstallSession .before => 3
  | .runInstallSession .inside => 2
  | .unlocks _ => 1
  | .done _ => 0

/-- The steps to the end of the handler at most. -/
def Handler.work : Handler → Nat
  | .detect _ state => state.work
  | .teep state => state.work

/-- The response of a handler that has got to its end. -/
def Handler.response : Handler → Option HttpResponse
  | .detect _ (.done response) => some response
  | .teep (.done response) => some response
  | _ => none

def Worker.Blocked (server : Server) : Worker → Prop
  | .locks _ => server.mu ≠ none
  | worker => worker.work = 0

/-- The handler `id` has to wait for another goroutine, or is done. -/
def Handler.Blocked (server : Server) (id : Nat) : Handler → Prop
  | .detect _ .onceDo => ∃ caller, server.once = .running caller
  | .detect _ (.sends input) => server.worker.accept ⟨input, id⟩ = none ∨ server.reqCh = false
  | .detect _ (.waits none) => True
  | .detect _ (.done _) => True
  | .teep .locks => server.mu ≠ none
  | .teep (.done _) => True
  | _ => False

/-! ## Steps -/

/-- The end of the `/detect` handler. -/
def detectResponse (resp : DetectResponse) : HttpResponse :=
  if resp.err.isSome then .error "invoke detector failed" 500 else .image resp.output

inductive DetectStep (server : Server) (id : Nat) (upload : Upload) : DetectState → Server → Prop where
  | stays {state : DetectState} (blocked : (Handler.detect upload state).Blocked server id) :
    DetectStep server id upload state server
  | refused {method : HttpMethod} :
    DetectStep server id upload (.arrived method)
      (server.setHandler id (.detect upload (.done (.error "method not allowed" 405))))
  | arrives {method : HttpMethod} :
    DetectStep server id upload (.arrived method) (server.setHandler id (.detect upload .onceDo))
  | first (unused : server.once = .unused) :
    DetectStep server id upload .onceDo
      { server.setHandler id (.detect upload .makesChannel) with once := .running (.handler id) }
  | passes (isDone : server.once = .done) :
    DetectStep server id upload .onceDo (server.setHandler id (.detect upload .readsImage))
  | makes : DetectStep server id upload .makesChannel
      { server.setHandler id (.detect upload .startsWorker) with reqCh := true }
  | starts : DetectStep server id upload .startsWorker
      { server.setHandler id (.detect upload .leavesOnce) with worker := .setLogLevel .before }
  | leaves : DetectStep server id upload .leavesOnce
      { server.setHandler id (.detect upload .readsImage) with once := .done }
  | rejects {response : HttpResponse} (unread : readImage upload = .error response) :
    DetectStep server id upload .readsImage (server.setHandler id (.detect upload (.done response)))
  | reads {input : Bytes} (image : readImage upload = .ok input) :
    DetectStep server id upload .readsImage (server.setHandler id (.detect upload (.sends input)))
  | sends {input : Bytes} {worker : Worker} (accepts : server.worker.accept ⟨input, id⟩ = some worker) :
    DetectStep server id upload (.sends input)
      { server.setHandler id (.detect upload (.waits none)) with worker := worker }
  | answers (resp : DetectResponse) :
    DetectStep server id upload (.waits (some resp))
      (server.setHandler id (.detect upload (.done (detectResponse resp))))

variable {cfg : ServerConfig} {server after : Server} {id : Nat}

theorem handleDetect_step (server : Server) (id : Nat) (upload : Upload) (state : DetectState) :
    DetectStep server id upload state (handleDetect id upload state server) := by
  cases state with
  | arrived method =>
    simp only [handleDetect]
    split
    · exact .refused
    · exact .arrives
  | onceDo =>
    simp only [handleDetect]
    split
    · next unused => exact .first unused
    · next caller running => exact .stays ⟨caller, running⟩
    · next isDone => exact .passes isDone
  | makesChannel => exact .makes
  | startsWorker => exact .starts
  | leavesOnce => exact .leaves
  | readsImage =>
    simp only [handleDetect]
    split
    · next unread => exact .rejects unread
    · next image => exact .reads image
  | sends input =>
    simp only [handleDetect]
    split
    · next worker accepts =>
      split
      · exact .sends accepts
      · next unmade => exact .stays (.inr (Bool.not_eq_true _ ▸ unmade))
    · next refuses => exact .stays (.inl refuses)
  | waits respCh =>
    cases respCh with
    | none => exact .stays trivial
    | some resp =>
      have answered := @DetectStep.answers server id upload resp
      unfold detectResponse at answered
      simp only [handleDetect]
      split
      · next failed => rwa [if_pos failed] at answered
      · next succeeded => rwa [if_neg succeeded] at answered
  | done response => exact .stays trivial

theorem DetectStep.handler {upload : Upload} {state : DetectState} (step : DetectStep server id upload state after)
    (there : server.handlers[id]? = some (.detect upload state)) :
    ∃ next, after.handlers[id]? = some (.detect upload next) := by
  cases step with
  | stays blocked => exact ⟨state, there⟩
  | _ => exact ⟨_, set_there there _⟩

/-- A `/teep` handler waits, or gets nearer to its end and touches nothing but the mutex. -/
theorem handleTeep_step (returned : AttesterReturn) (server : Server) (id : Nat) (state : TeepState) :
    handleTeep returned id state server = server ∧ (Handler.teep state).Blocked server id ∨
      ∃ next mu, next.work < state.work ∧
        handleTeep returned id state server = { server.setHandler id (.teep next) with mu := mu } := by
  have same : ∀ next, { server.setHandler id next with mu := server.mu } = server.setHandler id next := fun _ => rfl
  cases state with
  | arrived method =>
    simp only [handleTeep]
    split <;> exact .inr ⟨_, server.mu, by simp [TeepState.work], (same _).symm⟩
  | locks =>
    simp only [handleTeep]
    split
    · exact .inr ⟨_, _, by simp [TeepState.work], rfl⟩
    · next taken => exact .inl ⟨rfl, taken⟩
  | setLogLevel phase =>
    cases phase with
    | before => exact .inr ⟨_, server.mu, by simp [TeepState.work], rfl⟩
    | inside =>
      simp only [handleTeep]
      split <;> exact .inr ⟨_, server.mu, by simp [TeepState.work], (same _).symm⟩
  | initializeEnclave phase =>
    cases phase with
    | before => exact .inr ⟨_, server.mu, by simp [TeepState.work], rfl⟩
    | inside =>
      simp only [handleTeep]
      split <;> exact .inr ⟨_, server.mu, by simp [TeepState.work], (same _).symm⟩
  | runInstallSession phase =>
    cases phase with
    | before => exact .inr ⟨_, server.mu, by simp [TeepState.work], rfl⟩
    | inside => exact .inr ⟨_, server.mu, by simp [TeepState.work], rfl⟩
  | unlocks response => exact .inr ⟨_, none, by simp [TeepState.work], rfl⟩
  | done response => exact .inl ⟨rfl, trivial⟩

theorem invokeWasmCall_panics {wappName funcName : CString} {input : Bytes} {maxOutput : Int} {makes : Bool}
    (panics : invokeWasmCall wappName funcName input maxOutput makes = none) : makes = false := by
  unfold invokeWasmCall at panics
  split at panics
  · cases panics
  · cases makes with
    | false => rfl
    | true => cases panics

/-- The call is the one that the arguments say. -/
theorem invokeWasmCall_ok {wappName funcName : CString} {input : Bytes} {maxOutput : Int} {makes : Bool}
    {call : AttesterCall} (made : invokeWasmCall wappName funcName input maxOutput makes = some (.ok call)) :
    call = .invokeWasm wappName funcName input maxOutput.toNat := by
  unfold invokeWasmCall at made
  split at made
  · cases made
  · cases makes with
    | false => cases made
    | true => exact (Except.ok.inj (Option.some.inj made)).symm

inductive WorkerStep (cfg : ServerConfig) (env : StepEnv) (server : Server) : Worker → Server → Prop where
  | stays {worker : Worker} (blocked : worker.Blocked server) : WorkerStep cfg env server worker server
  | startsUp {worker next : Worker} (unasked : worker.request = none) (empty : next.request = none)
      (less : next.work < worker.work) (started : next ≠ .notStarted) (running : next ≠ .panicked) :
    WorkerStep cfg env server worker { server with worker := next }
  | locks {req : DetectRequest} (free : server.mu = none) :
    WorkerStep cfg env server (.locks req) { server with mu := some .worker, worker := .invokeWasm .before req }
  | refuses {req : DetectRequest} {err : GoError} :
    WorkerStep cfg env server (.invokeWasm .before req) { server with worker := .unlocks req ⟨[], some err⟩ }
  | calls {req : DetectRequest} :
    WorkerStep cfg env server (.invokeWasm .before req) { server with worker := .invokeWasm .inside req }
  | returns {req : DetectRequest} {response : DetectResponse} (invoked : invokeWasm cfg.maxOut env.returned = some response) :
    WorkerStep cfg env server (.invokeWasm .inside req) { server with worker := .unlocks req response }
  | panics {worker : Worker} {req : DetectRequest}
      (panic : worker = .invokeWasm .before req ∧ env.makes = false ∨
        worker = .invokeWasm .inside req ∧ invokeWasm cfg.maxOut env.returned = none) :
    WorkerStep cfg env server worker { server with worker := .panicked }
  | unlocks {req : DetectRequest} {response : DetectResponse} :
    WorkerStep cfg env server (.unlocks req response) { server with mu := none, worker := .replies req response }
  | replies {req : DetectRequest} {response : DetectResponse} :
    WorkerStep cfg env server (.replies req response) { server.reply req response with worker := .receives }
  | repliesFailed {req : DetectRequest} {err : GoError} :
    WorkerStep cfg env server (.repliesFailed err req)
      { server.reply req ⟨[], some err⟩ with worker := .receivesFailed err }

theorem runWorker_step (cfg : ServerConfig) (env : StepEnv) (server : Server) :
    WorkerStep cfg env server server.worker (runWorker cfg env server) := by
  obtain ⟨reqCh, once, mu, worker, handlers⟩ := server
  cases worker with
  | notStarted => exact .stays rfl
  | setLogLevel phase =>
    cases phase with
    | before => exact .startsUp rfl rfl (by simp [Worker.work]) (by simp) (by simp)
    | inside =>
      simp only [runWorker]
      split <;> exact .startsUp rfl rfl (by simp [Worker.work]) (by simp) (by simp)
  | initializeEnclave phase =>
    cases phase with
    | before => exact .startsUp rfl rfl (by simp [Worker.work]) (by simp) (by simp)
    | inside =>
      simp only [runWorker]
      split <;> exact .startsUp rfl rfl (by simp [Worker.work]) (by simp) (by simp)
  | receivesFailed err => exact .stays rfl
  | repliesFailed err req => exact .repliesFailed
  | receives => exact .stays rfl
  | locks req =>
    simp only [runWorker]
    split
    · next free => exact .locks free
    · next taken => exact .stays taken
  | invokeWasm phase req =>
    cases phase with
    | before =>
      simp only [runWorker]
      split
      · next noBuffer => exact .panics (.inl ⟨rfl, invokeWasmCall_panics noBuffer⟩)
      · exact .refuses
      · exact .calls
    | inside =>
      simp only [runWorker]
      split
      · next response invoked => exact .returns invoked
      · next invoked => exact .panics (.inr ⟨rfl, invoked⟩)
  | unlocks req response => exact .unlocks
  | replies req response => exact .replies
  | panicked => exact .stays rfl

/-! ## Who waits for what -/

/-- What the start-up has brought by the time a `/detect` handler is where it is. -/
def Handler.Fits (server : Server) : Handler → Prop
  | .detect _ .startsWorker => server.reqCh = true
  | .detect _ .leavesOnce => server.reqCh = true ∧ server.worker ≠ .notStarted
  | .detect _ .readsImage => server.once = .done
  | .detect upload (.sends input) => server.once = .done ∧ readImage upload = .ok input
  | _ => True

/-- The handler waits for the worker. -/
def Handler.awaits : Handler → Bool
  | .detect _ (.waits none) => true
  | _ => false

structure RequestInvariant (server : Server) : Prop where
  started : server.once = .done → server.reqCh = true ∧ server.worker ≠ .notStarted
  fits : ∀ (id : Nat) (handler : Handler), server.handlers[id]? = some handler → handler.Fits server
  held : ∀ req, server.worker.request = some req → ∃ upload,
    server.handlers[req.resp]? = some (.detect upload (.waits none)) ∧ readImage upload = .ok req.input
  waiting : server.worker ≠ .panicked → ∀ (id : Nat) (handler : Handler), server.handlers[id]? = some handler →
    handler.awaits = true → ∃ input, server.worker.request = some ⟨input, id⟩

/-- The start-up does not go back. -/
structure Grows (server after : Server) : Prop where
  reqCh : server.reqCh = true → after.reqCh = true
  worker : server.worker ≠ .notStarted → after.worker ≠ .notStarted
  once : server.once = .done → after.once = .done

theorem Grows.refl (server : Server) : Grows server server := ⟨id, id, id⟩

theorem Grows.fits (grows : Grows server after) {handler : Handler} (fits : handler.Fits server) :
    handler.Fits after := by
  match handler with
  | .teep state => trivial
  | .detect upload state =>
    cases state with
    | startsWorker => exact grows.reqCh fits
    | leavesOnce => exact ⟨grows.reqCh fits.1, grows.worker fits.2⟩
    | readsImage => exact grows.once fits
    | sends input => exact ⟨grows.once fits.1, fits.2⟩
    | _ => trivial

theorem accept_spec {worker next : Worker} {req : DetectRequest} (accepts : worker.accept req = some next) :
    worker.request = none ∧ worker.work = 0 ∧ next.request = some req ∧ next ≠ .notStarted := by
  cases worker with
  | receives =>
    cases accepts
    exact ⟨rfl, rfl, rfl, by simp⟩
  | receivesFailed err =>
    cases accepts
    exact ⟨rfl, rfl, rfl, by simp⟩
  | _ => cases accepts

theorem start_requests : RequestInvariant .start where
  started := by simp [Server.start]
  fits := by simp [Server.start]
  held := by simp [Server.start, Worker.request]
  waiting := by simp [Server.start]

/-- A handler that neither waited nor waits now has moved, and the request of the worker is as before. -/
theorem RequestInvariant.moved (invariant : RequestInvariant server) {handler : Handler}
    (there : server.handlers[id]? = some handler) (next : Handler) (notAwaited : handler.awaits = false)
    (notAwaits : next.awaits = false) (handlers : after.handlers = server.handlers.set id next)
    (request : after.worker.request = server.worker.request)
    (panicked : after.worker ≠ .panicked → server.worker ≠ .panicked) (grows : Grows server after)
    (started : after.once = .done → after.reqCh = true ∧ after.worker ≠ .notStarted) (fits : next.Fits after) :
    RequestInvariant after := by
  have others : ∀ other, other ≠ id → after.handlers[other]? = server.handlers[other]? := by
    intro other apart
    rw [handlers, List.getElem?_set_ne (Ne.symm apart)]
  have here : after.handlers[id]? = some next := by rw [handlers, set_there there]
  refine ⟨started, ?_, ?_, ?_⟩
  · intro other found at_
    by_cases same : other = id
    · rw [same, here] at at_
      rw [← Option.some.inj at_]
      exact fits
    · rw [others other same] at at_
      exact grows.fits (invariant.fits other found at_)
  · intro req has
    rw [request] at has
    obtain ⟨upload, waits, image⟩ := invariant.held req has
    refine ⟨upload, ?_, image⟩
    rw [others _ _]
    · exact waits
    · intro same
      rw [same, there] at waits
      rw [Option.some.inj waits] at notAwaited
      cases notAwaited
  · intro running other found at_ awaits
    by_cases same : other = id
    · rw [same, here] at at_
      rw [← Option.some.inj at_, notAwaits] at awaits
      cases awaits
    · rw [others other same] at at_
      rw [request]
      exact invariant.waiting (panicked running) other found at_ awaits

/-- The answer reaches the handler whose request it is. -/
theorem reply_handlers (invariant : RequestInvariant server) {req : DetectRequest}
    (has : server.worker.request = some req) (response : DetectResponse) :
    ∃ upload, server.handlers[req.resp]? = some (.detect upload (.waits none)) ∧
      readImage upload = .ok req.input ∧
      (server.reply req response).handlers =
        server.handlers.set req.resp (.detect upload (.waits (some response))) := by
  obtain ⟨upload, waits, image⟩ := invariant.held req has
  refine ⟨upload, waits, image, ?_⟩
  rw [Server.reply, List.modify_eq_set_getElem? _ _, waits]
  rfl

/-- The handlers after one more request. -/
theorem appended_there {handlers : List Handler} {handler next : Handler}
    (there : (handlers ++ [next])[id]? = some handler) :
    handlers[id]? = some handler ∨ id = handlers.length ∧ handler = next := by
  by_cases old : id < handlers.length
  · rw [List.getElem?_append_left old] at there
    exact .inl there
  · rw [List.getElem?_append_right (by omega)] at there
    have single := List.getElem?_eq_some_iff.mp there
    obtain ⟨bound, same⟩ := single
    rw [List.length_singleton] at bound
    exact .inr ⟨by omega, by rw [← same, List.getElem_singleton]⟩

theorem request_requests (invariant : RequestInvariant server) (request : Request) :
    RequestInvariant { server with handlers := server.handlers ++ [request.handler] } := by
  have cases : ∀ (id : Nat) (handler : Handler), (server.handlers ++ [request.handler])[id]? = some handler →
      server.handlers[id]? = some handler ∨ handler = request.handler :=
    fun _ _ there => (appended_there there).imp_right And.right
  refine ⟨invariant.started, ?_, ?_, ?_⟩
  · intro id handler there
    obtain old | rfl := cases id handler there
    · exact invariant.fits id handler old
    · cases request <;> trivial
  · intro req has
    obtain ⟨upload, waits, image⟩ := invariant.held req has
    refine ⟨upload, ?_, image⟩
    rw [List.getElem?_append_left (List.getElem?_eq_some_iff.mp waits).1]
    exact waits
  · intro running id handler there awaits
    obtain old | rfl := cases id handler there
    · exact invariant.waiting running id handler old awaits
    · cases request <;> cases awaits

/-- The worker gives its answer and is ready for the next request. -/
theorem RequestInvariant.replied (invariant : RequestInvariant server) {req : DetectRequest}
    (has : server.worker.request = some req) (response : DetectResponse) {ready : Worker}
    (empty : ready.request = none) (started : ready ≠ .notStarted) :
    RequestInvariant { server.reply req response with worker := ready } := by
  obtain ⟨upload, waits, _, handlers⟩ := reply_handlers invariant has response
  have here : (server.reply req response).handlers[req.resp]? = some (.detect upload (.waits (some response))) := by
    rw [handlers, set_there waits]
  have others : ∀ other, other ≠ req.resp →
      (server.reply req response).handlers[other]? = server.handlers[other]? := by
    intro other apart
    rw [handlers, List.getElem?_set_ne (Ne.symm apart)]
  have grows : Grows server { server.reply req response with worker := ready } := ⟨id, fun _ => started, id⟩
  refine ⟨fun isDone => ⟨(invariant.started isDone).1, started⟩, ?_, ?_, ?_⟩
  · intro id handler there
    by_cases same : id = req.resp
    · rw [same] at there
      rw [← Option.some.inj (here.symm.trans there)]
      trivial
    · exact grows.fits (invariant.fits id handler ((others id same).symm.trans there))
  · intro other hasOther
    rw [empty] at hasOther
    cases hasOther
  · intro _ id handler there awaits
    by_cases same : id = req.resp
    · rw [same] at there
      rw [← Option.some.inj (here.symm.trans there)] at awaits
      cases awaits
    · -- another handler that waits would have its request in hand too
      have running : server.worker ≠ .panicked := by
        intro panicked
        rw [panicked] at has
        cases has
      obtain ⟨input, hasOther⟩ := invariant.waiting running id handler ((others id same).symm.trans there) awaits
      rw [has] at hasOther
      cases hasOther
      exact absurd rfl same

/-- The worker goes on with what it has in hand. -/
theorem RequestInvariant.worker (invariant : RequestInvariant server) {next : Worker} (mu : Option Goroutine)
    (request : next.request = server.worker.request) (started : next ≠ .notStarted)
    (running : server.worker ≠ .panicked) :
    RequestInvariant { server with mu := mu, worker := next } where
  started := fun isDone => ⟨(invariant.started isDone).1, started⟩
  fits := by
    intro id handler there
    have grows : Grows server { server with mu := mu, worker := next } :=
      ⟨fun made => made, fun _ => started, fun isDone => isDone⟩
    exact grows.fits (invariant.fits id handler there)
  held := fun req has => invariant.held req (request.symm.trans has)
  waiting := by
    intro _ id handler there awaits
    obtain ⟨input, has⟩ := invariant.waiting running id handler there awaits
    exact ⟨input, request.trans has⟩

theorem runWorker_requests (invariant : RequestInvariant server) (running : server.worker ≠ .panicked)
    (env : StepEnv) : RequestInvariant (runWorker cfg env server) := by
  have step := runWorker_step cfg env server
  generalize same : server.worker = worker at step
  generalize runWorker cfg env server = after at step
  cases step with
  | stays blocked => exact invariant
  | startsUp unasked empty less started notPanicked =>
    exact invariant.worker server.mu (by rw [empty, same, unasked]) started running
  | locks free => exact invariant.worker (some .worker) (by rw [same]; rfl) (by simp) running
  | refuses => exact invariant.worker server.mu (by rw [same]; rfl) (by simp) running
  | calls => exact invariant.worker server.mu (by rw [same]; rfl) (by simp) running
  | returns invoked => exact invariant.worker server.mu (by rw [same]; rfl) (by simp) running
  | panics panic =>
    refine ⟨fun isDone => ⟨(invariant.started isDone).1, by simp⟩, ?_, ?_, ?_⟩
    · intro id handler there
      have grows : Grows server { server with worker := .panicked } :=
        ⟨fun made => made, by simp, fun isDone => isDone⟩
      exact grows.fits (invariant.fits id handler there)
    · intro req has
      cases has
    · intro notPanicked
      exact absurd rfl notPanicked
  | unlocks => exact invariant.worker none (by rw [same]; rfl) (by simp) running
  | replies => exact invariant.replied (by rw [same]; rfl) _ rfl (by simp)
  | repliesFailed => exact invariant.replied (by rw [same]; rfl) _ rfl (by simp)

theorem handleTeep_requests (invariant : RequestInvariant server) {state : TeepState}
    (there : server.handlers[id]? = some (.teep state)) (returned : AttesterReturn) :
    RequestInvariant (handleTeep returned id state server) := by
  obtain ⟨same, _⟩ | ⟨next, mu, _, same⟩ := handleTeep_step returned server id state
  · rw [same]
    exact invariant
  · rw [same]
    exact invariant.moved there (.teep next) rfl rfl rfl rfl (fun running => running) ⟨fun made => made,
      fun started => started, fun isDone => isDone⟩ invariant.started trivial

theorem handleDetect_requests (base : ServerInvariant cfg server) (invariant : RequestInvariant server)
    {upload : Upload} {state : DetectState} (there : server.handlers[id]? = some (.detect upload state)) :
    RequestInvariant (handleDetect id upload state server) := by
  have fits := invariant.fits id _ there
  have step := handleDetect_step server id upload state
  generalize handleDetect id upload state server = after at step
  -- where nothing of the start-up changes
  have moves : ∀ {next : DetectState}, (Handler.detect upload state).awaits = false →
      (Handler.detect upload next).awaits = false → (Handler.detect upload next).Fits server →
      RequestInvariant (server.setHandler id (.detect upload next)) := by
    intro next notAwaited notAwaits nextFits
    have grows : Grows server (server.setHandler id (.detect upload next)) :=
      ⟨fun made => made, fun started => started, fun isDone => isDone⟩
    exact invariant.moved there _ notAwaited notAwaits rfl rfl (fun running => running) grows invariant.started
      (grows.fits nextFits)
  cases step with
  | stays blocked => exact invariant
  | refused => exact moves rfl rfl trivial
  | arrives => exact moves rfl rfl trivial
  | first unused =>
    refine invariant.moved there (.detect upload .makesChannel) rfl rfl rfl rfl (fun running => running)
      ⟨fun made => made, fun started => started, ?_⟩ (fun isDone => by cases isDone) trivial
    intro isDone
    rw [unused] at isDone
    cases isDone
  | passes isDone => exact moves rfl rfl isDone
  | makes =>
    exact invariant.moved there (.detect upload .startsWorker) rfl rfl rfl rfl (fun running => running)
      ⟨fun _ => rfl, fun started => started, fun isDone => isDone⟩
      (fun isDone => ⟨rfl, (invariant.started isDone).2⟩) rfl
  | starts =>
    have unstarted := base.unstarted.before id _ there rfl
    refine invariant.moved there (.detect upload .leavesOnce) rfl rfl rfl ?_ ?_
      ⟨fun made => made, fun _ => by simp, fun isDone => isDone⟩ (fun isDone => ⟨(invariant.started isDone).1, by simp⟩)
      ⟨fits, by simp⟩
    · rw [unstarted]
      rfl
    · intro _
      rw [unstarted]
      simp
  | leaves =>
    exact invariant.moved there (.detect upload .readsImage) rfl rfl rfl rfl (fun running => running)
      ⟨fun made => made, fun started => started, fun _ => rfl⟩ (fun _ => fits) rfl
  | rejects unread => exact moves rfl rfl trivial
  | reads image => exact moves rfl rfl ⟨fits, image⟩
  | answers resp => exact moves rfl rfl trivial
  | @sends input worker accepts =>
    obtain ⟨noRequest, _, has, started⟩ := accept_spec accepts
    have here : (server.handlers.set id (.detect upload (.waits none)))[id]? = some (.detect upload (.waits none)) :=
      set_there there _
    refine ⟨fun isDone => ⟨(invariant.started isDone).1, started⟩, ?_, ?_, ?_⟩
    · intro other handler at_
      by_cases same : other = id
      · rw [same] at at_
        rw [← Option.some.inj (here.symm.trans at_)]
        trivial
      · have old : server.handlers[other]? = some handler := by
          rw [← at_]
          exact (List.getElem?_set_ne (Ne.symm same)).symm
        have grows : Grows server { server.setHandler id (.detect upload (.waits none)) with worker := worker } :=
          ⟨fun made => made, fun _ => started, fun isDone => isDone⟩
        exact grows.fits (invariant.fits other handler old)
    · intro req hasReq
      rw [has] at hasReq
      cases hasReq
      exact ⟨upload, here, fits.2⟩
    · intro running other handler at_ awaits
      by_cases same : other = id
      · exact ⟨input, by rw [same]; exact has⟩
      · -- nobody else waits for a worker that is ready
        have old : server.handlers[other]? = some handler := by
          rw [← at_]
          exact (List.getElem?_set_ne (Ne.symm same)).symm
        have notPanicked : server.worker ≠ .panicked := by
          intro panicked
          rw [panicked] at accepts
          cases accepts
        obtain ⟨_, hasOther⟩ := invariant.waiting notPanicked other handler old awaits
        rw [noRequest] at hasOther
        cases hasOther

/-- The step of a handler leaves the other handlers alone. -/
theorem step_handlers (running : server.worker ≠ .panicked) (env : StepEnv) {other : Nat}
    (apart : other ≠ id) :
    (serverStep cfg server (.step (.handler id) env)).handlers[other]? = server.handlers[other]? := by
  cases there : server.handlers[id]? with
  | none => rw [step_nobody running there]
  | some handler =>
    cases handler with
    | detect upload state => rw [step_detect running there, handleDetect_handlers upload state apart]
    | teep state => rw [step_teep running there, handleTeep_handlers env.returned state apart]

theorem step_requests (base : ServerInvariant cfg server) (invariant : RequestInvariant server) (action : Action) :
    RequestInvariant (serverStep cfg server action) := by
  by_cases ended : server.worker = .panicked
  · rw [step_panicked ended]
    exact invariant
  match action with
  | .request request =>
    rw [step_request ended]
    exact request_requests invariant request
  | .step .worker env =>
    rw [step_worker ended]
    exact runWorker_requests invariant ended env
  | .step (.handler id) env =>
    match there : server.handlers[id]? with
    | some (.detect upload state) =>
      rw [step_detect ended there]
      exact handleDetect_requests base invariant there
    | some (.teep state) =>
      rw [step_teep ended there]
      exact handleTeep_requests invariant there env.returned
    | none =>
      rw [step_nobody ended there]
      exact invariant

end Taws.Frontend
