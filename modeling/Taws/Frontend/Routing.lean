import Taws.Frontend.Requests

/-!
# Every request gets its own answer

All `/detect` requests go through one channel to one worker, and what comes back goes through a channel that the
request carries.  Whatever else is on its way, a browser is shown what the attester has made of the image that
this browser has sent, for which it was called once, and it is answered once.

* `WebEvent`, `loggingServer` — the server, with the calls for detection and the responses.
* `Comes`, `Ended` — where the answer of the worker and the response of a handler come from.
* `Logged` — what has happened to each request by the time its handler is where it is.
* `detect_own` — what has happened to a request that has been answered.
-/

namespace Taws.Frontend

inductive WebEvent where
  /-- `InvokeWasm` has returned to the worker, which has the request in hand. -/
  | invoked (req : DetectRequest) (returned : AttesterReturn)
  /-- The handler has ended, with this response. -/
  | responded (id : Nat) (response : HttpResponse)
  deriving DecidableEq

/-- The request that the event is about. -/
def WebEvent.id : WebEvent → Nat
  | .invoked req _ => req.resp
  | .responded id _ => id

def about (id : Nat) (events : List WebEvent) : List WebEvent := events.filter fun event => event.id = id

def workerEvents (returned : AttesterReturn) : Worker → List WebEvent
  | .invokeWasm .inside req => [.invoked req returned]
  | _ => []

/-- The event of a handler that is there before a step and after it. -/
def handlerEvents (id : Nat) (handler after : Option Handler) : List WebEvent :=
  match handler.bind Handler.response, after.bind Handler.response with
  | none, some response => [.responded id response]
  | _, _ => []

variable (cfg : ServerConfig)

def webEvents (server : Server) (action : Action) : List WebEvent :=
  match action with
  | .request _ => []
  | .step .worker env => workerEvents env.returned server.worker
  | .step (.handler id) _ => handlerEvents id server.handlers[id]? (serverStep cfg server action).handlers[id]?

/-- The answer of the worker to the request `id` comes from one call on the image of the upload, or there was no
call and it is an error. -/
inductive Comes (upload : Upload) (id : Nat) : DetectResponse → List WebEvent → Prop where
  | uncalled {response : DetectResponse} (failed : response.err.isSome = true) : Comes upload id response []
  | called {input : Bytes} {returned : AttesterReturn} {response : DetectResponse}
      (image : readImage upload = .ok input) (result : invokeWasm cfg.maxOut returned = some response) :
    Comes upload id response [.invoked ⟨input, id⟩ returned]

/-- The response of the handler is a refusal, or what it makes of the answer of the worker. -/
inductive Ended (upload : Upload) (id : Nat) : HttpResponse → List WebEvent → Prop where
  | refused {response : HttpResponse} (noImage : ∀ output, response ≠ .image output) :
    Ended upload id response [.responded id response]
  | answered {resp : DetectResponse} {before : List WebEvent} (comes : Comes cfg upload id resp before) :
    Ended upload id (detectResponse resp) (before ++ [.responded id (detectResponse resp)])

/-- What the worker answers to the request that it has in hand, once it knows. -/
def Worker.response : Worker → Option DetectResponse
  | .unlocks _ response => some response
  | .replies _ response => some response
  | _ => none

def Worker.Tells (worker : Worker) (upload : Upload) (id : Nat) (events : List WebEvent) : Prop :=
  match worker.response with
  | none => events = []
  | some response => Comes cfg upload id response events

def DetectState.Told (worker : Worker) (upload : Upload) (id : Nat) (events : List WebEvent) : DetectState → Prop
  | .waits none => worker ≠ .panicked → worker.Tells cfg upload id events
  | .waits (some response) => Comes cfg upload id response events
  | .done response => Ended cfg upload id response events
  | _ => events = []

def Handler.Told (worker : Worker) (id : Nat) (events : List WebEvent) : Handler → Prop
  | .detect upload state => state.Told cfg worker upload id events
  | .teep (.done response) => events = [.responded id response]
  | .teep _ => events = []

structure Logged (events : List WebEvent) (server : Server) : Prop where
  absent : ∀ id, server.handlers[id]? = none → about id events = []
  told : ∀ (id : Nat) (handler : Handler), server.handlers[id]? = some handler →
    handler.Told cfg server.worker id (about id events)

variable {cfg} {server after : Server} {id : Nat} {events : List WebEvent}

theorem about_append (id : Nat) (first second : List WebEvent) :
    about id (first ++ second) = about id first ++ about id second := List.filter_append ..

theorem handlerEvents_about (id other : Nat) (handler after : Option Handler) :
    about other (handlerEvents id handler after) = if other = id then handlerEvents id handler after else [] := by
  unfold handlerEvents
  split
  · by_cases same : other = id
    · simp [about, WebEvent.id, same]
    · simp [about, WebEvent.id, same, Ne.symm same]
  · simp [about]

theorem handlerEvents_same (id : Nat) (handler : Option Handler) : handlerEvents id handler handler = [] := by
  unfold handlerEvents
  split
  · next before after => exact absurd (before.symm.trans after) (by simp)
  · rfl

/-- A handler that does not wait is told the same whatever the worker does. -/
theorem told_worker {handler : Handler} (notAwaits : handler.awaits = false) (worker next : Worker) :
    handler.Told cfg worker id events ↔ handler.Told cfg next id events := by
  match handler with
  | .teep state => cases state <;> rfl
  | .detect upload state =>
    cases state with
    | waits respCh =>
      cases respCh with
      | none => cases notAwaits
      | some response => rfl
    | _ => rfl

/-! ## Steps of a handler -/

theorem readImage_noImage {upload : Upload} {response : HttpResponse} (unread : readImage upload = .error response)
    (output : Bytes) : response ≠ .image output := by
  rintro rfl
  unfold readImage at unread
  repeat' split at unread
  all_goals cases unread

/-- What a handler's own step adds to its story. -/
def Continued (cfg : ServerConfig) (events : List WebEvent) (id : Nat) (handler : Handler) (after : Server) : Prop :=
  ∃ next, after.handlers[id]? = some next ∧
    next.Told cfg after.worker id (events ++ handlerEvents id (some handler) (some next))

theorem handleDetect_told {upload : Upload} {state : DetectState}
    (there : server.handlers[id]? = some (.detect upload state))
    (told : (Handler.detect upload state).Told cfg server.worker id events) :
    Continued cfg events id (.detect upload state) (handleDetect id upload state server) := by
  have step := handleDetect_step server id upload state
  generalize handleDetect id upload state server = after at step
  have here : ∀ next, (server.handlers.set id next)[id]? = some next := set_there there
  cases step with
  | stays blocked =>
    refine ⟨_, there, ?_⟩
    rw [handlerEvents_same, List.append_nil]
    exact told
  | refused =>
    rw [show events = [] from told]
    exact ⟨_, here _, .refused (by simp)⟩
  | rejects unread =>
    rw [show events = [] from told]
    exact ⟨_, here _, .refused (readImage_noImage unread)⟩
  | answers resp => exact ⟨_, here _, .answered told⟩
  | @sends input worker accepts =>
    refine ⟨_, here _, ?_⟩
    rw [show events = [] from told]
    have unanswered : worker.response = none := by
      generalize server.worker = ready at accepts
      cases ready with
      | receives =>
        cases accepts
        rfl
      | receivesFailed err =>
        cases accepts
        rfl
      | _ => cases accepts
    intro running
    simp only [Worker.Tells, unanswered]
    rfl
  | _ =>
    rw [show events = [] from told]
    exact ⟨_, here _, rfl⟩

theorem handleTeep_told {state : TeepState} (returned : AttesterReturn)
    (there : server.handlers[id]? = some (.teep state)) (told : (Handler.teep state).Told cfg server.worker id events) :
    Continued cfg events id (.teep state) (handleTeep returned id state server) := by
  obtain ⟨stays, blocked⟩ | ⟨next, mu, less, moves⟩ := handleTeep_step returned server id state
  · rw [stays]
    refine ⟨_, there, ?_⟩
    rw [handlerEvents_same, List.append_nil]
    exact told
  · rw [moves]
    refine ⟨_, set_there there _, ?_⟩
    have unfinished : (Handler.teep state).response = none := by
      cases state with
      | done response => cases less
      | _ => rfl
    have silent : events = [] := by
      cases state with
      | done response => cases less
      | _ => exact told
    rw [silent, handlerEvents, Option.bind_some, unfinished]
    cases next <;> rfl

/-! ## Steps of the server -/

theorem start_logged (cfg : ServerConfig) : Logged cfg [] .start where
  absent := fun _ _ => rfl
  told := fun _ _ there => nomatch there

/-- A handler that waits keeps the worker from everything but its request, so nobody else moves the worker. -/
theorem Told.frame {handler : Handler} (told : handler.Told cfg server.worker id events)
    (same : handler.awaits = true → after.worker = server.worker) : handler.Told cfg after.worker id events := by
  cases waiting : handler.awaits with
  | true => exact same waiting ▸ told
  | false => exact (told_worker waiting _ _).mp told

/-- The step of a handler leaves the worker alone while another handler waits. -/
theorem handlerStep_worker (base : ServerInvariant cfg server) (requests : RequestInvariant server)
    (running : server.worker ≠ .panicked) (goroutine : Nat) (env : StepEnv) {handler : Handler}
    (there : server.handlers[id]? = some handler) (waits : handler.awaits = true) :
    (serverStep cfg server (.step (.handler goroutine) env)).worker = server.worker := by
  obtain ⟨input, has⟩ := requests.waiting running id handler there waits
  match at_ : server.handlers[goroutine]? with
  | none => rw [step_nobody running at_]
  | some (.teep state) =>
    rw [step_teep running at_]
    exact handleTeep_worker env.returned state
  | some (.detect upload state) =>
    rw [step_detect running at_]
    obtain same | ⟨rfl, _⟩ | ⟨other, rfl, accepts⟩ := handleDetect_worker server goroutine upload state
    · exact same
    · rw [base.unstarted.before goroutine _ at_ rfl] at has
      cases has
    · rw [(accept_spec accepts).1] at has
      cases has

theorem handlerStep_logged (base : ServerInvariant cfg server) (requests : RequestInvariant server)
    (running : server.worker ≠ .panicked) (goroutine : Nat) (env : StepEnv)
    (logged : Logged cfg events server) :
    Logged cfg (events ++ webEvents cfg server (.step (.handler goroutine) env))
      (serverStep cfg server (.step (.handler goroutine) env)) := by
  have worker : ∀ {id : Nat} {handler : Handler}, server.handlers[id]? = some handler → handler.awaits = true →
      (serverStep cfg server (.step (.handler goroutine) env)).worker = server.worker :=
    handlerStep_worker base requests running goroutine env
  have others : ∀ other, other ≠ goroutine →
      (serverStep cfg server (.step (.handler goroutine) env)).handlers[other]? = server.handlers[other]? := by
    intro other apart
    exact step_handlers running env apart
  have own : ∀ handler, server.handlers[goroutine]? = some handler → Continued cfg (about goroutine events) goroutine
      handler (serverStep cfg server (.step (.handler goroutine) env)) := by
    intro handler at_
    have told := logged.told goroutine handler at_
    cases handler with
    | teep state => exact step_teep running at_ env ▸ handleTeep_told env.returned at_ told
    | detect upload state => exact step_detect running at_ env ▸ handleDetect_told at_ told
  have nobody : server.handlers[goroutine]? = none →
      serverStep cfg server (.step (.handler goroutine) env) = server := fun at_ => step_nobody running at_ env
  simp only [webEvents]
  generalize serverStep cfg server (.step (.handler goroutine) env) = after at *
  constructor
  · intro id absent
    rw [about_append, handlerEvents_about]
    by_cases same : id = goroutine
    · subst same
      cases at_ : server.handlers[id]? with
      | none =>
        rw [if_pos rfl, logged.absent id at_, absent]
        rfl
      | some handler =>
        obtain ⟨next, here, _⟩ := own handler at_
        rw [absent] at here
        cases here
    · rw [if_neg same, List.append_nil]
      exact logged.absent id (others id same ▸ absent)
  · intro id handler there
    rw [about_append, handlerEvents_about]
    by_cases same : id = goroutine
    · subst same
      cases at_ : server.handlers[id]? with
      | none =>
        rw [nobody at_, at_] at there
        cases there
      | some before =>
        obtain ⟨next, here, told⟩ := own before at_
        rw [Option.some.inj (there.symm.trans here), if_pos rfl, here]
        exact told
    · rw [if_neg same, List.append_nil]
      have at_ : server.handlers[id]? = some handler := others id same ▸ there
      exact Told.frame (logged.told id handler at_) fun waits => worker at_ waits

/-- What the worker sends to the handler that waits for it. -/
theorem reply_told {req : DetectRequest} {response : DetectResponse} {next : Worker} {upload : Upload}
    (waits : server.handlers[req.resp]? = some (.detect upload (.waits none)))
    (comes : Comes cfg upload req.resp response (about req.resp events)) (logged : Logged cfg events server)
    (onlyOne : ∀ (id : Nat) (handler : Handler), server.handlers[id]? = some handler → handler.awaits = true →
      id = req.resp) :
    Logged cfg events { server.reply req response with worker := next } := by
  have handlers : ∀ id, (server.reply req response).handlers[id]? =
      if req.resp = id then some (.detect upload (.waits (some response))) else server.handlers[id]? := by
    intro id
    rw [Server.reply, List.getElem?_modify]
    split
    · next same => rw [← same, waits]; rfl
    · cases server.handlers[id]? <;> rfl
  constructor
  · intro id absent
    replace absent := (handlers id).symm.trans absent
    split at absent
    · cases absent
    · exact logged.absent id absent
  · intro id handler there
    replace there := (handlers id).symm.trans there
    split at there
    · next same =>
      cases there
      exact same ▸ comes
    · next apart =>
      refine Told.frame (logged.told id handler there) fun waits => ?_
      exact absurd (onlyOne id handler there waits).symm apart

theorem workerStep_logged (requests : RequestInvariant server) (running : server.worker ≠ .panicked)
    (env : StepEnv) (logged : Logged cfg events server) :
    Logged cfg (events ++ workerEvents env.returned server.worker) (runWorker cfg env server) := by
  have step := runWorker_step cfg env server
  have held := requests.held
  have waiting := requests.waiting running
  have told := logged.told
  generalize at_ : server.worker = worker at step held waiting told running
  generalize runWorker cfg env server = after at step
  -- the worker moves, and whoever waits for it is told what follows
  have moves : ∀ {req : DetectRequest} (mu : Option Goroutine) (next : Worker), worker.request = some req →
      (∀ id, id ≠ req.resp → about id (workerEvents env.returned worker) = []) →
      (∀ upload, readImage upload = .ok req.input → worker.Tells cfg upload req.resp (about req.resp events) →
        next ≠ .panicked → next.Tells cfg upload req.resp
          (about req.resp events ++ about req.resp (workerEvents env.returned worker))) →
      Logged cfg (events ++ workerEvents env.returned worker) { server with mu := mu, worker := next } := by
    intro req mu next has others tells
    obtain ⟨upload, waits, image⟩ := held req has
    constructor
    · intro id absent
      rw [about_append, others id (fun same => nomatch (same ▸ waits).symm.trans absent), List.append_nil]
      exact logged.absent id absent
    · intro id handler there
      by_cases same : id = req.resp
      · subst same
        rw [← Option.some.inj (waits.symm.trans there)]
        rw [about_append]
        exact tells upload image (told _ _ waits running)
      · rw [about_append, others id same, List.append_nil]
        refine (told_worker ?_ worker _).mp (told id handler there)
        cases awaits : handler.awaits with
        | false => rfl
        | true =>
          obtain ⟨input, hasOther⟩ := waiting id handler there awaits
          rw [has] at hasOther
          cases hasOther
          exact absurd rfl same
  have silent : ∀ {req : DetectRequest} (id : Nat), id ≠ req.resp → about id ([] : List WebEvent) = [] :=
    fun _ _ => rfl
  -- the one step that makes an event
  have own : ∀ req, about req.resp (workerEvents env.returned (.invokeWasm .inside req)) = [.invoked req env.returned] := by
    intro req
    simp [workerEvents, about, WebEvent.id]
  have others : ∀ req id, id ≠ req.resp → about id (workerEvents env.returned (.invokeWasm .inside req)) = [] := by
    intro req id apart
    simp [workerEvents, about, WebEvent.id, Ne.symm apart]
  have onlyOne : ∀ {req : DetectRequest}, worker.request = some req → ∀ (id : Nat) (handler : Handler),
      server.handlers[id]? = some handler → handler.awaits = true → id = req.resp := by
    intro req has id handler there awaits
    obtain ⟨input, hasOther⟩ := waiting id handler there awaits
    rw [has] at hasOther
    cases hasOther
    rfl
  cases step with
  | stays blocked =>
    have noEvent : workerEvents env.returned worker = [] := by
      unfold workerEvents
      split
      · cases blocked
      · rfl
    rw [noEvent, List.append_nil]
    exact logged
  | @startsUp _ next unasked empty less started notPanicked =>
    have noEvent : workerEvents env.returned worker = [] := by
      unfold workerEvents
      split
      · cases unasked
      · rfl
    rw [noEvent, List.append_nil]
    refine ⟨logged.absent, fun id handler there => ?_⟩
    refine Told.frame (logged.told id handler there) fun awaits => ?_
    obtain ⟨input, has⟩ := waiting id handler there awaits
    exact nomatch has.symm.trans unasked
  | locks free =>
    refine moves (some .worker) _ rfl silent fun upload image tells _ => ?_
    rw [show about _ events = [] from tells]
    rfl
  | refuses =>
    refine moves server.mu _ rfl silent fun upload image tells _ => ?_
    rw [show about _ events = [] from tells]
    exact .uncalled rfl
  | calls =>
    refine moves server.mu _ rfl silent fun upload image tells _ => ?_
    rw [show about _ events = [] from tells]
    rfl
  | @returns req response invoked =>
    refine moves server.mu _ rfl (others req) fun upload image tells _ => ?_
    rw [show about _ events = [] from tells, List.nil_append, own req]
    exact .called image invoked
  | panics panic =>
    obtain ⟨rfl, _⟩ | ⟨rfl, _⟩ := panic
    · exact moves server.mu _ rfl silent fun upload image tells ended => absurd rfl ended
    · exact moves server.mu _ rfl (others _) fun upload image tells ended => absurd rfl ended
  | unlocks =>
    refine moves none _ rfl silent fun upload image tells _ => ?_
    rw [show about _ (workerEvents env.returned _) = [] from rfl, List.append_nil]
    exact tells
  | @replies req response =>
    rw [show workerEvents env.returned (.replies req response) = [] from rfl, List.append_nil]
    obtain ⟨upload, waits, _⟩ := held req rfl
    exact reply_told waits (told _ _ waits running) logged (onlyOne rfl)
  | @repliesFailed req err =>
    rw [show workerEvents env.returned (.repliesFailed err req) = [] from rfl, List.append_nil]
    obtain ⟨upload, waits, _⟩ := held req rfl
    refine reply_told waits ?_ logged (onlyOne rfl)
    rw [show about _ events = [] from told _ _ waits running]
    exact .uncalled rfl

theorem webEvents_panicked (ended : server.worker = .panicked) (action : Action) : webEvents cfg server action = [] := by
  match action with
  | .request request => rfl
  | .step .worker env => rw [webEvents, ended]; rfl
  | .step (.handler id) env =>
    rw [webEvents, step_panicked ended, handlerEvents_same]

theorem step_logged (base : ServerInvariant cfg server) (requests : RequestInvariant server) (action : Action)
    (logged : Logged cfg events server) :
    Logged cfg (events ++ webEvents cfg server action) (serverStep cfg server action) := by
  by_cases ended : server.worker = .panicked
  · rw [webEvents_panicked ended, List.append_nil, step_panicked ended]
    exact logged
  match action with
  | .request request =>
    rw [step_request ended, webEvents, List.append_nil]
    constructor
    · intro id absent
      refine logged.absent id ?_
      rw [List.getElem?_eq_none_iff, List.length_append] at absent
      exact List.getElem?_eq_none_iff.mpr (by omega)
    · intro id handler there
      obtain old | ⟨new, same⟩ := appended_there there
      · exact logged.told id handler old
      · rw [logged.absent id (List.getElem?_eq_none_iff.mpr (Nat.le_of_eq new.symm)), same]
        cases request <;> rfl
  | .step .worker env =>
    rw [step_worker ended]
    exact workerStep_logged requests ended env logged
  | .step (.handler id) env => exact handlerStep_logged base requests ended id env logged

end Taws.Frontend
