import Taws.App.Attester
import Taws.Machine

/-!
# The web server of the frontend

`web.go` and `attester_c_bridge.go`.  Every request runs in a goroutine of its own.  A `/teep` handler calls
the attester itself, between `s.mu.Lock()` and the deferred unlock; a `/detect` handler gives the image to
one worker, which the first of them starts, and waits for what the worker answers.

A step is what one goroutine does up to the next point at which another one can get in between.  A goroutine
that has to wait takes a step that changes nothing, so a list of actions is any interleaving at all.

* `ServerConfig`, `AttesterCall`, `AttesterReturn` — what the attester is called with and what it returns.
* `Worker`, `DetectState`, `TeepState` — where a goroutine is in its code.
* `runWorker`, `handleDetect`, `handleTeep` — the goroutines.
* `webServer` — the server as a machine.
-/

namespace Taws.Frontend

open App (TeepSessionResult)

structure ServerConfig where
  wappName : CString
  funcName : CString
  maxOut : Int
  keygen : CString
  tamURL : CString
  logLevel : Int
  deriving DecidableEq

/-! ## The bridge to the attester -/

abbrev GoError := String

inductive AttesterCall where
  | setLogLevel (level : Int)
  | init (keygenMode : Option CString)
  | install (tamUrl appName : CString)
  | invokeWasm (wappName funcName : CString) (input : Bytes) (outputLen : Nat)
  deriving DecidableEq

/-- What such a call returns: `session` for `attester_install`, `ret` for the others; `out` and `actual` are
what `attester_invoke_wasm` has left in its buffers. -/
structure AttesterReturn where
  ret : Int
  session : TeepSessionResult
  out : Bytes
  actual : Nat
  deriving DecidableEq

structure DetectResponse where
  output : Bytes
  err : Option GoError
  deriving DecidableEq

def setLogLevelCall (level : Int) : AttesterCall := .setLogLevel level

def setLogLevel (returned : AttesterReturn) : Option GoError :=
  if returned.ret ≠ 0 then some "attester_set_log_level failed" else none

/-- The pointer is NULL where the mode is empty. -/
def initializeEnclaveCall (keygen : CString) : AttesterCall := .init (if keygen ≠ [] then some keygen else none)

def initializeEnclave (returned : AttesterReturn) : Option GoError :=
  if returned.ret ≠ 0 then some "attester_init failed" else none

def sessionError : TeepSessionResult → GoError
  | .teepErrorResponse => "teep error response"
  | .fatal => "fatal error"
  | .httpError => "http error"
  | .ok => "unknown teep session result"
  | .okDeviceActivated => "unknown teep session result"

def runInstallSessionCall (tamURL wappName : CString) : AttesterCall := .install tamURL wappName

def runInstallSession (returned : AttesterReturn) : TeepSessionResult × Option GoError :=
  match returned.session with
  | .ok => (.ok, none)
  | .okDeviceActivated => (.okDeviceActivated, none)
  | .teepErrorResponse => (.teepErrorResponse, some (sessionError .teepErrorResponse))
  | .fatal => (.fatal, some (sessionError .fatal))
  | .httpError => (.httpError, some (sessionError .httpError))

/-- Up to the call, which is not made without a positive `maxOutput`; `none` where `make` panics, as it does for a
length that is out of its range. -/
def invokeWasmCall (wappName funcName : CString) (input : Bytes) (maxOutput : Int) (makes : Bool) :
    Option (Except GoError AttesterCall) :=
  if maxOutput ≤ 0 then some (.error "maxOutput must be > 0")
  else if !makes then none
  else some (.ok (.invokeWasm wappName funcName input maxOutput.toNat))

/-- `none` where the slice expression at the end panics. -/
def invokeWasm (maxOutput : Int) (returned : AttesterReturn) : Option DetectResponse :=
  if returned.ret ≠ 0 then some ⟨[], some "attester_invoke_wasm failed"⟩
  else if returned.actual ≤ maxOutput.toNat then some ⟨returned.out.take returned.actual, none⟩
  else none

/-! ## Requests -/

inductive HttpMethod where
  | post
  | other
  deriving DecidableEq

inductive HttpResponse where
  | error (text : String) (status : Nat)
  /-- Status 200 with `image/jpeg`. -/
  | image (output : Bytes)
  /-- Status 200 with `text/plain; charset=utf-8`. -/
  | text (body : String)
  deriving DecidableEq

/-- An error while a body is read; `maxBytes` is `*http.MaxBytesError`. -/
inductive BodyError where
  | maxBytes
  | other
  deriving DecidableEq

structure Upload where
  parseMultipartForm : Option BodyError
  hasImage : Bool
  readAll : Except BodyError Bytes
  deriving DecidableEq

/-- From `ParseMultipartForm` to the check that the image is not empty. -/
def readImage (upload : Upload) : Except HttpResponse Bytes :=
  match upload.parseMultipartForm with
  | some .maxBytes => .error (.error "image upload too large" 413)
  | some .other => .error (.error "invalid multipart form" 400)
  | none =>
    if !upload.hasImage then .error (.error "missing image" 400)
    else
      match upload.readAll with
      | .error .maxBytes => .error (.error "image upload too large" 413)
      | .error .other => .error (.error "read image failed" 400)
      | .ok inputBytes => if inputBytes.length = 0 then .error (.error "empty image" 400) else .ok inputBytes

inductive Request where
  | detect (method : HttpMethod) (upload : Upload)
  | teep (method : HttpMethod)
  deriving DecidableEq

/-! ## Goroutines -/

/-- A handler is named by the number of its request. -/
inductive Goroutine where
  | worker
  | handler (id : Nat)
  deriving DecidableEq

inductive Phase where
  | before
  | inside
  deriving DecidableEq

/-- `resp` is the handler that reads the channel. -/
structure DetectRequest where
  input : Bytes
  resp : Nat
  deriving DecidableEq

inductive Worker where
  | notStarted
  | setLogLevel (phase : Phase)
  | initializeEnclave (phase : Phase)
  /-- The loops that answer every request with the error of the start-up. -/
  | receivesFailed (err : GoError)
  | repliesFailed (err : GoError) (req : DetectRequest)
  | receives
  | locks (req : DetectRequest)
  | invokeWasm (phase : Phase) (req : DetectRequest)
  | unlocks (req : DetectRequest) (response : DetectResponse)
  | replies (req : DetectRequest) (response : DetectResponse)
  /-- A panic that nothing recovers ends the process. -/
  | panicked
  deriving DecidableEq

inductive DetectState where
  | arrived (method : HttpMethod)
  | onceDo
  | makesChannel
  | startsWorker
  | leavesOnce
  | readsImage
  | sends (input : Bytes)
  | waits (respCh : Option DetectResponse)
  | done (response : HttpResponse)
  deriving DecidableEq

inductive TeepState where
  | arrived (method : HttpMethod)
  | locks
  | setLogLevel (phase : Phase)
  | initializeEnclave (phase : Phase)
  | runInstallSession (phase : Phase)
  | unlocks (response : HttpResponse)
  | done (response : HttpResponse)
  deriving DecidableEq

inductive Handler where
  | detect (upload : Upload) (state : DetectState)
  | teep (state : TeepState)
  deriving DecidableEq

/-- `sync.Once`: while it runs, it names the caller whose function it runs. -/
inductive Once where
  | unused
  | running (caller : Goroutine)
  | done
  deriving DecidableEq

/-- `detectorServer` and the goroutines; `reqCh` says whether the channel has been made, and `mu` who holds
the mutex. -/
structure Server where
  reqCh : Bool
  once : Once
  mu : Option Goroutine
  worker : Worker
  handlers : List Handler
  deriving DecidableEq

def Server.start : Server where
  reqCh := false
  once := .unused
  mu := none
  worker := .notStarted
  handlers := []

def Server.setHandler (server : Server) (id : Nat) (handler : Handler) : Server :=
  { server with handlers := server.handlers.set id handler }

def Handler.receive (response : DetectResponse) : Handler → Handler
  | .detect upload (.waits none) => .detect upload (.waits (some response))
  | handler => handler

def Server.reply (server : Server) (req : DetectRequest) (response : DetectResponse) : Server :=
  { server with handlers := server.handlers.modify req.resp (Handler.receive response) }

/-- `s.reqCh <- req`: the channel has no buffer, so the worker has to be at its end.  Where the worker goes
with the request, if it is. -/
def Worker.accept (req : DetectRequest) : Worker → Option Worker
  | .receives => some (.locks req)
  | .receivesFailed err => some (.repliesFailed err req)
  | _ => none

/-- What a step of a goroutine meets: whether `make` comes back with a buffer, and what the call it is inside
returns. -/
structure StepEnv where
  makes : Bool
  returned : AttesterReturn
  deriving DecidableEq

variable (cfg : ServerConfig)

def runWorker (env : StepEnv) (server : Server) : Server :=
  match server.worker with
  | .notStarted => server
  | .setLogLevel .before => { server with worker := .setLogLevel .inside }
  | .setLogLevel .inside =>
    match setLogLevel env.returned with
    | some err => { server with worker := .receivesFailed err }
    | none => { server with worker := .initializeEnclave .before }
  | .initializeEnclave .before => { server with worker := .initializeEnclave .inside }
  | .initializeEnclave .inside =>
    match initializeEnclave env.returned with
    | some err => { server with worker := .receivesFailed err }
    | none => { server with worker := .receives }
  -- the send of a handler takes it further
  | .receivesFailed _ => server
  | .repliesFailed err req => { server.reply req ⟨[], some err⟩ with worker := .receivesFailed err }
  | .receives => server
  | .locks req =>
    if server.mu = none then { server with mu := some .worker, worker := .invokeWasm .before req } else server
  | .invokeWasm .before req =>
    match invokeWasmCall cfg.wappName cfg.funcName req.input cfg.maxOut env.makes with
    | none => { server with worker := .panicked }
    | some (.error err) => { server with worker := .unlocks req ⟨[], some err⟩ }
    | some (.ok _) => { server with worker := .invokeWasm .inside req }
  | .invokeWasm .inside req =>
    match invokeWasm cfg.maxOut env.returned with
    | some response => { server with worker := .unlocks req response }
    | none => { server with worker := .panicked }
  | .unlocks req response => { server with mu := none, worker := .replies req response }
  | .replies req response => { server.reply req response with worker := .receives }
  | .panicked => server

def handleDetect (id : Nat) (upload : Upload) (state : DetectState) (server : Server) : Server :=
  match state with
  | .arrived method =>
    if method ≠ .post then server.setHandler id (.detect upload (.done (.error "method not allowed" 405)))
    else server.setHandler id (.detect upload .onceDo)
  | .onceDo =>
    -- `Do` returns only after the function of the first caller has returned
    match server.once with
    | .unused => { server.setHandler id (.detect upload .makesChannel) with once := .running (.handler id) }
    | .running _ => server
    | .done => server.setHandler id (.detect upload .readsImage)
  | .makesChannel => { server.setHandler id (.detect upload .startsWorker) with reqCh := true }
  | .startsWorker => { server.setHandler id (.detect upload .leavesOnce) with worker := .setLogLevel .before }
  | .leavesOnce => { server.setHandler id (.detect upload .readsImage) with once := .done }
  | .readsImage =>
    match readImage upload with
    | .error response => server.setHandler id (.detect upload (.done response))
    | .ok inputBytes => server.setHandler id (.detect upload (.sends inputBytes))
  | .sends input =>
    match server.worker.accept ⟨input, id⟩ with
    | some worker =>
      if server.reqCh then { server.setHandler id (.detect upload (.waits none)) with worker := worker } else server
    | none => server
  | .waits none => server
  | .waits (some resp) =>
    if resp.err.isSome then server.setHandler id (.detect upload (.done (.error "invoke detector failed" 500)))
    else server.setHandler id (.detect upload (.done (.image resp.output)))
  | .done _ => server

def teepResponse (result : TeepSessionResult × Option GoError) : HttpResponse :=
  if result.2.isSome then .error "install failed" 500
  else if result.1 = .okDeviceActivated then .text "The device has been activated. You can install the app."
  else .text "TEEP install finished."

def handleTeep (returned : AttesterReturn) (id : Nat) (state : TeepState) (server : Server) : Server :=
  match state with
  | .arrived method =>
    if method ≠ .post then server.setHandler id (.teep (.done (.error "method not allowed" 405)))
    else server.setHandler id (.teep .locks)
  | .locks =>
    if server.mu = none then { server.setHandler id (.teep (.setLogLevel .before)) with mu := some (.handler id) }
    else server
  | .setLogLevel .before => server.setHandler id (.teep (.setLogLevel .inside))
  | .setLogLevel .inside =>
    match setLogLevel returned with
    | some _ => server.setHandler id (.teep (.unlocks (.error "install failed" 500)))
    | none => server.setHandler id (.teep (.initializeEnclave .before))
  | .initializeEnclave .before => server.setHandler id (.teep (.initializeEnclave .inside))
  | .initializeEnclave .inside =>
    match initializeEnclave returned with
    | some _ => server.setHandler id (.teep (.unlocks (.error "install failed" 500)))
    | none => server.setHandler id (.teep (.runInstallSession .before))
  | .runInstallSession .before => server.setHandler id (.teep (.runInstallSession .inside))
  | .runInstallSession .inside =>
    server.setHandler id (.teep (.unlocks (teepResponse (runInstallSession returned))))
  | .unlocks response => { server.setHandler id (.teep (.done response)) with mu := none }
  | .done _ => server

/-! ## Runs -/

/-- A request comes in, or a goroutine takes a step; if it is inside a call, the call returns. -/
inductive Action where
  | request (request : Request)
  | step (goroutine : Goroutine) (env : StepEnv)
  deriving DecidableEq

def Request.handler : Request → Handler
  | .detect method upload => .detect upload (.arrived method)
  | .teep method => .teep (.arrived method)

def serverStep (server : Server) (action : Action) : Server :=
  if server.worker = .panicked then server
  else
    match action with
    | .request request => { server with handlers := server.handlers ++ [request.handler] }
    | .step .worker env => runWorker cfg env server
    | .step (.handler id) env =>
      match server.handlers[id]? with
      | some (.detect upload state) => handleDetect id upload state server
      | some (.teep state) => handleTeep env.returned id state server
      | none => server

def webServer : Machine Server Action Empty where
  step server action := (serverStep cfg server action, [])

end Taws.Frontend
