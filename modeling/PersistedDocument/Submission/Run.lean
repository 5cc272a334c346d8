import PersistedDocument.Submission.Response
import PersistedDocument.Submission.Watch

/-!
# Submitting a document

A run of the program against a world that gives the time and answers the request. At most one
request is sent. What is reported goes as far as the run comes: a start once the request is made, a
completion once a response is taken, and the id once the response turns out to hold one.
-/

namespace PersistedDocument

/-- What the service does about a request. -/
inductive Reply where
  /-- It answers. -/
  | response (status : Int) (body : Octets)
  /-- A fault is met. -/
  | fault (kind : Fault) (text : String)
deriving DecidableEq, Repr

/-- What a run meets outside the program. -/
structure World where
  /-- The label for a request. -/
  rid : String
  /-- The time of day. -/
  time : String
  /-- The seconds that the clock shows at each reading. -/
  clock : Nat → Float
  /-- How many arrays and objects in a response may lie in each other. -/
  room : Nat
  /-- What the service does. -/
  reply : Reply

/-- What a run leaves behind. -/
structure Run where
  /-- The requests that were sent. -/
  requests : List Request
  /-- What was reported, oldest first. -/
  events : List Event
  /-- The id that was given, or why there is none. -/
  outcome : Except RunError LooseText

/-- The end of a run on a fault. -/
def faultError (endpoint : String) (kind : Fault) (text : String) : RunError :=
  if kind.isTransport then
    .failure (.network ("Could not reach " ++ endpoint ++ ": " ++ kind.name ++ ": " ++ text)
      (some kind.name))
  else .fault kind

/-- The reports about a judged response. -/
def judgementEvents : Except RunError LooseText → List Event
  | .ok id => [.persisted id]
  | .error _ => []

/-- A request that starts in a world. -/
def Request.watched (r : Request) (w : World) : Watched :=
  (Watched.mk Request.method r.address none).begin w.rid (w.clock 0)

/-- What is reported when a response is there, and what comes of it. A response is only taken from
an absolute address. The clock is read twice. -/
def Request.receive (r : Request) (w : World) (status : Int) (body : Octets) :
    List Event × Except RunError LooseText :=
  if r.address.isAbsolute then
    let outcome := judge w.room status body
    let completed := (r.watched w).completionEvent w.time status (w.clock 1) (w.clock 2)
    (completed :: judgementEvents outcome, outcome)
  else ([], .error .unattributableResponse)

/-- Sends a request and judges what comes back. The clock is read once when the request starts. -/
def Request.send (r : Request) (w : World) (endpoint : String) : Run :=
  let started := (r.watched w).startEvent w.rid
  match w.reply with
  | .fault kind text => ⟨[r], [started], .error (faultError endpoint kind text)⟩
  | .response status body =>
    let (events, outcome) := r.receive w status body
    ⟨[r], started :: events, outcome⟩

/-- Submits a transformed document. -/
def submit (w : World) (s : ServiceSettings) (t : Transformed) : Run :=
  match Request.prepare s t with
  | .error refusal => ⟨[], [], .error (.refused refusal)⟩
  | .ok request => request.send w s.endpoint

/-- Submits a transformed document after what was reported before. -/
def submitAfter (w : World) (s : ServiceSettings) (t : Transformed) (before : List Event) : Run :=
  let run := submit w s t
  { run with events := before ++ run.events }

/-- The settings that sources give, as far as the sources can be read. -/
def settingsFrom : Option Settings.Sources → Except RunError ServiceSettings
  | none => .error .unreadableSettings
  | some sources =>
    match ServiceSettings.resolve sources with
    | .valid s => .ok s
    | .invalid ps => .error (.invalidSettings ps)

/-- Makes a text ready and submits it. The settings are looked at after the text. -/
def persist (w : World) (env : Environment) (settings : Except RunError ServiceSettings)
    (text : String) : Run :=
  match transform env text .fresh with
  | .error f c => ⟨[], c.events, .error (.failure f)⟩
  | .ok t c =>
    match settings with
    | .error e => ⟨[], c.events, .error e⟩
    | .ok s => submitAfter w s t c.events

end PersistedDocument
