import PersistedDocument.Decimal.Shortest
import PersistedDocument.Log
import PersistedDocument.Url.Basic

/-!
# Watching requests

The course of a request is reported twice: when it is about to be sent, and when the response is
there. The second report says how long the request took.
-/

namespace PersistedDocument

/-- A request whose course is reported. -/
structure Watched where
  /-- Its method. -/
  method : String
  /-- Where it goes. -/
  address : Url
  /-- Its label and the seconds at which it started, once it has. -/
  start : Option (String × Float)

namespace Watched

/-- The label of a request that was never started. -/
def missingLabel : String := "------"

/-- A request that starts. -/
def begin (x : Watched) (rid : String) (seconds : Float) : Watched :=
  { x with start := some (rid, seconds) }

/-- The report that a request is about to be sent. -/
def startEvent (x : Watched) (rid : String) : Event :=
  .requestStarted rid (String.ofList x.address.requestPath)

/-- The text of the milliseconds between two readings of the clock. -/
def elapsedText (start now : Float) : String := Decimal.fixed 2 ((now - start) * 1000)

/-- The report that a response is there. The clock is read for it twice; the second reading stands
for the start of a request that was never started. -/
def completionEvent (x : Watched) (time : String) (status : Int) (now later : Float) : Event :=
  .requestCompleted {
    time, status
    rid := x.start.elim missingLabel Prod.fst
    host := String.ofList x.address.host
    method := x.method
    path := String.ofList x.address.requestPath
    query := String.ofList x.address.requestQuery
    elapsed := elapsedText (x.start.elim later Prod.snd) now }

end Watched

end PersistedDocument
