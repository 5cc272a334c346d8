import PersistedDocument.Proofs.Submission

/-!
# Proofs: the trace of a submission

The log of a submission shows how far it came. Nothing is reported of a request that cannot be
made, a start of one that is sent, a completion as soon as its response is taken, and the id as
soon as the response turns out to hold one. The start is alone not only after a fault: a response to
a request of which the address is not absolute is never taken.
-/

namespace PersistedDocument

/-- The report that a request is sent. -/
def Request.started (r : Request) (w : World) : Event :=
  .requestStarted w.rid (String.ofList r.address.requestPath)

section

variable {w : World} {r : Request}

end

end PersistedDocument
