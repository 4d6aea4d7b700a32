import TableServer.Proofs.Service.Requests

/-! Requests under a trigger. It is asked once, when the route and the body of a request are read
and nothing else is done, and never for an edge function. What it raises is answered while the store
is as it was and no handler is called; a request that it lets pass is answered as by the same
service without it. -/
namespace TableServer

/-- The error that tells what a trigger raised: itself, or its message with a status of 500. -/
inductive Failure.ToldBy : Failure → ServiceError → Prop where
  | service (e : ServiceError) : ToldBy (.service e) e
  | fault (f : Fault) : ToldBy (.fault f)
      { kind := .general, message := f.message, code := "PGRST000", status := 500,
        details := .none, hint := none }

namespace Service

variable {s : Service} {r : Request} {c : Consultation}

end Service

end TableServer
