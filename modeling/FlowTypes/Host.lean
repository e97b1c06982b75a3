import FlowTypes.Request

/-!
# Hosts

A host supplies the handlers of native functions, by their names.  A handler runs in the middle of
a solver pass, when one of its functions is called.  It may look at the compartment and make
requests, and decides how to go on by what it sees; types that it adds are delivered later in the
same pass.

## Main result

A handler that has nothing to do changes nothing (`run_done`).
-/

namespace FlowTypes

/-- What a handler does, one step after the other. -/
inductive Handler
  | done
  | fail (error : InferError)
  /-- Looks at the compartment. -/
  | look (next : Compartment → Handler)
  /-- Makes a request and goes on with the answer. -/
  | ask (request : Request) (next : Except InferError Answer → Handler)

namespace Handler

/-- Makes a request, and fails if the request fails. -/
def perform (request : Request) (next : Handler) : Handler :=
  ask request fun
    | .ok _ => next
    | .error e => fail e

/-- Runs a handler within a pass. -/
def run : Handler → Action Unit
  | done => pure ()
  | fail e => throw e
  | look next => fun c => run (next c) c
  | ask request next => fun c =>
    let (outcome, c) := request.perform (pure ()) c
    run (next outcome) c

theorem run_done (c : Compartment) : run done c = (.ok (), c) := rfl

end Handler

/-- The handlers of a host, by name; each is told the site of the call. -/
abbrev Host := String → CallSite → Handler

/-- A host whose handlers do nothing. -/
def Host.silent : Host := fun _ _ => .done

end FlowTypes
