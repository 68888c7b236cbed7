import LoginVault.Session.View

/-!
# Session.Task — what happens in a turn

A task runs from its turn to the next point at which it waits. At most one fetch is begun in a
turn of a task, and the turn answers with it.
-/

namespace LoginVault.State

/-- Sends the query of an errand and lets the task wait for its answer. -/
def ask (s : State) (task : String) (e : Errand) : State × Option Nat :=
  let s := s.send (.task task) (e.query s.client.config.pageSize)
  (s.setTask task (.waiting (.answer e)), none)

/-- Ends a task with a value, unless an observer failed on the way. -/
def conclude (task : String) (v : Value) : State × Option Failure → State × Option Nat
  | (s, none) => (s.finish task (.returned v), none)
  | (s, some f) => (s.finish task (.raised f), none)

/-- The identifiers of the rows of a view. -/
def rowIds (s : State) (view : String) : List LoginId :=
  match s.views.lookup view with
  | some v => v.table.rows.map (·.id)
  | none => []

/-- The end of a visit: the view is unmounted, whether the visitor fails or not. -/
def endVisit (s : State) (task view : String) (fails : Bool) : State × Option Nat :=
  let ids := s.rowIds view
  let outcome := if fails then Outcome.raised .navigation else .returned (.rowIds ids)
  ((s.unmount view).finish task outcome, none)

/-- What a task does when the fetch it waited for ended well, or ended in a failure of the store
that was reported to a view. -/
def afterFetch (s : State) (task : String) : Purpose → State × Option Nat
  | .outcome => (s.finish task (.returned .nothing), none)
  | .mounting _ => (s.finish task (.returned .nothing), none)
  | .visiting view fails => s.endVisit task view fails
  | .saved _ login => (s.finish task (.returned (.login login)), none)

/-- The view to which a failure of the fetch is reported. -/
def Purpose.view? : Purpose → Option String
  | .outcome => none
  | .mounting view => some view
  | .visiting view _ => some view
  | .saved view _ => some view

/-- The turn of a task after the fetch it waited for. -/
def fetchEnded (s : State) (task : String) (p : Purpose)
    (outcome : Except Failure (List Login)) : State × Option Nat :=
  match outcome, Purpose.view? p with
  | .ok logins, none => (s.finish task (.returned (.logins logins)), none)
  | .ok _, some _ => s.afterFetch task p
  | .error (.store e), some view =>
    -- a failure of the store is kept on the view, and the task goes on
    match s.report view e with
    | (s, none) => s.afterFetch task p
    | (s, some f) => (s.finish task (.raised f), none)
  | .error f, _ => (s.finish task (.raised f), none)

/-- The turn of a task that mounts a view. -/
def beginMount (s : State) (task view : String) (p : Purpose) : State × Option Nat :=
  if s.isMounted view then s.afterFetch task p
  else (s.mount view).revalidate task false p

/-- The turn of a task that submits the form of a view. -/
def beginSubmit (s : State) (task view : String) (record : NewLogin) : State × Option Nat :=
  match record.problem? with
  | some problem =>
    conclude task .nothing (s.changeForm view ({ · with error := problem.message }))
  | none =>
    match s.changeForm view ({ · with submitting := true, error := "" }) with
    | (s, none) => s.ask task (.submit view record)
    | (s, some f) => (s.finish task (.raised f), none)

/-- The first turn of a task. -/
def begin (s : State) (task : String) : Call → State × Option Nat
  | .revalidate fresh => s.revalidate task fresh .outcome
  | .refresh _ => s.revalidate task false .outcome
  | .list search => s.ask task (.list (.start search))
  | .create (.ok record) => s.ask task (.create record)
  | .create (.error why) => (s.finish task (.raised (.malformed why)), none)
  | .lookup address =>
    match activeAddress address with
    | .error f =>
      let outcome := match LookupResult.ofQuery "" (.error f) with
        | .ok r => Outcome.returned (.lookup r)
        | .error f => .raised f
      (s.finish task outcome, none)
    | .ok a =>
      let key := LookupKey.ofAddress a
      if key.isEmpty then (s.finish task (.returned (.lookup (.ofLogins key []))), none)
      else s.ask task (.lookup key (.start (some key)))
  | .mount view => s.beginMount task view (.mounting view)
  | .visit view fails => s.beginMount task view (.visiting view fails)
  | .submit view (.ok record) => s.beginSubmit task view record
  | .submit _ (.error why) => (s.finish task (.raised (.malformed why)), none)

/-- Reads a page that a task asked for: either it asks for the next one, or its list is
complete. -/
def readPage (s : State) (task : String) (p : Paging) (a : Answer) (next : Paging → Errand)
    (finished : Except Failure (List Login) → Outcome) : State × Option Nat :=
  match p.advance s.client.config.pageSize a with
  | .ok (.more p) => s.ask task (next p)
  | .ok (.complete logins) => (s.finish task (finished (.ok logins)), none)
  | .error f => (s.finish task (finished (.error f)), none)

/-- The outcome of a list. -/
def listOutcome : Except Failure (List Login) → Outcome
  | .ok logins => .returned (.logins logins)
  | .error f => .raised f

/-- The outcome of a lookup for a key. -/
def lookupOutcome (key : String) (r : Except Failure (List Login)) : Outcome :=
  match LookupResult.ofQuery key r with
  | .ok r => .returned (.lookup r)
  | .error f => .raised f

/-- The turn of a task after the answer to its errand. -/
def answered (s : State) (task : String) (e : Errand) (a : Answer) : State × Option Nat :=
  match e with
  | .list p => s.readPage task p a .list listOutcome
  | .lookup key p => s.readPage task p a (.lookup key) (lookupOutcome key)
  | .create record =>
    match a.result (.create record) Response.created with
    | .ok login => (s.finish task (.returned (.login login)), none)
    | .error f => (s.finish task (.raised f), none)
  | .submit view record =>
    match a.result (.create record) Response.created with
    | .ok login =>
      -- the new login shows only once a fetch that begins later has ended
      match s.changeForm view fun _ => .closed with
      | (s, none) => s.revalidate task true (.saved view login)
      | (s, some f) => (s.finish task (.raised f), none)
    | .error (.store e) =>
      conclude task .nothing
        (s.changeForm view ({ · with submitting := false, error := e.message }))
    | .error f => (s.finish task (.raised f), none)

/-- The turn of a task. A task that has no turn coming does nothing. -/
def resume (s : State) (task : String) : State × Option Nat :=
  match s.tasks.lookup task with
  | some (.ready r) =>
    match r with
    | .begin c => s.begin task c
    | .answered e a => s.answered task e a
    | .supersededEnded p => s.awaitFetch task p
    | .fetchEnded fetch p =>
      match s.cache.fetches[fetch]?.bind Fetch.outcome? with
      | some outcome => s.fetchEnded task p outcome
      | none => (s, none)
    | .cancelled => (s.finish task .cancelled, none)
  | _ => (s, none)

/-! ## Turns of a fetch -/

/-- Asks for a page on behalf of a fetch. -/
def askPage (s : State) (fetch : Nat) (p : Paging) : State :=
  { s with cache := s.cache.setStage fetch (.asking p) }.send (.fetch fetch)
    (p.query s.client.config.pageSize)

/-- The first turn of a fetch. -/
def openFetch (s : State) (fetch : Nat) : State :=
  match s.cache.fetches[fetch]? with
  | some ⟨.begun, _⟩ => s.askPage fetch (.start none)
  | _ => s

/-- The turn of a fetch after the answer to its page. It goes on to the next page, or it ends:
then the tasks that were started by followers and the tasks that wait for it are named. -/
def readFetch (s : State) (fetch : Nat) : State × List String × Option (List String) :=
  match s.cache.fetches[fetch]? with
  | some ⟨.answered p a, waiting⟩ =>
    let ended (s : State) (outcome : Except Failure (List Login)) : State :=
      { s with cache := s.cache.setStage fetch (.finished outcome) }
    match p.advance s.client.config.pageSize a with
    | .ok (.more p) => (s.askPage fetch p, [], none)
    | .ok (.complete logins) =>
      let (s, started) := s.replaceSnapshot logins
      (ended s (.ok logins), started, some waiting)
    | .error f => (ended s (.error f), [], some waiting)
  | _ => (s, [], none)

end LoginVault.State
