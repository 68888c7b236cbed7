import LoginVault.Session.Cache

/-!
# Session.View — views and followers

A view calls its observer after every change. An observer that fails ends whatever changed the
view, after the change; only the cache, when it tells its followers of a snapshot, goes on.
-/

namespace LoginVault.State

/-- What an observer of the view sees now. -/
def seen (s : State) (v : View) : Seen :=
  ⟨v.table.rows, v.table.filter, v.table.order, s.cache.snapshot.length, s.cache.isLoading, v.form,
    v.lastError⟩

/-- Calls the observer of a view; tells why it failed, if it did. -/
def redraw (s : State) (view : String) : State × Option Failure :=
  match s.views.lookup view with
  | none => (s, none)
  | some v =>
    if v.observer = .absent then (s, none)
    else (s.note (.redrawn view (s.seen v)), v.observer.fault? v.table.rows)

/-- Changes a view and calls its observer. -/
def change (s : State) (view : String) (f : View → View) : State × Option Failure :=
  (s.updateView view f).redraw view

/-- Changes the form of a view and calls its observer. -/
def changeForm (s : State) (view : String) (f : Form → Form) : State × Option Failure :=
  s.change view fun v => { v with form := f v.form }

/-- Keeps a failed revalidation on a view. -/
def report (s : State) (view : String) (error : StoreError) : State × Option Failure :=
  s.change view fun v => { v with lastError := some error }

/-- Mounts a view, if there is one of this name: it follows the cache from now on and shows its
snapshot. -/
def mount (s : State) (view : String) : State :=
  match s.views.lookup view with
  | some _ =>
    { s with cache := s.cache.subscribe (.view view) }.updateView view fun v =>
      { v with mounted := true, table := v.table.setSnapshot s.cache.snapshot }
  | none => s

/-- Unmounts a view that is mounted. -/
def unmount (s : State) (view : String) : State :=
  match s.views.lookup view with
  | some v =>
    if v.mounted then
      { s with cache := s.cache.unsubscribe (.view view) }.updateView view fun v =>
        { v with mounted := false }
    else s
  | none => s

/-- Whether a view is mounted. -/
def isMounted (s : State) (view : String) : Bool :=
  match s.views.lookup view with
  | some v => v.mounted
  | none => false

/-- Starts a task under a name that is not in use; tells whether it did. -/
def spawn (s : State) (task : String) (c : Call) : State × Bool :=
  match s.tasks.lookup task with
  | some _ => (s, false)
  | none => (s.setTask task (.ready (.begin c)), true)

/-- Makes sure that there is a callback of this name. It keeps the actions that came with its
first mention. -/
def mention (s : State) (callback : String) (actions : List Action) : State :=
  { s with callbacks := s.callbacks.putNew callback actions }

/-- Lets a callback follow the cache. -/
def subscribe (s : State) (callback : String) (actions : List Action) : State :=
  let s := s.mention callback actions
  { s with cache := s.cache.subscribe (.callback callback) }

/-- Lets a callback no longer follow the cache. -/
def unsubscribe (s : State) (callback : String) (actions : List Action) : State :=
  let s := s.mention callback actions
  { s with cache := s.cache.unsubscribe (.callback callback) }

/-- Runs the actions of a callback up to the first that fails. The tasks that were started have
a turn coming, in this order. -/
def act (s : State) : List Action → State × List String
  | [] => (s, [])
  | .fail :: _ => (s, [])
  | .subscribe x :: rest => (s.subscribe x []).act rest
  | .unsubscribe x :: rest => (s.unsubscribe x []).act rest
  | .revalidate task fresh :: rest =>
    let (s, started) := s.spawn task (.revalidate fresh)
    let (s, tasks) := s.act rest
    (s, if started then task :: tasks else tasks)

/-- Tells one follower of the snapshot. Its failure goes no further. -/
def tell (s : State) : Subscriber → State × List String
  | .view view =>
    let shown (v : View) : View :=
      { v with lastError := none, table := v.table.setSnapshot s.cache.snapshot }
    ((s.change view shown).1, [])
  | .callback name =>
    (s.note (.notified name s.cache.snapshot)).act ((s.callbacks.lookup name).getD [])

/-- Tells these followers of the snapshot, one after the other. -/
def tellAll (s : State) : List Subscriber → State × List String
  | [] => (s, [])
  | x :: rest =>
    let (s, first) := s.tell x
    let (s, others) := s.tellAll rest
    (s, first ++ others)

/-- Replaces the snapshot as a whole and tells those who follow the cache at this moment. -/
def replaceSnapshot (s : State) (logins : List Login) : State × List String :=
  { s with cache := { s.cache with snapshot := logins } }.tellAll s.cache.subscribers

end LoginVault.State
