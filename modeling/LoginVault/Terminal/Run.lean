import LoginVault.Terminal.Basic

/-!
# Terminal.Run — keys, texts and answers

The terminal turns what its user does into events of the session, and follows the journal of the
session turn by turn: a redraw fills the grid and the status bar, the end of a task that loads is
reported if it failed, and the end of a save closes its dialog or tells why it failed.
-/

namespace LoginVault.Terminal

/-! ## Following the journal -/

/-- Fills the grid. -/
def fill (t : Terminal) (rows : List Login) : Terminal :=
  { t with grid := fillGrid t.reveal [] rows }

/-- Fills the grid and, if it takes all rows, the status bar. -/
def redraw (t : Terminal) (seen : Seen) : Terminal :=
  match Observer.grid.fault? seen.rows with
  | none => { t.fill seen.rows with bar := .ofSeen seen }
  | some _ => t.fill seen.rows

/-- The end of the task that loads. -/
def loadEnded (t : Terminal) (loader : Loader) (o : Outcome) : Terminal :=
  match loader, o with
  | .start, .returned _ =>
    match t.view.lastError with
    | some e => t.notify ⟨.error, none, s!"Failed to load logins: {e.message}"⟩
    | none => t
  | .refresh, .raised (.store e) =>
    let t := t.notify ⟨.error, some 10, s!"Refresh failed: {e.message}"⟩
    let t := t.redraw (t.session.seen t.view)
    match Observer.grid.fault? t.view.table.rows with
    | some f => t.crashed (.task f)
    | none => t
  | _, .raised f => t.crashed (.task f)
  | _, _ => t

/-- Changes the dialog whose login a task saves; the task is over. -/
def releaseDialog (task : String) (f : Dialog → Dialog) (dialogs : List Dialog) : List Dialog :=
  dialogs.map fun d =>
    if d.save = some task then f { d with saveDisabled := false, save := none } else d

/-- The end of a save. A dialog that is not the topmost stays when its login was saved. -/
def saveEnded (t : Terminal) (task : String) (o : Outcome) : Terminal :=
  let released := { t with dialogs := releaseDialog task id t.dialogs }
  match o with
  | .returned (.login l) =>
    -- only the topmost dialog can close itself
    if (t.dialogs.head?.bind (·.save)) = some task then
      { t with dialogs := t.dialogs.tail }.notify
        ⟨.information, some 3, s!"Saved login for {l.url}"⟩
    else released
  | .returned _ =>
    { t with
      dialogs := releaseDialog task ({ · with status := Dialog.refusal t.view.form }) t.dialogs }
  | .raised f => released.crashed (.task f)
  | .cancelled => released

/-- The end of a task. The terminal no longer follows tasks that it gave up. -/
def taskEnded (t : Terminal) (task : String) (o : Outcome) : Terminal :=
  match t.loader with
  | some (loader, name) =>
    if name = task then { t with loader := none }.loadEnded loader o
    else if t.dialogs.any (·.save = some task) then t.saveEnded task o else t
  | none => if t.dialogs.any (·.save = some task) then t.saveEnded task o else t

/-- Follows an entry of the journal. -/
def follow (t : Terminal) : Entry → Terminal
  | .redrawn _ seen => t.redraw seen
  | .finished task o => t.taskEnded task o
  | _ => t

/-- Follows the session to a later state. -/
def absorb (t : Terminal) (s : State) : Terminal :=
  (s.journal.drop t.session.journal.length).foldl follow { t with session := s }

/-- Applies events up to the first that fails; the turns to come. -/
def applyAll (t : Terminal) : List Event → Terminal × List Turn
  | [] => (t, [])
  | e :: rest =>
    let r := t.session.apply e
    match r.failure with
    | some f => ((t.absorb r.state).crashed (.handler f), r.turns)
    | none =>
      let (t, turns) := (t.absorb r.state).applyAll rest
      (t, r.turns ++ turns)

/-- Applies events and takes turns until none is left. -/
def perform (t : Terminal) (events : List Event) : Terminal :=
  let (t, turns) := t.applyAll events
  (Session.settleWith (fun t _ s => t.absorb s) t t.session turns).1

/-! ## What the user does -/

/-- What reaches the terminal: an answer of the store, a text for the search box or the fields
of the dialog, and commands. -/
inductive Input where
  | answer (index : Nat) (a : Answer)
  | search (text : String)
  | refresh
  | newLogin
  | cycleOrder
  | togglePasswords
  | fill (url username password : Option String)
  | enter
  | save
  | dismiss

/-- The command of a key. -/
def Input.ofKey? : String → Option Input
  | "ctrl+r" => some .refresh
  | "ctrl+n" => some .newLogin
  | "ctrl+s" => some .cycleOrder
  | "ctrl+p" => some .togglePasswords
  | "escape" => some .dismiss
  | _ => none

/-- The order that comes next: none, descending, ascending, and none again. -/
def nextOrder : Option SortOrder → Option SortOrder
  | none => some .descend
  | some .descend => some .ascend
  | some .ascend => none

/-- Loads the logins in a new task, which takes the place of the one that loads now. -/
def load (t : Terminal) (loader : Loader) (c : Call) : Terminal :=
  let task := t.nextTask
  let earlier := t.loader.toList.map fun p => Event.cancel p.2
  { t with loader := some (loader, task), started := t.started + 1 }.perform
    (earlier ++ [Event.spawn task c])

/-- Begins a refresh; the status bar says so at once. -/
def refresh (t : Terminal) : Terminal :=
  let bar := StatusBar.mk true t.view.table.rows.length t.session.cache.snapshot.length ""
  { t with bar := bar }.load .refresh (.refresh viewName)

/-- Submits the topmost dialog. A save that it has under way is given up. -/
def submit (t : Terminal) : Terminal :=
  match t.dialogs with
  | [] => t
  | d :: rest =>
    if d.record.problem?.isSome then
      let status := Dialog.errorLine "URL and username are required."
      { t with dialogs := { d with status := status } :: rest }
    else
      -- Enter submits even while the button is disabled
      let task := t.nextTask
      let earlier := d.save.toList.map Event.cancel
      let saving :=
        { d with status := Dialog.savingLine, saveDisabled := true, save := some task }
      { t with dialogs := saving :: rest, started := t.started + 1 }.perform
        (earlier ++ [Event.spawn task (.submit viewName (.ok d.record))])

/-- Closes the topmost dialog and gives up its save. -/
def dismiss (t : Terminal) : Terminal :=
  match t.dialogs with
  | [] => t
  | d :: rest =>
    let t := t.perform [.closeForm viewName]
    { t with dialogs := rest }.perform (d.save.toList.map Event.cancel)

/-- Shows or hides the passwords in the grid. -/
def togglePasswords (t : Terminal) : Terminal :=
  let rows := t.view.table.rows
  let t := { t with reveal := !t.reveal }.fill rows
  match Observer.grid.fault? rows with
  | some f => t.crashed (.handler f)
  | none => t

/-- What an input does. -/
def handle (t : Terminal) : Input → Terminal
  | .answer index a => t.perform [.respond index a]
  | .search text =>
    if text = t.search then t
    else { t with search := text }.perform [.setFilter viewName text]
  | .refresh => t.refresh
  | .newLogin =>
    let t := t.perform [.openForm viewName]
    { t with dialogs := .empty :: t.dialogs }
  | .cycleOrder =>
    t.perform [.setOrder viewName ((nextOrder t.view.table.order).map (·.name))]
  | .togglePasswords => t.togglePasswords
  | .fill url username password =>
    match t.dialogs with
    | [] => t
    | d :: rest => { t with dialogs := d.fill url username password :: rest }
  | .enter => t.submit
  | .save => if (t.dialogs.head?.map (·.saveDisabled)) = some true then t else t.submit
  | .dismiss => t.dismiss

/-- The terminal as it starts: its view is mounted, and the first page is asked for. -/
def start (client : Client) : Terminal :=
  let t : Terminal := ⟨.start client, false, "", [], .idle, [], none, 0, [], none⟩
  (t.perform [.newView viewName .grid]).load .start (.mount viewName)

/-- The session after the terminal has closed. -/
def close (t : Terminal) : State :=
  t.session.unmount viewName

end LoginVault.Terminal
