import LoginVault.Proofs.Session.Notices
import Mathlib.Data.List.Induction

/-!
# Session.Redraws — what observers know

What an observer can know of its view is what it saw when it was called last. Whatever changes
the rows, the filter, the order, the form or the failure of a view calls the observer afterwards,
in the same input (`State.Redrawn`), with one exception: a view that is mounted shows the snapshot
of the cache at once, and calls nobody (`Session.MountsUnseen`).

Main results: `reached_redraws`, and `mounted_unseen` for a view that is mounted over a snapshot.
-/

namespace LoginVault

open State

/-- What there is to see of a view. -/
structure Face where
  rows : List Login
  filter : String
  order : Option SortOrder
  form : Form
  lastError : Option StoreError
  deriving DecidableEq, Repr

/-- The face of a view now. -/
def View.face (v : View) : Face := ⟨v.table.rows, v.table.filter, v.table.order, v.form, v.lastError⟩

/-- The face of a view that its observer saw. -/
def Seen.face (seen : Seen) : Face := ⟨seen.rows, seen.filter, seen.order, seen.form, seen.lastError⟩

/-- The face of a view of which nothing was seen yet. -/
def Face.blank : Face := ⟨[], "", none, .closed, none⟩

/-- What the observer of this view saw, if the entry is a call of it. -/
def Entry.seenBy? (view : String) : Entry → Option Seen
  | .redrawn name seen => if name = view then some seen else none
  | _ => none

namespace State

/-- All that the observer of a view saw, in order. -/
def seenBy (s : State) (view : String) : List Seen := s.called.filterMap (Entry.seenBy? view)

/-- The face that the observer of a view saw last. -/
def latest (s : State) (view : String) : Face :=
  ((s.seenBy view).getLast?.map Seen.face).getD .blank

/-- Between these states the observer of the view was called after all changes of its face, and
nobody was called for a view that does not exist. -/
structure Redrawn (s s' : State) (view : String) : Prop where
  absent : s.views.lookup view = none →
    s'.views.lookup view = none ∧ s'.seenBy view = s.seenBy view
  present : ∀ v, s.views.lookup view = some v → ∃ v' new, s'.views.lookup view = some v'
    ∧ v'.observer = v.observer ∧ s'.seenBy view = s.seenBy view ++ new
    ∧ (v.observer ≠ .absent → v'.face = (new.getLast?.map Seen.face).getD v.face)

section Redrawn

variable {s t u : State} {view : String}

/-- A view that keeps its face need not be redrawn. -/
theorem Redrawn.of_kept {f : View → View} (seen : t.seenBy view = s.seenBy view)
    (views : t.views.lookup view = (s.views.lookup view).map f)
    (kept : ∀ v, s.views.lookup view = some v → (f v).face = v.face ∧ (f v).observer = v.observer) :
    Redrawn s t view := by
  constructor
  · intro hnone
    exact ⟨by rw [views, hnone]; rfl, seen⟩
  · intro v hv
    obtain ⟨hface, hobserver⟩ := kept v hv
    exact ⟨f v, [], by rw [views, hv]; rfl, hobserver, by simp [seen], fun _ => hface⟩

theorem Redrawn.of_same (seen : t.seenBy view = s.seenBy view)
    (views : t.views.lookup view = s.views.lookup view) : Redrawn s t view :=
  .of_kept (f := id) seen (by simp [views]) fun _ _ => ⟨rfl, rfl⟩

theorem seenBy_congr (called : t.called = s.called) (view : String) :
    t.seenBy view = s.seenBy view := by
  rw [seenBy, seenBy, called]

theorem SameSight.redrawn (same : SameSight s t) (view : String) : Redrawn s t view :=
  .of_same (seenBy_congr same.called view) (by rw [same.views])

theorem Redrawn.refl (s : State) (view : String) : Redrawn s s view :=
  (SameSight.refl s).redrawn view

/-- What was seen last of two changes is what was seen of the second, if anything was. -/
theorem Redrawn.trans (h : Redrawn s t view) (k : Redrawn t u view) : Redrawn s u view := by
  constructor
  · intro hnone
    obtain ⟨hnone', hseen⟩ := h.absent hnone
    obtain ⟨hnone'', hseen'⟩ := k.absent hnone'
    exact ⟨hnone'', hseen'.trans hseen⟩
  · intro v hv
    obtain ⟨v', first, hv', ho', hfirst, hface⟩ := h.present v hv
    obtain ⟨v'', rest, hv'', ho'', hrest, hface'⟩ := k.present v' hv'
    refine ⟨v'', first ++ rest, hv'', ho''.trans ho', ?_, fun observed => ?_⟩
    · rw [hrest, hfirst, List.append_assoc]
    · rw [hface' (ho' ▸ observed), hface observed, List.getLast?_append]
      cases rest.getLast? with
      | none => simp
      | some seen => simp

theorem change_seenBy (s : State) (w : String) (f : View → View) (view : String) :
    (s.change w f).1.seenBy view
      = s.seenBy view ++ if w = view then ((s.updateView w f).redrawing? w).toList else [] := by
  simp only [seenBy, change_called, List.filterMap_append]
  cases (s.updateView w f).redrawing? w with
  | none => simp
  | some seen => by_cases hw : w = view <;> simp [Entry.seenBy?, hw]

/-- A change of a view is redrawn. -/
theorem Redrawn.of_change {w : String} {f : View → View} (changed : t = (s.change w f).1)
    (kept : ∀ v, (f v).observer = v.observer) : Redrawn s t view := by
  subst changed
  have hseen := s.change_seenBy w f view
  have hviews := s.lookup_change w f view
  by_cases hw : w = view
  · subst hw
    have hupdated : (s.updateView w f).views.lookup w = (s.views.lookup w).map f := by
      simp [updateView, Named.lookup_update]
    rw [if_pos rfl] at hseen hviews
    constructor
    · intro hnone
      refine ⟨by rw [hviews, hnone]; rfl, ?_⟩
      simpa [redrawing?, hupdated, hnone] using hseen
    · intro v hv
      refine ⟨f v, _, by rw [hviews, hv]; rfl, kept v, hseen, fun observed => ?_⟩
      have hcalled : (s.updateView w f).redrawing? w = some ((s.updateView w f).seen (f v)) := by
        simp [redrawing?, hupdated, hv, kept, observed]
      rw [hcalled]
      rfl
  · rw [if_neg hw, List.append_nil] at hseen
    rw [if_neg (Ne.symm hw)] at hviews
    constructor
    · intro hnone
      exact ⟨hviews.trans hnone, hseen⟩
    · intro v hv
      exact ⟨v, [], hviews.trans hv, rfl, by simp [hseen], fun _ => rfl⟩

theorem unmount_redrawn (s : State) (w view : String) : Redrawn s (s.unmount w) view := by
  unfold unmount
  split
  · split
    · by_cases hw : view = w
      · refine .of_kept (f := fun v => { v with mounted := false }) rfl ?_ fun _ _ => ⟨rfl, rfl⟩
        simp [updateView, Named.lookup_update, hw]
      · exact .of_same rfl (by simp [updateView, Named.lookup_update, hw])
    · exact .refl s view
  · exact .refl s view

/-- A follower that is told of a snapshot is redrawn, if it is a view. -/
theorem tell_redrawn (s : State) (x : Subscriber) (view : String) : Redrawn s (s.tell x).1 view := by
  cases x with
  | view name => exact .of_change rfl fun _ => rfl
  | callback name =>
    refine .of_same ?_ ?_
    · simp [seenBy, tell_called, notice, Entry.seenBy?]
    · rw [tell_lookup, if_neg (by simp)]

theorem tellAll_redrawn (s : State) (xs : List Subscriber) (view : String) :
    Redrawn s (s.tellAll xs).1 view := by
  induction xs generalizing s with
  | nil => exact .refl s view
  | cons x rest ih => exact (s.tell_redrawn x view).trans (ih (s.tell x).1)

end Redrawn

/-! ## Mounting -/

/-- The view has got other rows between these states, and its observer was not called. -/
structure Unseen (s s' : State) (view : String) (v v' : View) : Prop where
  before : s.views.lookup view = some v
  now : s'.views.lookup view = some v'
  observer : v'.observer = v.observer
  seen : s'.seenBy view = s.seenBy view
  face : v'.face = { v.face with rows := v'.table.rows }
  rows : v'.table.rows ≠ v.table.rows

/-- A view that is mounted shows the snapshot, and its observer is not called. -/
theorem mount_redrawn (s : State) (w view : String) :
    Redrawn s (s.mount w) view
      ∨ w = view ∧ ∃ v v', project v.table.filter v.table.order s.cache.snapshot ≠ v.table.rows
        ∧ Unseen s (s.mount w) view v v' := by
  have hseen := seenBy_congr (s.mount_called w) view
  cases hv : s.views.lookup w with
  | none =>
    have hmount : s.mount w = s := by simp [mount, hv]
    rw [hmount]
    exact Or.inl (.refl s view)
  | some v =>
    have hviews : (s.mount w).views.lookup view = if view = w
        then (s.views.lookup view).map
          fun v => { v with mounted := true, table := v.table.setSnapshot s.cache.snapshot }
        else s.views.lookup view := by
      simp [mount, hv, updateView, Named.lookup_update]
    by_cases hw : view = w
    · subst hw
      rw [if_pos rfl] at hviews
      by_cases hrows : project v.table.filter v.table.order s.cache.snapshot = v.table.rows
      · -- the view showed these rows before
        refine Or.inl (.of_kept hseen hviews fun v' hv' => ?_)
        obtain rfl : v = v' := by simpa [hv] using hv'
        exact ⟨by simp [View.face, Table.setSnapshot, Table.derive, hrows], rfl⟩
      · rw [hv] at hviews
        exact Or.inr ⟨rfl, v, _, hrows, hv, hviews, rfl, hseen, rfl, hrows⟩
    · rw [if_neg hw] at hviews
      exact Or.inl (.of_same hseen hviews)

theorem Unseen.followed {s t u : State} {view : String} {v v' : View} (h : Unseen s t view v v')
    (same : SameSight t u) : Unseen s u view v v' where
  before := h.before
  now := by rw [same.views, h.now]
  observer := h.observer
  seen := (seenBy_congr same.called view).trans h.seen
  face := h.face
  rows := h.rows

/-- Whatever a task does to a view in its turn is redrawn, unless it mounts the view. -/
theorem ViewTurn.redrawn {s s' : State} {r : Resumption} (work : ViewTurn s r s') (view : String) :
    Redrawn s s' view
      ∨ r.Mounts view ∧ s.isMounted view = false
        ∧ ∃ v v', project v.table.filter v.table.order s.cache.snapshot ≠ v.table.rows
          ∧ Unseen s s' view v v' := by
  cases work with
  | apart => exact Or.inl (.refl s view)
  | unmounted _ => exact Or.inl (s.unmount_redrawn _ view)
  | formed _ => exact Or.inl (.of_change rfl fun _ => rfl)
  | reported => exact Or.inl (.of_change rfl fun _ => rfl)
  | @left w e _ =>
    have hreport : Redrawn s (s.report w e).1 view := .of_change rfl fun _ => rfl
    exact Or.inl (hreport.trans (unmount_redrawn _ w view))
  | @mounted w wanted hidden =>
    rcases s.mount_redrawn w view with h | ⟨rfl, unseen⟩
    · exact Or.inl h
    · exact Or.inr ⟨wanted, hidden, unseen⟩

/-- Whatever an event does to a view is redrawn, unless it makes the view. -/
theorem EventSight.redrawn {s s' : State} (sight : EventSight s s') (view : String) :
    Redrawn s s' view
      ∨ s.views.lookup view = none ∧ s'.seenBy view = s.seenBy view
        ∧ ∃ observer, s'.views.lookup view = some (.fresh observer) := by
  cases sight with
  | aside same => exact Or.inl (same.redrawn view)
  | subscribed => exact Or.inl (.of_same rfl rfl)
  | unsubscribed => exact Or.inl (.of_same rfl rfl)
  | unmounted => exact Or.inl (s.unmount_redrawn _ view)
  | edited w edit => exact Or.inl (.of_change rfl fun _ => rfl)
  | formed _ => exact Or.inl (.of_change rfl fun _ => rfl)
  | @made w observer =>
    have hviews := Named.lookup_putNew w view (.fresh observer) s.views
    by_cases hw : view = w
    · subst hw
      rw [if_pos rfl] at hviews
      cases hv : s.views.lookup view with
      | none => exact Or.inr ⟨rfl, rfl, observer, by rw [hviews, hv]; rfl⟩
      | some v => exact Or.inl (.of_same rfl (by rw [hviews, hv]; rfl))
    · exact Or.inl (.of_same rfl (hviews.trans (if_neg hw)))

end State

namespace Session

/-- With this input a view is mounted that shows other rows than those of the snapshot. -/
structure MountsUnseen (s : Session) (i : Input) (view : String) : Prop where
  turn : i = .turn
  task : ∃ T r, s.queue.head? = some (.task T) ∧ s.state.tasks.lookup T = some (.ready r)
    ∧ r.Mounts view
  hidden : s.state.isMounted view = false
  rows : ∃ v, s.state.views.lookup view = some v
    ∧ project v.table.filter v.table.order s.state.cache.snapshot ≠ v.table.rows

/-- All that an input can do to the face of a view. -/
inductive FaceMove (s : Session) (i : Input) (view : String) : Prop
  | redrawn (h : Redrawn s.state (s.advance i).state view)
  | made {observer : Observer} (new : s.state.views.lookup view = none)
      (now : (s.advance i).state.views.lookup view = some (.fresh observer))
      (seen : (s.advance i).state.seenBy view = s.state.seenBy view)
  | mounted {v v' : View} (mounts : s.MountsUnseen i view)
      (unseen : Unseen s.state (s.advance i).state view v v')

theorem advance_faceMove (s : Session) (i : Input) (view : String) : FaceMove s i view := by
  cases i with
  | event e =>
    rcases (s.state.apply_sight e).redrawn view with h | ⟨new, seen, observer, now⟩
    · exact .redrawn h
    · exact .made new now seen
  | turn =>
    rcases s with ⟨s, q⟩
    cases q with
    | nil => exact .redrawn (.refl s view)
    | cons t rest =>
      cases s.take_sight t with
      | aside same _ _ => exact .redrawn (same.redrawn view)
      | @told f rows turn _ after =>
        refine .redrawn ?_
        have htold : Redrawn (s.withSnapshot rows) (s.replaceSnapshot rows).1 view :=
          tellAll_redrawn _ s.cache.subscribers view
        rw [advance_turn_cons, after]
        exact ⟨htold.absent, htold.present⟩
      | @resumed T r mid turn ready work after =>
        subst turn
        rcases work.redrawn view with h | ⟨mounts, hidden, v, v', hrows, unseen⟩
        · exact .redrawn (h.trans (after.redrawn view))
        · exact .mounted ⟨rfl, ⟨T, r, rfl, ready, mounts⟩, hidden, v, unseen.before, hrows⟩
            (unseen.followed after)

/-! ## What was seen last -/

/-- In the course of these inputs the view was mounted and came to show other rows, and its
observer was not called since. -/
def MountedUnseen (client : Client) (inputs : List Input) (view : String) : Prop :=
  ∃ before i after, inputs = before ++ i :: after ∧ (reached client before).MountsUnseen i view
    ∧ (reached client inputs).state.seenBy view = (reached client before).state.seenBy view

theorem MountedUnseen.concat {client : Client} {inputs : List Input} {view : String}
    (h : MountedUnseen client inputs view) (i : Input)
    (seen : (reached client (inputs ++ [i])).state.seenBy view
      = (reached client inputs).state.seenBy view) : MountedUnseen client (inputs ++ [i]) view := by
  obtain ⟨before, j, after, rfl, mounts, hseen⟩ := h
  exact ⟨before, j, after ++ [i], by simp, mounts, seen.trans hseen⟩

/-- The observer of a view knows its face, but for the rows that the view may have got when it was
mounted. -/
structure Knows (client : Client) (inputs : List Input) (view : String) (v : View) : Prop where
  face : v.face = { (reached client inputs).state.latest view with rows := v.table.rows }
  rows : v.table.rows = ((reached client inputs).state.latest view).rows
    ∨ MountedUnseen client inputs view

section Knows

variable {client : Client} {inputs : List Input} {view : String}

theorem Knows.of_latest {v : View} (h : v.face = (reached client inputs).state.latest view) :
    Knows client inputs view v := by
  have hrows : v.table.rows = ((reached client inputs).state.latest view).rows :=
    congrArg Face.rows h
  exact ⟨by rw [hrows, h], Or.inl hrows⟩

/-- What is known of a view, or of one that is still to be made. -/
structure Known (client : Client) (inputs : List Input) (view : String) : Prop where
  absent : (reached client inputs).state.views.lookup view = none →
    (reached client inputs).state.seenBy view = []
  present : ∀ v, (reached client inputs).state.views.lookup view = some v →
    v.observer ≠ .absent → Knows client inputs view v

theorem latest_kept {i : Input} (seen : (reached client (inputs ++ [i])).state.seenBy view
    = (reached client inputs).state.seenBy view) :
    (reached client (inputs ++ [i])).state.latest view = (reached client inputs).state.latest view := by
  simp only [latest, seen]

/-- A view whose changes were redrawn is known as well as before. -/
theorem Knows.redrawn {v v' : View} {i : Input} {new : List Seen} (knows : Knows client inputs view v)
    (seen : (reached client (inputs ++ [i])).state.seenBy view
      = (reached client inputs).state.seenBy view ++ new)
    (face : v'.face = (new.getLast?.map Seen.face).getD v.face) :
    Knows client (inputs ++ [i]) view v' := by
  cases hlast : new.getLast? with
  | some last =>
    -- the call that was made last saw the view as it is now
    refine .of_latest ?_
    rw [face, latest, seen, List.getLast?_append, hlast]
    rfl
  | none =>
    obtain rfl : new = [] := List.getLast?_eq_none_iff.mp hlast
    rw [List.append_nil] at seen
    have hsame : v'.face = v.face := face
    have hrows : v'.table.rows = v.table.rows := congrArg Face.rows hsame
    constructor
    · rw [hsame, hrows, latest_kept seen]
      exact knows.face
    · rw [hrows, latest_kept seen]
      exact knows.rows.imp_right fun mounted => mounted.concat i seen

theorem Known.step (known : Known client inputs view) (i : Input) :
    Known client (inputs ++ [i]) view := by
  cases advance_faceMove (reached client inputs) i view with
  | redrawn h =>
    rw [← reached_concat] at h
    cases hv : (reached client inputs).state.views.lookup view with
    | none =>
      obtain ⟨hnone, hseen⟩ := h.absent hv
      exact ⟨fun _ => hseen.trans (known.absent hv), fun v' hv' => nomatch hnone.symm.trans hv'⟩
    | some v =>
      obtain ⟨v', new, hnow, hobserver, hseen, hface⟩ := h.present v hv
      refine ⟨fun hnone => (nomatch hnone.symm.trans hnow), fun w hw observed => ?_⟩
      obtain rfl : v' = w := by simpa [hnow] using hw
      have observed' := hobserver ▸ observed
      exact (known.present v hv observed').redrawn hseen (hface observed')
  | made new now seen =>
    rw [← reached_concat] at now seen
    refine ⟨fun hnone => (nomatch hnone.symm.trans now), fun v hv _ => .of_latest ?_⟩
    obtain rfl : View.fresh _ = v := by simpa [now] using hv
    rw [latest_kept seen, latest, known.absent new]
    rfl
  | @mounted v v' mounts unseen =>
    rw [← reached_concat] at unseen
    refine ⟨fun hnone => (nomatch hnone.symm.trans unseen.now), fun w hw observed => ?_⟩
    obtain rfl : v' = w := by simpa [unseen.now] using hw
    have knows := known.present v unseen.before (unseen.observer ▸ observed)
    refine ⟨?_, Or.inr ⟨inputs, i, [], rfl, mounts, unseen.seen⟩⟩
    rw [unseen.face, latest_kept unseen.seen, knows.face]

theorem reached_known (client : Client) (inputs : List Input) (view : String) :
    Known client inputs view := by
  induction inputs using List.reverseRecOn with
  | nil => exact ⟨fun _ => rfl, fun v hv => nomatch hv⟩
  | append_singleton inputs i ih => exact ih.step i

end Knows

/-- What the observers of a session know of their views. -/
structure Redraws (client : Client) (inputs : List Input) : Prop where
  /-- What an observer saw last is how its view is now, but for the rows of a view that was mounted
  since. -/
  known : ∀ view v, (reached client inputs).state.views.lookup view = some v →
    v.observer ≠ .absent → Knows client inputs view v
  /-- Whatever else changes a view, its observer is called afterwards in the same input. -/
  called : ∀ i view v v', (reached client inputs).state.views.lookup view = some v →
    ((reached client inputs).advance i).state.views.lookup view = some v' →
    v.observer ≠ .absent → v'.face ≠ v.face → ¬ (reached client inputs).MountsUnseen i view →
    ∃ others seen, ((reached client inputs).advance i).state.seenBy view
      = (reached client inputs).state.seenBy view ++ others ++ [seen] ∧ seen.face = v'.face

/-- In every reachable session the observers know their views, but for what a view shows that was
mounted over a snapshot. -/
theorem reached_redraws (client : Client) (inputs : List Input) : Redraws client inputs where
  known view := (reached_known client inputs view).present
  called := by
    intro i view v v' hv hv' observed changed unmounted
    cases advance_faceMove (reached client inputs) i view with
    | made new _ _ =>
      rw [hv] at new
      cases new
    | mounted mounts _ => exact absurd mounts unmounted
    | redrawn h =>
      obtain ⟨w, new, hnow, -, hseen, hface⟩ := h.present v hv
      obtain rfl : w = v' := by simpa [hnow] using hv'
      have hface := hface observed
      cases hlast : new.getLast? with
      | none =>
        rw [hlast] at hface
        exact absurd hface changed
      | some seen =>
        obtain ⟨others, rfl⟩ := List.getLast?_eq_some_iff.mp hlast
        rw [hlast] at hface
        exact ⟨others, seen, by rw [hseen, List.append_assoc], hface.symm⟩

/-- A view that is mounted over a snapshot, while the next fetch waits for its answer: it shows the
login of the snapshot, and its observer was never called. -/
theorem mounted_unseen :
    let client : Client := ⟨⟨"http://localhost:3625", .whole 30, 100, by decide⟩, ""⟩
    let row := "\x7b\"ID\":1,\"URL\":\"u\",\"Username\":\"n\",\"Password\":\"p\"\x7d"
    let page : Answer := .response
      ⟨200, ("\x7b\"Data\":[" ++ row ++ "],\"FilteredData\":1\x7d").toUTF8.data.toList⟩
    let inputs : List Input := [.event (.spawn "t" (.revalidate false)), .turn, .turn,
      .event (.respond 0 page)] ++ List.replicate 4 .turn
      ++ [.event (.newView "v" .records), .event (.spawn "m" (.mount "v")), .turn, .turn]
    let s := reached client inputs
    s.queue = [] ∧ (s.state.views.lookup "v").map (·.observer) = some .records
      ∧ (s.state.views.lookup "v").map (·.face.rows) = some [⟨.number 1, "u", "n", "p"⟩]
      ∧ s.state.seenBy "v" = [] ∧ (s.state.latest "v").rows = [] := by
  refine ⟨?_, ?_, ?_, ?_, ?_⟩
  · decide +kernel
  · decide +kernel
  · decide +kernel
  · decide +kernel
  · decide +kernel

end Session

end LoginVault
