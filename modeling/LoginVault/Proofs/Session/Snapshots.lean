import LoginVault.Proofs.Session.Provenance
import LoginVault.Proofs.Session.Views
import LoginVault.Proofs.Table.Sorting

/-!
# Session.Snapshots — what the rows of a view are derived from

A fetch keeps the first of several logins with one identifier, so what it has read when it ends
holds no identifier twice; and if it fails, it does not fail as a grid does that is given a row
twice (`Session.Proper`). The snapshot is what some fetch has read, or empty (`reached_fetched`).
The rows of a mounted view are some of its logins, in another order, so no two rows have one
identifier either.
-/

namespace LoginVault

/-! ## Projections -/

theorem mem_of_mem_project {filter : String} {order : Option SortOrder} {snapshot : List Login}
    {l : Login} (mem : l ∈ project filter order snapshot) : l ∈ snapshot :=
  (List.mem_filter.mp ((SortOrder.sort_perm order _).mem_iff.mp mem)).1

/-- A projection repeats nothing that the snapshot does not repeat. -/
theorem nodup_project {α : Type} {f : Login → α} {snapshot : List Login}
    (nodup : (snapshot.map f).Nodup) (filter : String) (order : Option SortOrder) :
    ((project filter order snapshot).map f).Nodup := by
  have hperm := (SortOrder.sort_perm order (snapshot.filter (·.matchesFragment filter))).map f
  rw [project, hperm.nodup_iff]
  exact nodup.sublist (List.filter_sublist.map f)

/-! ## Pages -/

namespace Paging

/-- Whether no two logins read so far have one identifier. -/
def Distinct (p : Paging) : Prop := (p.collected.map (·.id)).Nodup

theorem nodup_keep {known : List Login} (nodup : (known.map (·.id)).Nodup) (l : Login) :
    ((keep known l).map (·.id)).Nodup := by
  unfold keep
  split
  · exact nodup
  · rename_i new
    have hnew : l.id ∉ known.map (·.id) := by simpa using new
    rw [List.map_append, List.nodup_append]
    refine ⟨nodup, by simp, ?_⟩
    rintro a mem b last rfl
    obtain rfl : a = l.id := List.mem_singleton.mp last
    exact hnew mem

theorem Distinct.add {p : Paging} (distinct : p.Distinct) (page : LoginPage) :
    (p.add page).Distinct := by
  have hrows (rows known : List Login) (nodup : (known.map (·.id)).Nodup) :
      ((rows.foldl keep known).map (·.id)).Nodup := by
    induction rows generalizing known with
    | nil => exact nodup
    | cons l rest ih => exact ih (keep known l) (nodup_keep nodup l)
  exact hrows page.logins p.collected distinct

/-- Whatever an answer adds, no two logins have one identifier. -/
def Progress.Distinct : Progress → Prop
  | .more p => p.Distinct
  | .complete logins => (logins.map (·.id)).Nodup

theorem Distinct.advance {p : Paging} (distinct : p.Distinct) {pageSize : Nat} {a : Answer}
    {progress : Progress} (made : p.advance pageSize a = .ok progress) : progress.Distinct := by
  unfold Paging.advance at made
  cases h : a.result (p.query pageSize) Response.page with
  | error f => simp [h, Except.map] at made
  | ok page =>
    obtain rfl : p.turn pageSize page = progress := by simpa [h, Except.map] using made
    unfold turn
    simp only
    split <;> exact distinct.add page

end Paging

/-! ## Fetches -/

/-- Whether a grid fails in this way that is given a row twice. -/
def Failure.IsRepeat : Failure → Prop
  | .duplicateRow _ => True
  | _ => False

/-- No answer fails as a grid does. -/
theorem Answer.result_not_repeat {α : Type} {read : Response → Except ProtocolFault α} {a : Answer}
    {q : Query} {f : Failure} (failed : a.result q read = .error f) : ¬ f.IsRepeat := by
  cases a with
  | response r =>
    have hread : (read r).mapError (fun f => .store (.protocol f)) = .error f := failed
    cases hresult : read r with
    | ok x =>
      rw [hresult] at hread
      cases hread
    | error fault =>
      rw [hresult] at hread
      cases hread
      exact id
  | fault cause =>
    cases cause with
    | timedOut _ _ | network _ _ | foreign _ _ =>
      simp only [Answer.result, Except.error.injEq] at failed
      subst failed
      exact id

theorem Paging.advance_not_repeat {p : Paging} {pageSize : Nat} {a : Answer} {f : Failure}
    (failed : p.advance pageSize a = .error f) : ¬ f.IsRepeat := by
  unfold Paging.advance at failed
  cases h : a.result (p.query pageSize) Response.page with
  | ok page => simp [h, Except.map] at failed
  | error f' =>
    obtain rfl : f' = f := by simpa [h, Except.map] using failed
    exact Answer.result_not_repeat h

/-- What a fetch has read so far holds no identifier twice, and it fails as an answer does. -/
def FetchStage.Proper : FetchStage → Prop
  | .begun => True
  | .asking p | .answered p _ => p.Distinct
  | .finished (.ok rows) => (rows.map (·.id)).Nodup
  | .finished (.error f) => ¬ f.IsRepeat

namespace Session

open State

variable {s s' : Session}

/-- Whether this holds of all fetches of the session. -/
def Proper (s : Session) : Prop :=
  ∀ f stage, s.state.cache.stage? f = some stage → stage.Proper

/-- Putting one fetch into another stage. -/
theorem Proper.setStage {c d : Cache} (proper : ∀ f stage, c.stage? f = some stage → stage.Proper)
    (fetches : d.fetches = c.fetches) {g : Nat} {before after : FetchStage}
    (stands : c.stage? g = some before) (now : after.Proper) {f : Nat} {stage : FetchStage}
    (h : (d.setStage g after).stage? f = some stage) : stage.Proper := by
  rcases @stage?_setStage_cases c d fetches g before after stands f with ⟨-, same⟩ | ⟨-, set⟩
  · exact proper f stage (same ▸ h)
  · obtain rfl : after = stage := by simpa [set] using h
    exact now

theorem Proper.step (proper : s.Proper) (move : Move s s') : s'.Proper := by
  intro f stage now
  have hkept (same : s'.state.cache.stage? f = s.state.cache.stage? f) : stage.Proper :=
    proper f stage (same ▸ now)
  cases move with
  | quiet same => exact hkept (same.stage? f)
  | spawned _ | overtaken _ | cancelled _ | answered _ _ | unheard _ _ _ | idle _ | told _
  | released _ => exact hkept rfl
  | settled => exact hkept (Cache.reads_settle _ _ f).1
  | task ready turn =>
    -- in its turn a task begins a fetch at most
    cases fetchMove_of_turn turn _ f with
    | kept same => exact hkept same
    | begun _ _ begun _ =>
      obtain rfl : .begun = stage := by simpa [begun] using now
      trivial
    | opened _ _ queue _ => simp at queue
    | turned _ _ queue _ => simp at queue
    | ended _ _ head => simp at head
    | @answered p a before answered _ =>
      obtain rfl : .answered p a = stage := by simpa [answered] using now
      exact proper f (.asking p) before
  | @pageAnswered _ _ g p a _ _ _ asking =>
    have hanswered : (FetchStage.answered p a).Proper := proper g (.asking p) asking
    exact Proper.setStage proper rfl asking hanswered now
  | opened begun =>
    have hasking : (FetchStage.asking (.start none)).Proper := List.nodup_nil
    exact Proper.setStage proper rfl begun hasking now
  | @turned _ g p next a _ read more =>
    have hp : p.Distinct := proper g (.answered p a) read
    have hasking : (FetchStage.asking next).Proper := hp.advance more
    exact Proper.setStage proper rfl read hasking now
  | @ended _ _ g p a r _ _ read last spawns =>
    have hp : p.Distinct := proper g (.answered p a) read
    have hfinished : (FetchStage.finished r).Proper := by
      cases r with
      | ok rows =>
        have hcomplete : (Paging.Progress.complete rows).Distinct := hp.advance last
        exact hcomplete
      | error e => exact Paging.advance_not_repeat last
    exact Proper.setStage proper spawns.fetches read hfinished now

/-- Whatever is answered, every fetch is proper. -/
theorem reached_proper (client : Client) (inputs : List Input) :
    (reached client inputs).Proper := by
  refine (reached_inv client []).run_keeps (P := Proper) (fun _ move h => h.step move) ?_ inputs
  exact fun f stage h => nomatch h

/-- What a fetch has read holds no identifier twice. -/
theorem Proper.distinct (proper : s.Proper) {f : Nat} {rows : List Login}
    (read : s.state.cache.outcome? f = some (.ok rows)) : (rows.map (·.id)).Nodup :=
  proper f _ (Cache.outcome?_eq_some_iff.mp read)

theorem Proper.not_repeat (proper : s.Proper) {f : Nat} {e : Failure}
    (failed : s.state.cache.outcome? f = some (.error e)) : ¬ e.IsRepeat :=
  proper f _ (Cache.outcome?_eq_some_iff.mp failed)

end Session

/-! ## Snapshots -/

namespace State

/-- Whether these logins are what a fetch has read, or none. -/
def Fetched (s : State) (rows : List Login) : Prop :=
  rows = [] ∨ ∃ f, s.cache.outcome? f = some (.ok rows)

/-- Whether these are rows of a view that shows what a fetch has read. -/
def Derives (s : State) (rows : List Login) : Prop :=
  ∃ filter order snapshot, s.Fetched snapshot ∧ rows = project filter order snapshot

theorem Fetched.kept {s s' : State} {rows : List Login} (fetched : s.Fetched rows)
    (kept : ∀ f, s.cache.outcome? f = some (.ok rows) → s'.cache.outcome? f = some (.ok rows)) :
    s'.Fetched rows :=
  fetched.imp_right fun ⟨f, read⟩ => ⟨f, kept f read⟩

end State

namespace Session

open State

variable {s s' : Session}

/-- What a fetch has read it has read for good. -/
theorem Inv.fetched_kept (inv : Inv s) (move : Move s s') {rows : List Login}
    (fetched : s.state.Fetched rows) : s'.state.Fetched rows :=
  fetched.kept fun _ read => (inv.flight.ledger move).outcome?_kept read

/-- The snapshot is what a fetch has read, or empty. -/
theorem reached_fetched (client : Client) (inputs : List Input) :
    (reached client inputs).state.Fetched (reached client inputs).state.cache.snapshot := by
  refine (reached_inv client []).run_keeps
    (P := fun s => s.state.Fetched s.state.cache.snapshot) (fun inv move fetched => ?_)
    (Or.inl rfl) inputs
  cases move.snapshot_move with
  | kept same _ => exact same ▸ inv.fetched_kept move fetched
  | @replaced f rows _ _ now _ snapshot => exact Or.inr ⟨f, snapshot ▸ now⟩

/-- The rows of a view that follows the cache are those of the snapshot. -/
theorem reached_rows (client : Client) (inputs : List Input) {view : String} {v : View}
    (found : (reached client inputs).state.views.lookup view = some v)
    (follows : .view view ∈ (reached client inputs).state.cache.subscribers) :
    v.table.rows = project v.table.filter v.table.order
      (reached client inputs).state.cache.snapshot := by
  have hfollows : 0 < (reached client inputs).state.follows view := List.count_pos_iff.mpr follows
  have hshown : (reached client inputs).state.shown? view = some (v.mounted, v.table) := by
    simp [shown?, found]
  cases reached_bound client inputs view with
  | absent _ none => omega
  | hidden _ none _ => omega
  | mounted shown _ derived current =>
    obtain ⟨-, rfl⟩ : v.mounted = true ∧ v.table = _ := by simpa [hshown] using shown
    exact current ▸ derived

end Session

end LoginVault
