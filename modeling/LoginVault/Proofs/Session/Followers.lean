import LoginVault.Proofs.Session.Sights

/-!
# Session.Followers — who follows the cache, and since when

All calls to follow the cache, or to follow it no longer, make up a history: those of events, of
tasks that mount or unmount a view, and of callbacks while a snapshot is passed on
(`Session.history`). A follower was added by the first call to follow it after the last call to
do so no longer (`AddedAt`). The list of followers holds all that were added, each once, in the
order in which they were added (`Lists`), and every input keeps it so.

Main result: `reached_lists`.
-/

namespace LoginVault

/-- A call to follow the cache, or to follow it no longer. -/
inductive FollowerCall where
  | subscribe (x : Subscriber)
  | unsubscribe (x : Subscriber)
  deriving DecidableEq, Repr

/-- The followers after a call, if they were `xs` before it. -/
def FollowerCall.apply (xs : List Subscriber) : FollowerCall → List Subscriber
  | .subscribe x => if xs.contains x then xs else xs ++ [x]
  | .unsubscribe x => xs.erase x

/-- The followers after these calls. -/
def followersAfter (xs : List Subscriber) (calls : List FollowerCall) : List Subscriber :=
  calls.foldl FollowerCall.apply xs

@[simp] theorem followersAfter_nil (xs : List Subscriber) : followersAfter xs [] = xs := rfl

@[simp] theorem followersAfter_cons (xs : List Subscriber) (c : FollowerCall)
    (rest : List FollowerCall) :
    followersAfter xs (c :: rest) = followersAfter (c.apply xs) rest := rfl

theorem followersAfter_append (xs : List Subscriber) (first rest : List FollowerCall) :
    followersAfter xs (first ++ rest) = followersAfter (followersAfter xs first) rest :=
  List.foldl_append

theorem Cache.subscribers_subscribe (c : Cache) (x : Subscriber) :
    (c.subscribe x).subscribers = FollowerCall.apply c.subscribers (.subscribe x) := by
  unfold Cache.subscribe
  simp only [FollowerCall.apply]
  split
  · rfl
  · rfl

/-! ## When a follower was added -/

/-- The call at the place `i` is the one that added `x` as a follower. -/
structure AddedAt (calls : List FollowerCall) (x : Subscriber) (i : Nat) : Prop where
  call : calls[i]? = some (.subscribe x)
  /-- It was not taken away since. -/
  kept : ∀ j, i < j → calls[j]? ≠ some (.unsubscribe x)
  /-- It was no follower then: each earlier call to follow it was undone before. -/
  new : ∀ j, j < i → calls[j]? = some (.subscribe x) →
    ∃ k, j < k ∧ k < i ∧ calls[k]? = some (.unsubscribe x)

section Added

variable {calls : List FollowerCall} {x y : Subscriber} {i : Nat}

theorem AddedAt.lt (h : AddedAt calls x i) : i < calls.length :=
  (List.getElem?_eq_some_iff.mp h.call).1

/-- Who is called to follow, and is not taken away later, was added. -/
theorem exists_addedAt {j : Nat} (call : calls[j]? = some (.subscribe x))
    (kept : ∀ k, j < k → calls[k]? ≠ some (.unsubscribe x)) : ∃ i, AddedAt calls x i := by
  -- the first such call is the one that added it
  induction j using Nat.strongRecOn with
  | ind j ih =>
    by_cases hearlier : ∃ i, i < j ∧ calls[i]? = some (.subscribe x)
        ∧ ∀ k, i < k → calls[k]? ≠ some (.unsubscribe x)
    · obtain ⟨i, hij, hcall, hkept⟩ := hearlier
      exact ih i hij hcall hkept
    · refine ⟨j, call, kept, ?_⟩
      intro i hij hcall
      by_cases hundone : ∃ k, i < k ∧ calls[k]? = some (.unsubscribe x)
      · obtain ⟨k, hik, hk⟩ := hundone
        refine ⟨k, hik, ?_, hk⟩
        have hnotLater : ¬ j < k := fun hjk => kept k hjk hk
        have hne : k ≠ j := by
          rintro rfl
          rw [call] at hk
          cases hk
        omega
      · have hnever : ∀ k, i < k → calls[k]? ≠ some (.unsubscribe x) :=
          fun k hik hk => hundone ⟨k, hik, hk⟩
        exact absurd ⟨i, hij, hcall, hnever⟩ hearlier

/-- What holds of a place in a history holds of it in a longer one. -/
theorem getElem?_concat_of_lt {c : FollowerCall} (h : i < calls.length) :
    (calls ++ [c])[i]? = calls[i]? :=
  List.getElem?_append_left h

theorem lt_of_getElem?_concat {c d : FollowerCall} (h : (calls ++ [c])[i]? = some d)
    (ne : d ≠ c) : i < calls.length := by
  have hbound := (List.getElem?_eq_some_iff.mp h).1
  simp only [List.length_append, List.length_singleton] at hbound
  rcases Nat.lt_succ_iff_lt_or_eq.mp hbound with hlt | hlast
  · exact hlt
  · subst hlast
    simp only [List.getElem?_concat_length, Option.some.injEq] at h
    exact absurd h.symm ne

/-- One call more leaves a follower where it was added, unless it takes this one away. -/
theorem AddedAt.concat (h : AddedAt calls x i) {c : FollowerCall} (ne : c ≠ .unsubscribe x) :
    AddedAt (calls ++ [c]) x i where
  call := (getElem?_concat_of_lt h.lt).trans h.call
  kept := by
    intro j hij hj
    have hlt := lt_of_getElem?_concat hj ne.symm
    rw [getElem?_concat_of_lt hlt] at hj
    exact h.kept j hij hj
  new := by
    intro j hji hj
    rw [getElem?_concat_of_lt (Nat.lt_trans hji h.lt)] at hj
    obtain ⟨k, hjk, hki, hk⟩ := h.new j hji hj
    exact ⟨k, hjk, hki, (getElem?_concat_of_lt (Nat.lt_trans hki h.lt)).trans hk⟩

/-- Who was added before the last call was so before it was made. -/
theorem AddedAt.of_concat {c : FollowerCall} (h : AddedAt (calls ++ [c]) x i)
    (lt : i < calls.length) : AddedAt calls x i where
  call := (getElem?_concat_of_lt lt).symm.trans h.call
  kept := by
    intro j hij hj
    have hlt := (List.getElem?_eq_some_iff.mp hj).1
    exact h.kept j hij ((getElem?_concat_of_lt hlt).trans hj)
  new := by
    intro j hji hj
    have hj' := (getElem?_concat_of_lt (c := c) (Nat.lt_trans hji lt)).trans hj
    obtain ⟨k, hjk, hki, hk⟩ := h.new j hji hj'
    exact ⟨k, hjk, hki, (getElem?_concat_of_lt (Nat.lt_trans hki lt)).symm.trans hk⟩

/-- A call to follow adds who was no follower. -/
theorem addedAt_concat_subscribe :
    AddedAt (calls ++ [.subscribe y]) x i
      ↔ AddedAt calls x i ∨ (x = y ∧ i = calls.length ∧ ∀ j, ¬ AddedAt calls y j) := by
  constructor
  · intro h
    by_cases hlt : i < calls.length
    · exact Or.inl (h.of_concat hlt)
    · -- the last call is the one that added it
      have hlast : i = calls.length := by
        have hbound := h.lt
        simp only [List.length_append, List.length_singleton] at hbound
        omega
      subst hlast
      have hxy : x = y := by simpa using h.call.symm
      subst hxy
      refine Or.inr ⟨rfl, rfl, ?_⟩
      intro j hj
      obtain ⟨k, hjk, hk, hgone⟩ := h.new j hj.lt ((getElem?_concat_of_lt hj.lt).trans hj.call)
      rw [getElem?_concat_of_lt hk] at hgone
      exact hj.kept k hjk hgone
  · rintro (h | ⟨rfl, rfl, hnone⟩)
    · exact h.concat (by simp)
    · refine ⟨by simp, ?_, ?_⟩
      · intro j hj hgone
        have hlt := lt_of_getElem?_concat hgone (by simp)
        omega
      · intro j hj hcall
        rw [getElem?_concat_of_lt hj] at hcall
        by_cases hundone : ∃ k, j < k ∧ calls[k]? = some (.unsubscribe x)
        · obtain ⟨k, hjk, hk⟩ := hundone
          have hlt := (List.getElem?_eq_some_iff.mp hk).1
          exact ⟨k, hjk, hlt, (getElem?_concat_of_lt hlt).trans hk⟩
        · have hnever : ∀ k, j < k → calls[k]? ≠ some (.unsubscribe x) :=
            fun k hjk hk => hundone ⟨k, hjk, hk⟩
          obtain ⟨m, hm⟩ := exists_addedAt hcall hnever
          exact absurd hm (hnone m)

/-- A call to follow no longer takes one away, and no other. -/
theorem addedAt_concat_unsubscribe :
    AddedAt (calls ++ [.unsubscribe y]) x i ↔ x ≠ y ∧ AddedAt calls x i := by
  constructor
  · intro h
    have hlt := lt_of_getElem?_concat h.call (by simp)
    refine ⟨?_, h.of_concat hlt⟩
    rintro rfl
    exact h.kept calls.length hlt (by simp)
  · rintro ⟨hne, h⟩
    exact h.concat (by simpa using Ne.symm hne)

/-! ## The list of followers -/

/-- The list holds those that were added by these calls, each once, in the order in which they
were added. -/
structure Lists (calls : List FollowerCall) (xs : List Subscriber) : Prop where
  nodup : xs.Nodup
  added : ∀ x, x ∈ xs ↔ ∃ i, AddedAt calls x i
  order : xs.Pairwise fun x y => ∃ i j, AddedAt calls x i ∧ AddedAt calls y j ∧ i < j

theorem Lists.empty : Lists [] [] where
  nodup := List.nodup_nil
  added := by
    intro x
    constructor
    · intro h
      cases h
    · rintro ⟨i, h⟩
      cases h.call
  order := List.Pairwise.nil

variable {xs : List Subscriber}

theorem Lists.subscribe (lists : Lists calls xs) (x : Subscriber) :
    Lists (calls ++ [.subscribe x]) (FollowerCall.apply xs (.subscribe x)) := by
  have hkept {y z : Subscriber} (h : ∃ i j, AddedAt calls y i ∧ AddedAt calls z j ∧ i < j) :
      ∃ i j, AddedAt (calls ++ [.subscribe x]) y i ∧ AddedAt (calls ++ [.subscribe x]) z j
        ∧ i < j := by
    obtain ⟨i, j, hi, hj, hij⟩ := h
    exact ⟨i, j, hi.concat (by simp), hj.concat (by simp), hij⟩
  simp only [FollowerCall.apply]
  split
  · -- who follows already is not added again
    rename_i hmem
    obtain ⟨m, hm⟩ := (lists.added x).mp (List.contains_iff_mem.mp hmem)
    refine ⟨lists.nodup, ?_, lists.order.imp hkept⟩
    intro y
    rw [lists.added y]
    constructor
    · rintro ⟨i, hi⟩
      exact ⟨i, hi.concat (by simp)⟩
    · rintro ⟨i, hi⟩
      rcases addedAt_concat_subscribe.mp hi with h | ⟨-, -, hnone⟩
      · exact ⟨i, h⟩
      · exact absurd hm (hnone m)
  · rename_i hmem
    rw [List.contains_iff_mem] at hmem
    have hnone : ∀ j, ¬ AddedAt calls x j := fun j hj => hmem ((lists.added x).mpr ⟨j, hj⟩)
    have hlast : AddedAt (calls ++ [.subscribe x]) x calls.length :=
      addedAt_concat_subscribe.mpr (Or.inr ⟨rfl, rfl, hnone⟩)
    refine ⟨?_, ?_, ?_⟩
    · rw [List.nodup_append]
      refine ⟨lists.nodup, List.pairwise_singleton _ _, ?_⟩
      intro y hy z hz
      obtain rfl := List.mem_singleton.mp hz
      rintro rfl
      exact hmem hy
    · intro y
      rw [List.mem_append, List.mem_singleton, lists.added y]
      constructor
      · rintro (⟨i, hi⟩ | rfl)
        · exact ⟨i, hi.concat (by simp)⟩
        · exact ⟨calls.length, hlast⟩
      · rintro ⟨i, hi⟩
        rcases addedAt_concat_subscribe.mp hi with h | ⟨rfl, -, -⟩
        · exact Or.inl ⟨i, h⟩
        · exact Or.inr rfl
    · rw [List.pairwise_append]
      refine ⟨lists.order.imp hkept, List.pairwise_singleton _ _, ?_⟩
      intro y hy z hz
      obtain rfl := List.mem_singleton.mp hz
      obtain ⟨i, hi⟩ := (lists.added y).mp hy
      exact ⟨i, calls.length, hi.concat (by simp), hlast, hi.lt⟩

theorem Lists.unsubscribe (lists : Lists calls xs) (x : Subscriber) :
    Lists (calls ++ [.unsubscribe x]) (FollowerCall.apply xs (.unsubscribe x)) := by
  have hmem (y : Subscriber) : y ∈ xs.erase x ↔ y ≠ x ∧ y ∈ xs := lists.nodup.mem_erase_iff
  refine ⟨lists.nodup.erase x, ?_, ?_⟩
  · intro y
    refine (hmem y).trans ?_
    rw [lists.added y]
    constructor
    · rintro ⟨hne, i, hi⟩
      exact ⟨i, addedAt_concat_unsubscribe.mpr ⟨hne, hi⟩⟩
    · rintro ⟨i, hi⟩
      obtain ⟨hne, hi⟩ := addedAt_concat_unsubscribe.mp hi
      exact ⟨hne, i, hi⟩
  · refine (lists.order.sublist List.erase_sublist).imp_of_mem ?_
    intro y z hy hz h
    obtain ⟨i, j, hi, hj, hij⟩ := h
    exact ⟨i, j, addedAt_concat_unsubscribe.mpr ⟨((hmem y).mp hy).1, hi⟩,
      addedAt_concat_unsubscribe.mpr ⟨((hmem z).mp hz).1, hj⟩, hij⟩

/-- Calls keep the list in order. -/
theorem Lists.followersAfter (lists : Lists calls xs) (more : List FollowerCall) :
    Lists (calls ++ more) (followersAfter xs more) := by
  induction more generalizing calls xs with
  | nil => simpa using lists
  | cons c rest ih =>
    have hfirst : Lists (calls ++ [c]) (c.apply xs) := by
      cases c with
      | subscribe x => exact lists.subscribe x
      | unsubscribe x => exact lists.unsubscribe x
    simpa using ih hfirst

end Added

/-! ## Who makes these calls -/

/-- The calls that the actions of a callback make, up to the first that fails. -/
def Action.followerCalls : List Action → List FollowerCall
  | [] => []
  | .fail :: _ => []
  | .subscribe name :: rest => .subscribe (.callback name) :: followerCalls rest
  | .unsubscribe name :: rest => .unsubscribe (.callback name) :: followerCalls rest
  | .revalidate _ _ :: rest => followerCalls rest

namespace State

/-- The calls that a follower makes when it is told of a snapshot. -/
def callsOf (s : State) : Subscriber → List FollowerCall
  | .callback name => Action.followerCalls ((s.callbacks.lookup name).getD [])
  | .view _ => []

/-- The call that was made for a view between these states: it follows when it comes to be
mounted, and follows no longer when it ceases to be. -/
def callFor (s s' : State) (view : String) : List FollowerCall :=
  if s'.isMounted view = s.isMounted view then []
  else if s'.isMounted view then [.subscribe (.view view)]
  else [.unsubscribe (.view view)]

/-- The calls made in a turn: for the view that a task is concerned with, or by all followers
that are told of a snapshot, one after the other. -/
def callsIn (s : State) : Turn → List FollowerCall
  | .task T =>
    match s.tasks.lookup T with
    | some (.ready r) => (r.scope?.map (s.callFor (s.resume T).1)).getD []
    | _ => []
  | t => if (s.fetched? t).isSome then s.cache.subscribers.flatMap s.callsOf else []

end State

namespace Session

/-- The calls that an input makes. -/
def calls (s : Session) : Input → List FollowerCall
  | .event (.subscribe name _) => [.subscribe (.callback name)]
  | .event (.unsubscribe name _) => [.unsubscribe (.callback name)]
  | .event (.unmount view) => s.state.callFor (s.state.unmount view) view
  | .event _ => []
  | .turn => (s.queue.head?.map s.state.callsIn).getD []

/-- All calls made in the course of a schedule. -/
def history (s : Session) : List Input → List FollowerCall
  | [] => []
  | i :: rest => s.calls i ++ (s.advance i).history rest

end Session

/-! ## Every call counts, and nothing else -/

theorem Resumption.Mounts.scope {r : Resumption} {view : String} (h : r.Mounts view) :
    r.scope? = some view := by
  cases h with
  | mount => rfl
  | visit => rfl

namespace State

variable (s : State)

theorem act_subscribers (actions : List Action) :
    (s.act actions).1.cache.subscribers
      = followersAfter s.cache.subscribers (Action.followerCalls actions) := by
  fun_induction act s actions with
  | case1 s => rfl
  | case2 s rest => rfl
  | case3 s name rest ih =>
    rw [ih]
    exact congrArg (followersAfter · _) (s.cache.subscribers_subscribe (.callback name))
  | case4 s name rest ih => exact ih
  | case5 s task fresh rest next started hspawn after tasks hact ih =>
    rw [hact] at ih
    have hsame := (s.spawn_sameSight task (.revalidate fresh)).subscribers
    rw [hspawn] at hsame
    exact ih.trans (congrArg (followersAfter · _) hsame)

/-- Actions make callbacks known that do nothing, and change none. -/
theorem act_callbacks (actions : List Action) (name : String) :
    ((s.act actions).1.callbacks.lookup name).getD [] = (s.callbacks.lookup name).getD [] := by
  have hmention (s : State) (other : String) :
      ((s.mention other []).callbacks.lookup name).getD [] = (s.callbacks.lookup name).getD [] := by
    simp only [mention, Named.lookup_putNew]
    by_cases hname : name = other
    · simp [hname]
    · simp [hname]
  fun_induction act s actions with
  | case1 s => rfl
  | case2 s rest => rfl
  | case3 s other rest ih => exact ih.trans (hmention s other)
  | case4 s other rest ih => exact ih.trans (hmention s other)
  | case5 s task fresh rest next started hspawn after tasks hact ih =>
    rw [hact] at ih
    have hsame := (s.spawn_sameSight task (.revalidate fresh)).callbacks
    rw [hspawn] at hsame
    exact ih.trans (by rw [hsame])

theorem change_subscribers (view : String) (f : View → View) :
    (s.change view f).1.cache.subscribers = s.cache.subscribers
      ∧ (s.change view f).1.callbacks = s.callbacks := by
  unfold change redraw
  split
  · exact ⟨rfl, rfl⟩
  · split
    · exact ⟨rfl, rfl⟩
    · exact ⟨rfl, rfl⟩

theorem tell_subscribers (x : Subscriber) :
    (s.tell x).1.cache.subscribers = followersAfter s.cache.subscribers (s.callsOf x) := by
  cases x with
  | view view => exact (s.change_subscribers view _).1
  | callback name => exact act_subscribers _ _

/-- What a follower will do does not depend on what others do before it is told. -/
theorem callsOf_tell (x y : Subscriber) : (s.tell x).1.callsOf y = s.callsOf y := by
  cases y with
  | view view => rfl
  | callback name =>
    have hsame : ((s.tell x).1.callbacks.lookup name).getD [] = (s.callbacks.lookup name).getD [] := by
      cases x with
      | view view => exact congrArg (fun c => (List.lookup name c).getD []) (s.change_subscribers view _).2
      | callback other => exact act_callbacks _ _ name
    exact congrArg Action.followerCalls hsame

theorem tellAll_subscribers (xs : List Subscriber) :
    (s.tellAll xs).1.cache.subscribers = followersAfter s.cache.subscribers (xs.flatMap s.callsOf) := by
  induction xs generalizing s with
  | nil => rfl
  | cons x rest ih =>
    have hcalls : rest.flatMap (s.tell x).1.callsOf = rest.flatMap s.callsOf := by
      congr 1
      funext y
      exact s.callsOf_tell x y
    rw [List.flatMap_cons, followersAfter_append, ← s.tell_subscribers x, ← hcalls]
    exact ih (s.tell x).1

/-! ### Views -/

variable {s}

theorem callFor_of_kept {s' : State} {view : String}
    (kept : s'.isMounted view = s.isMounted view) : s.callFor s' view = [] := by
  simp [callFor, kept]

theorem isMounted_change (view w : String) {f : View → View}
    (kept : ∀ v, (f v).mounted = v.mounted) :
    (s.change view f).1.isMounted w = s.isMounted w := by
  simp only [isMounted, lookup_change]
  by_cases hw : w = view
  · rw [if_pos hw]
    cases s.views.lookup w with
    | none => rfl
    | some v => exact kept v
  · rw [if_neg hw]

theorem unmount_hidden (s : State) (view : String) : (s.unmount view).isMounted view = false := by
  cases hv : s.views.lookup view with
  | none => simp [unmount, isMounted, hv]
  | some v =>
    cases hm : v.mounted with
    | false => simp [unmount, isMounted, hv, hm]
    | true => simp [unmount, isMounted, updateView, Named.lookup_update, hv, hm]

theorem mount_subscribers {view : String} (hidden : s.isMounted view = false) :
    (s.mount view).cache.subscribers
      = followersAfter s.cache.subscribers (s.callFor (s.mount view) view) := by
  cases hv : s.views.lookup view with
  | none =>
    have hsame : s.mount view = s := by simp [mount, hv]
    rw [hsame, callFor_of_kept rfl]
    rfl
  | some v =>
    have hmounted : (s.mount view).isMounted view = true := by
      simp [mount, hv, isMounted, updateView, Named.lookup_update]
    have hcall : s.callFor (s.mount view) view = [.subscribe (.view view)] := by
      simp [callFor, hmounted, hidden]
    have hlist : (s.mount view).cache.subscribers = (s.cache.subscribe (.view view)).subscribers := by
      simp [mount, hv, updateView]
    rw [hcall, hlist, s.cache.subscribers_subscribe]
    rfl

theorem unmount_subscribers (view : String) :
    (s.unmount view).cache.subscribers
      = followersAfter s.cache.subscribers (s.callFor (s.unmount view) view) := by
  cases hv : s.views.lookup view with
  | none =>
    have hsame : s.unmount view = s := by simp [unmount, hv]
    rw [hsame, callFor_of_kept rfl]
    rfl
  | some v =>
    cases hm : v.mounted with
    | false =>
      have hsame : s.unmount view = s := by simp [unmount, hv, hm]
      rw [hsame, callFor_of_kept rfl]
      rfl
    | true =>
      have hbefore : s.isMounted view = true := by simp [isMounted, hv, hm]
      have hcall : s.callFor (s.unmount view) view = [.unsubscribe (.view view)] := by
        simp [callFor, hbefore, unmount_hidden]
      have hlist : (s.unmount view).cache.subscribers = s.cache.subscribers.erase (.view view) := by
        simp [unmount, hv, hm, updateView, Cache.unsubscribe]
      rw [hcall, hlist]
      rfl

/-- The only calls that a task makes in its turn are those for the view that it is concerned
with. -/
theorem ViewTurn.subscribers {r : Resumption} {mid : State} (work : ViewTurn s r mid) :
    mid.cache.subscribers
      = followersAfter s.cache.subscribers ((r.scope?.map (s.callFor mid)).getD []) := by
  have hkept {mid : State} (subscribers : mid.cache.subscribers = s.cache.subscribers)
      (mounted : ∀ view, mid.isMounted view = s.isMounted view) : mid.cache.subscribers
        = followersAfter s.cache.subscribers ((r.scope?.map (s.callFor mid)).getD []) := by
    cases r.scope? with
    | none => exact subscribers
    | some view => simpa [callFor_of_kept (mounted view)] using subscribers
  cases work with
  | apart => exact hkept rfl fun _ => rfl
  | @mounted view wanted hidden =>
    rw [wanted.scope]
    exact mount_subscribers hidden
  | @unmounted view scope =>
    rw [scope]
    exact unmount_subscribers view
  | @formed view f _ =>
    exact hkept (s.change_subscribers view _).1 fun w => isMounted_change view w fun _ => rfl
  | @reported view e =>
    exact hkept (s.change_subscribers view _).1 fun w => isMounted_change view w fun _ => rfl
  | @left view e scope =>
    rw [scope]
    have hreport : (s.report view e).1.isMounted view = s.isMounted view :=
      isMounted_change view view fun _ => rfl
    have hcall : s.callFor ((s.report view e).1.unmount view) view
        = (s.report view e).1.callFor ((s.report view e).1.unmount view) view := by
      simp only [callFor, hreport]
    have hlist : (s.report view e).1.cache.subscribers = s.cache.subscribers :=
      (s.change_subscribers view _).1
    rw [unmount_subscribers, hlist, ← hcall]
    rfl

/-! ### Inputs -/

theorem take_subscribers (t : Turn) :
    (s.take t).1.cache.subscribers = followersAfter s.cache.subscribers (s.callsIn t) := by
  have hread {t : Turn} (h : ∀ T, t ≠ .task T) : s.callsIn t
      = if (s.fetched? t).isSome then s.cache.subscribers.flatMap s.callsOf else [] := by
    cases t with
    | task T => exact absurd rfl (h T)
    | _ => rfl
  cases s.take_sight t with
  | @resumed T r mid turn ready work after =>
    subst turn
    have hcalls : s.callsIn (.task T) = (r.scope?.map (s.callFor mid)).getD [] := by
      have hsame : s.callFor (s.resume T).1 = s.callFor mid := by
        have hafter : SameSight mid (s.resume T).1 := after
        funext view
        simp only [callFor, hafter.isMounted view]
      simp only [callsIn, ready, hsame]
    rw [hcalls]
    exact after.subscribers.trans work.subscribers
  | @aside same unfetched idle =>
    have hcalls : s.callsIn t = [] := by
      cases t with
      | task T =>
        simp only [callsIn]
        split
        · rename_i r ready
          exact absurd ready (idle T r rfl)
        · rfl
      | _ => rw [hread (by simp), unfetched]; rfl
    rw [hcalls]
    exact same.subscribers
  | @told f rows turn fetched after =>
    subst turn
    have hcalls : s.callsIn (.page f) = s.cache.subscribers.flatMap s.callsOf := by
      rw [hread (by simp), fetched]
      rfl
    rw [after, hcalls]
    exact tellAll_subscribers { s with cache := { s.cache with snapshot := rows } } _

end State

namespace Session

open State

/-- After an input, the followers are those that its calls leave. -/
theorem advance_subscribers (s : Session) (i : Input) :
    (s.advance i).state.cache.subscribers = followersAfter s.state.cache.subscribers (s.calls i) := by
  rcases s with ⟨s, q⟩
  cases i with
  | turn =>
    cases q with
    | nil => rfl
    | cons t rest => exact take_subscribers t
  | event e =>
    cases e with
    | subscribe name actions => exact s.cache.subscribers_subscribe (.callback name)
    | unmount view => exact unmount_subscribers view
    | spawn T c => exact (s.spawn_sameSight T c).subscribers
    | cancel T => exact (s.cancel_sameSight T).subscribers
    | respond index a => exact (s.respond_sameSight index a).subscribers
    | setFilter view text => exact (s.change_subscribers view _).1
    | openForm view => exact (s.change_subscribers view _).1
    | closeForm view => exact (s.change_subscribers view _).1
    | unsubscribe name actions => rfl
    | newView view observer => rfl
    | setOrder view name =>
      simp only [advance, apply, State.apply]
      split
      · exact (s.change_subscribers view _).1
      · exact (s.change_subscribers view _).1
      · rfl

theorem run_lists {s : Session} {before : List FollowerCall}
    (lists : Lists before s.state.cache.subscribers) (inputs : List Input) :
    Lists (before ++ s.history inputs) (s.run inputs).state.cache.subscribers := by
  induction inputs generalizing s before with
  | nil => simpa [history] using lists
  | cons i rest ih =>
    have hnext : Lists (before ++ s.calls i) (s.advance i).state.cache.subscribers := by
      rw [advance_subscribers]
      exact lists.followersAfter (s.calls i)
    simpa [history] using ih hnext

/-- The followers are those that were added by the calls made so far, each once, in the order in
which they were added. -/
theorem reached_lists (client : Client) (inputs : List Input) :
    Lists ((start client).history inputs) (reached client inputs).state.cache.subscribers := by
  have hstart : Lists [] (start client).state.cache.subscribers := .empty
  exact run_lists hstart inputs

end Session

end LoginVault
