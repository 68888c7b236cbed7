import LoginVault.Proofs.FrontEnds.Agreement
import LoginVault.Proofs.Login.Concealed
import Mathlib.Data.List.Forall2

/-!
# FrontEnds.Secrecy — what passwords that are not shown have a part in

Two scripts are alike but for passwords if they hold the same answers, where the bodies of
successful responses may differ in the texts of passwords. A call or a command that shows no
password does the same on both: it sends the same requests and ends the same. Reading, paging and
the removal of copies look at identifiers and counts only.

It replies and prints the same too, unless it fails for an answer in which a login has no
identifier. What is told of such a login quotes all of it, and with it the password.

Main results: `passwords_hidden` and `password_quoted`.
-/

namespace LoginVault

open CommandLine

/-! ## Scripts that differ in passwords -/

/-- Two answers are alike but for passwords. -/
inductive Answer.SameButPasswords : Answer → Answer → Prop
  | same (a : Answer) : SameButPasswords a a
  | passwords {status : Nat} {body body' : List UInt8} {v v' : Json}
      (success : 200 ≤ status ∧ status < 300)
      (decoded : Json.decode? body = some v) (decoded' : Json.decode? body' = some v')
      (concealed : v.concealed = v'.concealed) :
      SameButPasswords (.response ⟨status, body⟩) (.response ⟨status, body'⟩)

/-- Two scripts are alike but for passwords. -/
structure Script.SameButPasswords (s s' : Script) : Prop where
  answers : List.Forall₂ Answer.SameButPasswords s.answers s'.answers
  sent : s.sent = s'.sent

/-- Results that are equal once they are seen through `f`, or errors that are alike. -/
inductive SameUpTo {ε α β : Type} (f : α → β) (alike : ε → ε → Prop) :
    Except ε α → Except ε α → Prop
  | ok {a a' : α} (same : f a = f a') : SameUpTo f alike (.ok a) (.ok a')
  | error {e e' : ε} (told : alike e e') : SameUpTo f alike (.error e) (.error e')

section SameUpTo

variable {ε ε' α β γ δ : Type} {f : α → β} {g : γ → δ} {alike : ε → ε → Prop}
  {alike' : ε' → ε' → Prop} {r r' : Except ε α}

theorem SameUpTo.map {h h' : α → γ} (same : SameUpTo f alike r r')
    (kept : ∀ a a', f a = f a' → g (h a) = g (h' a')) : SameUpTo g alike (r.map h) (r'.map h') := by
  cases same with
  | ok same => exact .ok (kept _ _ same)
  | error told => exact .error told

theorem SameUpTo.mapError {h : ε → ε'} (same : SameUpTo f alike r r')
    (kept : ∀ e e', alike e e' → alike' (h e) (h e')) :
    SameUpTo f alike' (r.mapError h) (r'.mapError h) := by
  cases same with
  | ok same => exact .ok same
  | error told => exact .error (kept _ _ told)

theorem SameUpTo.refl (ε_refl : ∀ e, alike e e) (r : Except ε α) : SameUpTo f alike r r := by
  cases r with
  | ok a => exact .ok rfl
  | error e => exact .error (ε_refl e)

end SameUpTo

/-! ## Refused values -/

/-- Whether a login in the body of an answer has no identifier. -/
def Json.Unidentified (expected : Expected) (v : Json) : Prop :=
  match expected with
  | .page => ∃ row ∈ v.rows, row.LacksIdentifier
  | .created => v.LacksIdentifier

theorem Json.unidentified_concealed (expected : Expected) (v : Json) :
    v.concealed.Unidentified expected ↔ v.Unidentified expected := by
  cases expected with
  | page => simp [Unidentified, rows_concealed, lacksIdentifier_rowConcealed]
  | created => exact v.lacksIdentifier_concealed

/-- The same was found against two values, the first of which is `v`, and the same is quoted of both
unless they have logins without an identifier. -/
structure Malformed.Alike (expected : Expected) (v : Json) (m m' : Malformed) : Prop where
  value : m.value = v
  shape : m.shape = m'.shape
  findings : m.findings = m'.findings
  quoted : ¬ v.Unidentified expected → ∀ f ∈ m.findings, m.quoted f = m'.quoted f

theorem Malformed.Alike.message {expected : Expected} {v : Json} {m m' : Malformed}
    (alike : Malformed.Alike expected v m m') (identified : ¬ v.Unidentified expected) :
    m.message = m'.message := by
  have hsummary : m.summary = m'.summary := by
    rw [summary, summary, alike.shape, alike.findings]
  have hlines : m.findings.flatMap m.lines = m.findings.flatMap m'.lines := by
    refine List.flatMap_congr fun f hf => ?_
    rw [lines, lines, alike.quoted identified f hf, alike.shape]
  rw [Malformed.message, Malformed.message, hsummary, hlines, alike.findings]

section Checks

variable {α : Type} {f : α → α} {check : Json → Checked α} {shape : Shape} {expected : Expected}

/-- Values that are alike but for passwords are both accepted or both refused. -/
theorem check_alike (kept : ∀ v, check v.concealed = (check v).map f)
    (agree : ∀ v, ¬ v.Unidentified expected → Json.Agree (check v).findings v.concealed v)
    {v v' : Json} (concealed : v.concealed = v'.concealed) :
    SameUpTo f (Malformed.Alike expected v) ((check v).mapError (⟨shape, v, ·⟩))
      ((check v').mapError (⟨shape, v', ·⟩)) := by
  have hsame : (check v).map f = (check v').map f := by rw [← kept, ← kept, concealed]
  cases hv : check v with
  | ok a =>
    cases hv' : check v' with
    | ok a' => exact .ok (by simpa [hv, hv', Except.map] using hsame)
    | error fs => simp [hv, hv', Except.map] at hsame
  | error fs =>
    cases hv' : check v' with
    | ok a' => simp [hv, hv', Except.map] at hsame
    | error fs' =>
      obtain rfl : fs = fs' := by simpa [hv, hv', Except.map] using hsame
      -- what is quoted of either value is quoted of what both are without their passwords
      refine .error ⟨rfl, rfl, rfl, fun identified x hx => ?_⟩
      have identified' : ¬ v'.Unidentified expected := by
        rwa [← Json.unidentified_concealed, ← concealed, Json.unidentified_concealed]
      have hagree := agree v identified x (by rwa [hv])
      have hagree' := agree v' identified' x (by rwa [hv'])
      exact hagree.symm.trans (concealed ▸ hagree')

end Checks

/-! ## Reading a response -/

/-- Two faults are the same, or they are made of refusals of which the first is of this value. -/
inductive ProtocolFault.Alike (v : Json) : ProtocolFault → ProtocolFault → Prop
  | same (f : ProtocolFault) : Alike v f f
  | malformed {expected : Expected} {m m' : Malformed} (told : Malformed.Alike expected v m m') :
      Alike v (.malformed expected m) (.malformed expected m')

/-- From values that are alike but for passwords the same is read, seen through `f`. -/
def Json.ReadAlike {α : Type} (read : Json → Except ProtocolFault α) (f : α → α) : Prop :=
  ∀ v v' : Json, v.concealed = v'.concealed →
    SameUpTo f (ProtocolFault.Alike v) (read v) (read v')

theorem Json.object_of_concealed {v v' : Json} (h : v.concealed = v'.concealed) :
    v' = v ∨ ∃ ms ms', v = .object ms ∧ v' = .object ms' := by
  cases v with
  | object ms =>
    cases v' with
    | object ms' => exact .inr ⟨ms, ms', rfl, rfl⟩
    | _ => simp [concealed] at h
  | _ =>
    cases v' with
    | object ms' => simp [concealed] at h
    | _ => exact .inl h.symm

theorem readAlike_pageOf : Json.ReadAlike Json.pageOf (·.concealed) := by
  intro v v' concealed
  rcases Json.object_of_concealed concealed with rfl | ⟨ms, ms', rfl, rfl⟩
  · exact .refl .same _
  -- the rows are missing in both or in neither
  have hdata : (ms.lookup FieldName.data.wire).isNone
      = (ms'.lookup FieldName.data.wire).isNone := by
    have hmembers : Json.Members.change Json.bodyHidden ms
        = Json.Members.change Json.bodyHidden ms' := Json.object.inj concealed
    have hlookup := congrArg (fun members => (members.lookup FieldName.data.wire).isNone) hmembers
    simpa [Json.lookup_change] using hlookup
  have hagree (v : Json) (identified : ¬ v.Unidentified .page) :
      Json.Agree (LoginPage.check v).findings v.concealed v :=
    LoginPage.agree_concealed fun row mem lacks => identified ⟨row, mem, lacks⟩
  have hdecode : SameUpTo (·.concealed) (Malformed.Alike .page (.object ms))
      (LoginPage.decode (.object ms)) (LoginPage.decode (.object ms')) :=
    check_alike LoginPage.check_concealed hagree concealed
  simp only [Json.pageOf, Json.expectObject, bind, Except.bind, ← hdata]
  split
  · exact .error (.same _)
  · exact hdecode.mapError fun _ _ told => .malformed told

theorem readAlike_createdOf : Json.ReadAlike Json.createdOf (·.concealed) := by
  intro v v' concealed
  rcases Json.object_of_concealed concealed with rfl | ⟨ms, ms', rfl, rfl⟩
  · exact .refl .same _
  have hagree (v : Json) (identified : ¬ v.Unidentified .created) :
      Json.Agree (Login.check v).findings v.concealed v := Login.agree_concealed identified
  have hdecode : SameUpTo (·.concealed) (Malformed.Alike .created (.object ms))
      (Login.decode (.object ms)) (Login.decode (.object ms')) :=
    check_alike Login.check_concealed hagree concealed
  exact hdecode.mapError fun _ _ told => .malformed told

/-- Two failures are the same, or they are made of refusals of which the first is of the value in
one of these answers. -/
inductive Failure.Alike (answers : List Answer) : Failure → Failure → Prop
  | same (f : Failure) : Alike answers f f
  | malformed {expected : Expected} {v : Json} {m m' : Malformed}
      (answered : ∃ r, .response r ∈ answers ∧ Json.decode? r.body = some v)
      (told : Malformed.Alike expected v m m') :
      Alike answers (.store (.protocol (.malformed expected m)))
        (.store (.protocol (.malformed expected m')))

/-- Answers that are alike but for passwords give results that are alike but for passwords. -/
theorem Answer.SameButPasswords.result {α : Type} {read : Json → Except ProtocolFault α}
    {f : α → α} {a a' : Answer} (alike : a.SameButPasswords a') (h : Json.ReadAlike read f)
    {answers : List Answer} (answered : ∀ r, a = .response r → .response r ∈ answers) (q : Query) :
    SameUpTo f (Failure.Alike answers) (a.result q fun r => r.value.bind read)
      (a'.result q fun r => r.value.bind read) := by
  cases alike with
  | same a => exact .refl .same _
  | @passwords status body body' v v' success decoded decoded' concealed =>
    simp only [Answer.result, Response.value, Response.isSuccess, success, decoded, decoded']
    refine (h v v' concealed).mapError fun f f' told => ?_
    cases told with
    | same f => exact .same _
    | malformed told => exact .malformed ⟨⟨status, body⟩, answered _ rfl, decoded⟩ told

/-! ## Paging -/

namespace Paging

/-- What was read so far, with empty passwords. -/
def concealed (p : Paging) : Paging := { p with collected := p.collected.map (·.concealed) }

/-- The progress, with empty passwords. -/
def Progress.concealed : Progress → Progress
  | .more p => .more p.concealed
  | .complete logins => .complete (logins.map (·.concealed))

theorem query_concealed (p : Paging) (n : Nat) : p.concealed.query n = p.query n := rfl

/-- What is asked for next depends on no password. -/
theorem query_alike {p p' : Paging} (progress : p.concealed = p'.concealed) (n : Nat) :
    p.query n = p'.query n := by
  rw [← query_concealed, progress, query_concealed]

theorem keep_concealed (known : List Login) (l : Login) :
    (keep known l).map (·.concealed) = keep (known.map (·.concealed)) l.concealed := by
  have hknown : (known.map (·.concealed)).any (·.id = l.concealed.id)
      = known.any (·.id = l.id) := by
    rw [List.any_map]
    rfl
  simp only [keep, hknown]
  split
  · rfl
  · simp

theorem foldl_keep_concealed (logins known : List Login) :
    (logins.foldl keep known).map (·.concealed)
      = (logins.map (·.concealed)).foldl keep (known.map (·.concealed)) := by
  induction logins generalizing known with
  | nil => rfl
  | cons l rest ih => simp only [List.foldl_cons, List.map_cons, ih, keep_concealed]

theorem add_concealed (p : Paging) (page : LoginPage) :
    (p.add page).concealed = p.concealed.add page.concealed := by
  simp [add, concealed, LoginPage.concealed, foldl_keep_concealed]

/-- Whether a page is the last depends on no password. -/
theorem turn_concealed (n : Nat) (p : Paging) (page : LoginPage) :
    (p.turn n page).concealed = p.concealed.turn n page.concealed := by
  have hlast : p.concealed.isLast n page.concealed (p.add page).concealed
      = p.isLast n page (p.add page) := by
    simp only [isLast, concealed, LoginPage.concealed, List.length_map]
    rfl
  simp only [turn, ← add_concealed, hlast]
  split
  · rfl
  · rfl

theorem advance_alike {p p' : Paging} {a a' : Answer} (n : Nat)
    (progress : p.concealed = p'.concealed) (alike : a.SameButPasswords a')
    {answers : List Answer} (answered : ∀ r, a = .response r → .response r ∈ answers) :
    SameUpTo Progress.concealed (Failure.Alike answers) (p.advance n a) (p'.advance n a') := by
  simp only [advance, query_alike progress]
  refine (alike.result readAlike_pageOf answered (p'.query n)).map fun page page' same => ?_
  rw [turn_concealed, turn_concealed, progress, same]

end Paging

/-! ## Operations on the store -/

namespace Script

variable {s s' : Script}

theorem collectFrom_alike (c : Client) {answers answers' all : List Answer}
    (alike : List.Forall₂ Answer.SameButPasswords answers answers') (within : answers ⊆ all)
    (sent : List Request) {p p' : Paging} (progress : p.concealed = p'.concealed) :
    SameUpTo (List.map (·.concealed)) (Failure.Alike all) (collectFrom c p sent answers).1
        (collectFrom c p' sent answers').1
      ∧ (collectFrom c p sent answers).2.SameButPasswords (collectFrom c p' sent answers').2 := by
  induction alike generalizing p p' sent with
  | nil =>
    simp only [collectFrom, Paging.query_alike progress]
    exact ⟨.error (.same _), .nil, rfl⟩
  | @cons a a' answers answers' first rest ih =>
    have hadvance := Paging.advance_alike c.config.pageSize progress first
      fun r ha => within (ha ▸ List.mem_cons_self)
    simp only [collectFrom, Paging.query_alike progress]
    generalize p.advance c.config.pageSize a = r at hadvance ⊢
    generalize p'.advance c.config.pageSize a' = r' at hadvance ⊢
    cases hadvance with
    | error told => exact ⟨.error told, rest, rfl⟩
    | @ok next next' same =>
      cases next with
      | more p =>
        cases next' with
        | more p' =>
          exact ih (fun a ha => within (List.mem_cons_of_mem _ ha)) _
            (Paging.Progress.more.inj same)
        | complete logins => exact Paging.Progress.noConfusion same
      | complete logins =>
        cases next' with
        | more p' => exact Paging.Progress.noConfusion same
        | complete logins' => exact ⟨.ok (Paging.Progress.complete.inj same), rest, rfl⟩

theorem SameButPasswords.list (alike : s.SameButPasswords s') (c : Client)
    (search : Option String) :
    SameUpTo (List.map (·.concealed)) (Failure.Alike s.answers) (s.list c search).1
        (s'.list c search).1
      ∧ (s.list c search).2.SameButPasswords (s'.list c search).2 := by
  simp only [Script.list, alike.sent]
  exact collectFrom_alike c alike.answers (List.Subset.refl _) _ rfl

theorem SameButPasswords.create (alike : s.SameButPasswords s') (c : Client) (record : NewLogin) :
    SameUpTo (·.concealed) (Failure.Alike s.answers) (s.create c record).1 (s'.create c record).1
      ∧ (s.create c record).2.SameButPasswords (s'.create c record).2 := by
  rcases s with ⟨answers, sent⟩
  rcases s' with ⟨answers', sent'⟩
  rcases alike with ⟨halike, hsent⟩
  have hfirst : (answers.headD (.fault exhausted)).SameButPasswords
      (answers'.headD (.fault exhausted)) := by
    cases halike with
    | nil => exact .same _
    | cons first rest => exact first
  have hrest : List.Forall₂ Answer.SameButPasswords answers.tail answers'.tail := by
    cases halike with
    | nil => exact .nil
    | cons first rest => exact rest
  have hanswered : ∀ r, answers.headD (.fault exhausted) = .response r →
      .response r ∈ answers := by
    intro r hr
    cases answers with
    | nil => cases hr
    | cons a rest => exact hr ▸ List.mem_cons_self
  exact ⟨hfirst.result readAlike_createdOf hanswered _, hrest,
    congrArg (· ++ [c.request _]) hsent⟩

end Script

/-! ## Front ends -/

/-- Whether the command shows no password: it adds a login, or it lists logins unrevealed. -/
def CommandLine.Command.hides : Command → Bool
  | .list _ reveal => !reveal
  | .add .. => true
  | .lookup _ => false
  | .terminal => false

/-- Whether the call shows no password: it creates a login, or it lists logins unrevealed. -/
def AgentCall.hides : AgentCall → Bool
  | .list _ reveal => !reveal
  | .create _ => true
  | .lookUp _ => false

/-- Logins that are equal but for passwords are shown the same. -/
theorem shown_alike {l l' : Login} (same : l.concealed = l'.concealed) :
    l.shown false = l'.shown false := by
  have hshown : l.concealed.shown false = l'.concealed.shown false := by rw [same]
  exact hshown

theorem map_shown_concealed (logins : List Login) :
    (logins.map (·.concealed)).map (·.shown false) = logins.map (·.shown false) := by
  rw [List.map_map]
  rfl

theorem map_shown_alike {logins logins' : List Login}
    (same : logins.map (·.concealed) = logins'.map (·.concealed)) :
    logins.map (·.shown false) = logins'.map (·.shown false) := by
  rw [← map_shown_concealed, same, map_shown_concealed]

/-- The same was found against two answers, the first of which the script holds, and a login in it
has no identifier. -/
structure Script.Quotes (s : Script) (expected : Expected) (m m' : Malformed) : Prop where
  answered : ∃ r, .response r ∈ s.answers ∧ Json.decode? r.body = some m.value
  unidentified : m.value.Unidentified expected
  shape : m.shape = m'.shape
  findings : m.findings = m'.findings

/-- Two failures that are alike are the same, or tell the same, or tell of such answers. -/
theorem Failure.Alike.told {s : Script} {f f' : Failure} (alike : Failure.Alike s.answers f f') :
    f = f' ∨ ∃ expected m m', (m.message = m'.message ∨ s.Quotes expected m m')
      ∧ f = .store (.protocol (.malformed expected m))
      ∧ f' = .store (.protocol (.malformed expected m')) := by
  cases alike with
  | same f => exact .inl rfl
  | @malformed expected v m m' answered told =>
    refine .inr ⟨expected, m, m', ?_, rfl, rfl⟩
    by_cases unidentified : v.Unidentified expected
    · refine .inr ⟨?_, ?_, told.shape, told.findings⟩
      · rwa [told.value]
      · rwa [told.value]
    · exact .inl (told.message unidentified)

/-- Two replies read the same, unless they tell of an answer with a login without an identifier. -/
def Script.RepliesAlike (s : Script) (reply reply' : Except Failure AgentReply) : Prop :=
  reply.map (·.encode) = reply'.map (·.encode)
    ∨ ∃ expected m m', s.Quotes expected m m'
      ∧ reply = .ok (.failed (.protocol (.malformed expected m)))
      ∧ reply' = .ok (.failed (.protocol (.malformed expected m')))

/-- The line that tells of a malformed answer. -/
def malformedLine (expected : Expected) (m : Malformed) : Print :=
  ⟨.error, .text s!"[red]Error:[/red] {(ProtocolFault.malformed expected m).message}"⟩

/-- The same is printed, unless it tells of an answer with a login without an identifier. -/
def Script.PrintsAlike (s : Script) (prints prints' : List Print) : Prop :=
  prints = prints'
    ∨ ∃ expected m m', s.Quotes expected m m'
      ∧ prints = [malformedLine expected m] ∧ prints' = [malformedLine expected m']

theorem malformed_message {m n : Malformed} (expected : Expected) (same : m.message = n.message) :
    (ProtocolFault.malformed expected m).message
      = (ProtocolFault.malformed expected n).message := by
  cases expected with
  | page =>
    show s!"Malformed login envelope: {m.message}" = s!"Malformed login envelope: {n.message}"
    rw [same]
  | created =>
    show s!"Malformed login in create response: {m.message}"
      = s!"Malformed login in create response: {n.message}"
    rw [same]

section FrontEnds

variable {s s' : Script} {α β : Type} {f : α → β}

/-! ### Calls -/

theorem SameUpTo.ofResult {r r' : Except Failure α}
    (same : SameUpTo f (Failure.Alike s.answers) r r') {reply : α → AgentReply}
    (kept : ∀ a a', f a = f a' → reply a = reply a') :
    s.RepliesAlike (AgentReply.ofResult reply r) (AgentReply.ofResult reply r') := by
  cases same with
  | ok same => exact .inl (by simp only [AgentReply.ofResult, kept _ _ same])
  | error alike =>
    rcases alike.told with rfl | ⟨expected, m, m', told, rfl, rfl⟩
    · exact .inl rfl
    rcases told with same | quotes
    · have hmessage := malformed_message expected same
      exact .inl (by simp only [AgentReply.ofResult, Except.map, AgentReply.encode,
        StoreError.message, hmessage])
    · exact .inr ⟨expected, m, m', quotes, rfl, rfl⟩

/-- A call that shows no password is answered alike. -/
theorem AgentCall.perform_alike (alike : s.SameButPasswords s') (c : Client) {call : AgentCall}
    (hides : call.hides) :
    s.RepliesAlike (call.perform c s).1 (call.perform c s').1
      ∧ (call.perform c s).2.sent = (call.perform c s').2.sent := by
  cases call with
  | lookUp url => cases hides
  | list search reveal =>
    obtain rfl : reveal = false := by simpa [AgentCall.hides] using hides
    rcases alike.list c (if search.isEmpty then none else some search) with ⟨hresult, hscript⟩
    exact ⟨hresult.ofResult fun _ _ same => congrArg _ (map_shown_alike same), hscript.sent⟩
  | create record =>
    rcases alike.create c record with ⟨hresult, hscript⟩
    exact ⟨hresult.ofResult fun _ _ same => congrArg _ (shown_alike same), hscript.sent⟩

/-! ### Commands -/

/-- What a command did is alike, but for the answers that are left. -/
structure CommandLine.Done.Alike (s : Script) (done done' : Done) : Prop where
  ended : done.ended = done'.ended
  prints : s.PrintsAlike done.prints done'.prints
  sent : done.script.sent = done'.script.sent

theorem CommandLine.Done.Alike.of_eq {done done' : Done} (ended : done.ended = done'.ended)
    (prints : done.prints = done'.prints) (sent : done.script.sent = done'.script.sent) :
    done.Alike s done' :=
  ⟨ended, .inl prints, sent⟩

theorem failure_alike {f f' : Failure} (alike : Failure.Alike s.answers f f') {left left' : Script}
    (sent : left.sent = left'.sent) :
    (Done.failure f left).Alike s (Done.failure f' left') := by
  rcases alike.told with rfl | ⟨expected, m, m', told, rfl, rfl⟩
  · cases f <;> exact .of_eq rfl rfl sent
  rcases told with same | quotes
  · have hmessage := malformed_message expected same
    exact .of_eq rfl (by simp only [Done.failure, Done.storeFailure, StoreError.message, hmessage])
      sent
  · exact ⟨rfl, .inr ⟨expected, m, m', quotes, rfl, rfl⟩, sent⟩

/-- A command that shows no password does the same. -/
theorem CommandLine.Command.perform_alike (alike : s.SameButPasswords s') (c : Client)
    {command : Command} (hides : command.hides) :
    (command.perform c s).Alike s (command.perform c s') := by
  cases command with
  | lookup url => cases hides
  | terminal => cases hides
  | list search reveal =>
    obtain rfl : reveal = false := by simpa [Command.hides] using hides
    rcases alike.list c (if search.isEmpty then none else some search) with ⟨hresult, hscript⟩
    simp only [Command.perform, Script.find]
    generalize s.list c (if search.isEmpty then none else some search) = run at hresult hscript ⊢
    generalize s'.list c (if search.isEmpty then none else some search) = run' at hresult hscript ⊢
    rcases run with ⟨result, left⟩
    rcases run' with ⟨result', left'⟩
    cases hresult with
    | error told => exact failure_alike told hscript.sent
    | ok same =>
      refine .of_eq rfl ?_ hscript.sent
      simp only [Done.success, ofLogins_eq_table, map_shown_alike same]
  | add url username password =>
    simp only [Command.perform]
    cases newLogin url username password with
    | error f => exact failure_alike (.same f) alike.sent
    | ok record =>
      rcases alike.create c record with ⟨hresult, hscript⟩
      simp only
      generalize s.create c record = run at hresult hscript ⊢
      generalize s'.create c record = run' at hresult hscript ⊢
      rcases run with ⟨result, left⟩
      rcases run' with ⟨result', left'⟩
      cases hresult with
      | error told => exact failure_alike told hscript.sent
      | @ok l l' same =>
        have hid : l.id = l'.id := congrArg ShownLogin.id (shown_alike same)
        have hurl : l.url = l'.url := congrArg ShownLogin.url (shown_alike same)
        refine .of_eq rfl ?_ hscript.sent
        simp only [Done.success, hid, hurl]

end FrontEnds

/-! ## Descriptions -/

/-- Passwords that are not empty are shown the same. -/
theorem describeSecret_alike {password password' : String} (h : password ≠ "")
    (h' : password' ≠ "") : describeSecret password = describeSecret password' := by
  simp [describeSecret, h, h']

theorem Login.describe_alike (id : LoginId) (url username : String) {password password' : String}
    (h : password ≠ "") (h' : password' ≠ "") :
    Login.describe ⟨id, url, username, password⟩
      = Login.describe ⟨id, url, username, password'⟩ := by
  unfold Login.describe
  rw [describeSecret_alike h h']

theorem NewLogin.describe_alike (url username : String) {password password' : String}
    (h : password ≠ "") (h' : password' ≠ "") :
    NewLogin.describe ⟨url, username, password⟩ = NewLogin.describe ⟨url, username, password'⟩ := by
  unfold NewLogin.describe
  rw [describeSecret_alike h h']

/-! ## Both front ends -/

/-- What passwords that are not shown have no part in, with these two scripts. -/
structure PasswordsHidden (s s' : Script) : Prop where
  /-- A call that shows no password gives the same client and requests. Its reply reads the same,
  unless it tells of an answer with a login without an identifier. -/
  agent : ∀ (h : Host) (call : AgentCall), call.hides →
    (call.run h s).client = (call.run h s').client
      ∧ (call.run h s).script.sent = (call.run h s').script.sent
      ∧ s.RepliesAlike (call.run h s).reply (call.run h s').reply
  /-- Words that are refused, and those of a command that shows no password, make the program end
  the same, with the same client and requests. It prints the same, unless it tells of such an
  answer. -/
  program : ∀ (words : List String) (env : Environment),
    (∀ i, Invocation.ofWords words = .ok i → i.command.hides) →
    (CommandLine.run words env s).ended = (CommandLine.run words env s').ended
      ∧ (CommandLine.run words env s).client = (CommandLine.run words env s').client
      ∧ (CommandLine.run words env s).script.sent = (CommandLine.run words env s').script.sent
      ∧ s.PrintsAlike (CommandLine.run words env s).prints (CommandLine.run words env s').prints
  /-- Logins with different passwords, neither empty, are described the same. -/
  described : ∀ id url username (password password' : String), password ≠ "" → password' ≠ "" →
    Login.describe ⟨id, url, username, password⟩ = Login.describe ⟨id, url, username, password'⟩
  /-- And so are logins that are to be created. -/
  describedNew : ∀ url username (password password' : String), password ≠ "" → password' ≠ "" →
    NewLogin.describe ⟨url, username, password⟩ = NewLogin.describe ⟨url, username, password'⟩

/-- Passwords that are not shown leave no trace in what either front end does, unless a login has no
identifier. -/
theorem passwords_hidden (s s' : Script) (alike : s.SameButPasswords s') :
    PasswordsHidden s s' where
  agent := by
    intro h call hides
    cases hcomplete : call.isIncomplete with
    | true => simp [AgentCall.run, hcomplete, alike.sent, Script.RepliesAlike]
    | false =>
      cases hconnect : h.connect with
      | error f =>
        cases f <;> simp [AgentCall.run, hcomplete, hconnect, alike.sent, Script.RepliesAlike]
      | ok c =>
        have hperform := AgentCall.perform_alike alike c hides
        simpa [AgentCall.run, hcomplete, hconnect] using hperform.symm
  program := by
    intro words env hides
    cases hwords : Invocation.ofWords words with
    | error stop => simp [CommandLine.run, hwords, alike.sent, Script.PrintsAlike]
    | ok i =>
      cases hconnect : i.connect env with
      | error f => simp [CommandLine.run, hwords, hconnect, alike.sent, Script.PrintsAlike]
      | ok c =>
        have hdone := Command.perform_alike alike c (hides i hwords)
        simp [CommandLine.run, hwords, hconnect, hdone.ended, hdone.prints, hdone.sent]
  described := fun _ _ _ _ _ h h' => Login.describe_alike _ _ _ h h'
  describedNew := fun _ _ _ _ h h' => NewLogin.describe_alike _ _ h h'

/-- Two pages of a login each, with other passwords in the second run. The lists are the same until
the passwords are revealed. -/
theorem passwords_hidden_two_pages :
    let body (id password : String) : List UInt8 :=
      ("\x7b\"Data\":[\x7b\"ID\":" ++ id ++ ",\"Password\":\"" ++ password
        ++ "\"\x7d],\"FilteredData\":2\x7d").toUTF8.data.toList
    let page (id password : String) : Answer := .response ⟨200, body id password⟩
    let s := Script.ofAnswers [page "1" "red", page "2" "blue"]
    let s' := Script.ofAnswers [page "1" "green", page "2" ""]
    let env : Environment :=
      [("GPASS_USERNAME", "me"), ("GPASS_PASSWORD", "mine"), ("GPASS_PAGE_SIZE", "1")]
    PasswordsHidden s s'
      ∧ (CommandLine.run ["list"] env s).prints
        = [⟨.output, .table [["1", "", "", passwordMask], ["2", "", "", passwordMask]]⟩]
      ∧ (CommandLine.run ["list"] env s').prints = (CommandLine.run ["list"] env s).prints
      ∧ (CommandLine.run ["list", "--reveal"] env s').prints
        ≠ (CommandLine.run ["list", "--reveal"] env s).prints := by
  intro body page s s' env
  let value (id : Int) (password : String) : Json := .object
    [("Data", .list [.object [("ID", .integer id), ("Password", .text password)]]),
      ("FilteredData", .integer 2)]
  have hred : Json.decode? (body "1" "red") = some (value 1 "red") := by with_unfolding_all rfl
  have hgreen : Json.decode? (body "1" "green") = some (value 1 "green") := by
    with_unfolding_all rfl
  have hblue : Json.decode? (body "2" "blue") = some (value 2 "blue") := by with_unfolding_all rfl
  have hempty : Json.decode? (body "2" "") = some (value 2 "") := by with_unfolding_all rfl
  have first : (page "1" "red").SameButPasswords (page "1" "green") :=
    .passwords (by decide) hred hgreen rfl
  have second : (page "2" "blue").SameButPasswords (page "2" "") :=
    .passwords (by decide) hblue hempty rfl
  refine ⟨passwords_hidden s s' ⟨.cons first (.cons second .nil), rfl⟩, ?_, ?_, ?_⟩
  · decide +kernel
  · decide +kernel
  · decide +kernel

/-- A row without an identifier is told of with its password, to an agent that lists no passwords
as well as on the error output. -/
theorem password_quoted :
    let body (password : String) : List UInt8 :=
      ("\x7b\"Data\":[\x7b\"Password\":\"" ++ password ++ "\"\x7d]\x7d").toUTF8.data.toList
    let script (password : String) : Script := .ofAnswers [.response ⟨200, body password⟩]
    let env : Environment := [("GPASS_USERNAME", "me"), ("GPASS_PASSWORD", "mine")]
    let told (password : String) : String :=
      "Malformed login envelope: 1 validation error for LoginPage\nData.0.ID\n"
        ++ "  Field required [type=missing, input_value=\x7b'Password': '" ++ password
        ++ "'\x7d, input_type=dict]"
    let reply (password : String) :=
      ((AgentCall.list "" false).run ⟨none, env, none⟩ (script password)).reply
    let prints (password : String) := (CommandLine.run ["list"] env (script password)).prints
    (script "red").SameButPasswords (script "green")
      ∧ (∀ password ∈ ["red", "green"],
        (reply password).map (·.encode.lookup "error") = .ok (some (.text (told password)))
          ∧ prints password = [⟨.error, .text ("[red]Error:[/red] " ++ told password)⟩])
      ∧ (reply "red").map (·.encode) ≠ (reply "green").map (·.encode)
      ∧ prints "red" ≠ prints "green" := by
  intro body script env told reply prints
  let value (password : String) : Json :=
    .object [("Data", .list [.object [("Password", .text password)]])]
  have hred : Json.decode? (body "red") = some (value "red") := by with_unfolding_all rfl
  have hgreen : Json.decode? (body "green") = some (value "green") := by with_unfolding_all rfl
  refine ⟨⟨.cons (.passwords (by decide) hred hgreen rfl) .nil, rfl⟩, ?_, ?_, ?_⟩
  · decide +kernel
  · decide +kernel
  · decide +kernel

end LoginVault
