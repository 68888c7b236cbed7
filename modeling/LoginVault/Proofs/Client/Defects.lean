import LoginVault.Proofs.Paging.Failures
import LoginVault.Proofs.Paging.Reference

/-!
# Client.Defects — what a failure tells of an answer

An answer is spoiled by one of three defects: no response came, its status or its body cannot be
read, or the value in it has not the shape that is expected (`Answer.Has`). An operation on the
store asks until an answer is spoiled or nothing more is to be asked, and its failure tells which
defect the last answer has: a failure of transport has the cause in it, a failure of the protocol
has the status of a response that cannot be read, and none for one of the wrong shape.

Main result: `defects_told`.
-/

namespace LoginVault

/-- What keeps an answer from giving what is expected of it. -/
inductive Defect where
  | unanswered (cause : RequestFault)
  | unreadable (status : Nat)
  | misshapen
  deriving DecidableEq, Repr

/-- Whether a value has not the shape that is expected: it is no object, it should be a page and
has no member for its rows, or its members are refused. -/
inductive Json.Misshapen : Expected → Json → Prop
  | notAnObject {expected : Expected} {v : Json} (other : ∀ ms, v ≠ .object ms) :
      Misshapen expected v
  | dataMissing {ms : Json.Members} (missing : ms.lookup FieldName.data.wire = none) :
      Misshapen .page (.object ms)
  | page {v : Json} {why : Malformed} (refused : LoginPage.decode v = .error why) :
      Misshapen .page v
  | created {v : Json} {why : Malformed} (refused : Login.decode v = .error why) :
      Misshapen .created v

/-- Whether an answer has this defect. -/
inductive Answer.Has (expected : Expected) : Answer → Defect → Prop
  | unanswered (cause : RequestFault) : Has expected (.fault cause) (.unanswered cause)
  | status {r : Response} (failed : ¬ (200 ≤ r.status ∧ r.status < 300)) :
      Has expected (.response r) (.unreadable r.status)
  | notJson {r : Response} (success : 200 ≤ r.status ∧ r.status < 300)
      (undecodable : Json.decode? r.body = none) : Has expected (.response r) (.unreadable r.status)
  | misshapen {r : Response} {v : Json} (success : 200 ≤ r.status ∧ r.status < 300)
      (decoded : Json.decode? r.body = some v) (shape : v.Misshapen expected) :
      Has expected (.response r) .misshapen

/-- Whether a failure after this query tells of this defect. -/
inductive Defect.ToldBy (q : Query) : Defect → Failure → Prop
  | unanswered (cause : RequestFault) :
      ToldBy q (.unanswered cause) (.store (.transport ⟨q, cause⟩))
  | unreadable {f : ProtocolFault} {status : Nat} (tells : f.statusCode? = some status) :
      ToldBy q (.unreadable status) (.store (.protocol f))
  | misshapen {f : ProtocolFault} (tells : f.statusCode? = none) :
      ToldBy q .misshapen (.store (.protocol f))

/-- The method of the request that is answered by what is expected. -/
def Expected.method : Expected → String
  | .page => "GET"
  | .created => "POST"

/-! ## One answer -/

/-- An answer has one defect at most. -/
theorem Answer.Has.unique {expected : Expected} {a : Answer} {d e : Defect}
    (h : a.Has expected d) (k : a.Has expected e) : d = e := by
  cases h with
  | unanswered cause =>
    cases k
    rfl
  | status failed =>
    cases k with
    | status _ => rfl
    | notJson _ _ => rfl
    | misshapen success _ _ => exact absurd success failed
  | notJson success undecodable =>
    cases k with
    | status _ => rfl
    | notJson _ _ => rfl
    | misshapen _ decoded _ => simp [undecodable] at decoded
  | misshapen success decoded shape =>
    cases k with
    | status failed => exact absurd success failed
    | notJson _ undecodable => simp [undecodable] at decoded
    | misshapen _ _ _ => rfl

/-- Whether the result of an answer tells what is the matter with it. -/
def Answer.Diagnosed {α : Type} (a : Answer) (expected : Expected) (q : Query) :
    Except Failure α → Prop
  | .ok _ => ∀ d, ¬ a.Has expected d
  | .error f => ∃ d, a.Has expected d ∧ d.ToldBy q f

section Reading

variable {α : Type} {expected : Expected} {read : Response → Except ProtocolFault α}

/-- What is read from the object in a response, where `check` finds fault with its shape only. -/
structure Expected.ReadBy (expected : Expected) (read : Response → Except ProtocolFault α)
    (check : Json → Except ProtocolFault α) : Prop where
  read : ∀ r, read r = r.value.bind check
  shape : ∀ v, (∃ x, check v = .ok x ∧ ¬ v.Misshapen expected)
    ∨ ∃ f, check v = .error f ∧ f.statusCode? = none ∧ v.Misshapen expected

/-- A response is read as it is: what cannot be read tells its status, and what has the wrong shape
tells none. -/
theorem Expected.ReadBy.diagnosed {check : Json → Except ProtocolFault α}
    (h : expected.ReadBy read check) (r : Response) (q : Query) :
    (Answer.response r).Diagnosed expected q ((Answer.response r).result q read) := by
  simp only [Answer.result, h.read, Response.value]
  by_cases success : 200 ≤ r.status ∧ r.status < 300
  · rw [if_pos (by simpa [Response.isSuccess] using success)]
    cases decoded : Json.decode? r.body with
    | none => exact ⟨_, .notJson success decoded, .unreadable rfl⟩
    | some v =>
      rcases h.shape v with ⟨x, hx, fits⟩ | ⟨f, hf, tells, shape⟩
      · change Answer.Diagnosed _ expected q ((check v).mapError _)
        rw [hx]
        intro d has
        cases has with
        | status failed => exact failed success
        | notJson _ undecodable => simp [decoded] at undecodable
        | misshapen _ decoded' shape =>
          obtain rfl : v = _ := by simpa [decoded] using decoded'
          exact fits shape
      · change Answer.Diagnosed _ expected q ((check v).mapError _)
        rw [hf]
        exact ⟨_, .misshapen success decoded shape, .misshapen tells⟩
  · rw [if_neg (by simpa [Response.isSuccess] using success)]
    exact ⟨_, .status success, .unreadable rfl⟩

/-- An ordinary answer tells what is the matter with it. -/
theorem Answer.IsOrdinary.diagnosed {check : Json → Except ProtocolFault α}
    (h : expected.ReadBy read check) {a : Answer} (ordinary : a.IsOrdinary) (q : Query) :
    a.Diagnosed expected q (a.result q read) := by
  cases a with
  | response r => exact h.diagnosed r q
  | fault cause =>
    cases cause with
    | foreign kind message => exact absurd rfl (ordinary kind message)
    | timedOut stage message => exact ⟨_, .unanswered _, .unanswered _⟩
    | network fault message => exact ⟨_, .unanswered _, .unanswered _⟩

end Reading

theorem page_readBy : Expected.page.ReadBy Response.page Json.pageOf where
  read _ := rfl
  shape v := by
    cases v with
    | object ms =>
      simp only [Json.pageOf, Json.expectObject, bind, Except.bind]
      cases missing : ms.lookup FieldName.data.wire with
      | none => exact Or.inr ⟨_, rfl, rfl, .dataMissing missing⟩
      | some data =>
        cases refused : LoginPage.decode (.object ms) with
        | error why => exact Or.inr ⟨_, rfl, rfl, .page refused⟩
        | ok page =>
          refine Or.inl ⟨page, rfl, fun shape => ?_⟩
          cases shape with
          | notAnObject other => exact other ms rfl
          | dataMissing missing' => simp [missing] at missing'
          | page refused' => simp [refused] at refused'
    | _ => exact Or.inr ⟨_, rfl, rfl, .notAnObject (by simp)⟩

theorem created_readBy : Expected.created.ReadBy Response.created Json.createdOf where
  read _ := rfl
  shape v := by
    cases v with
    | object ms =>
      simp only [Json.createdOf, Json.expectObject, bind, Except.bind]
      cases refused : Login.decode (.object ms) with
      | error why => exact Or.inr ⟨_, rfl, rfl, .created refused⟩
      | ok login =>
        refine Or.inl ⟨login, rfl, fun shape => ?_⟩
        cases shape with
        | notAnObject other => exact other ms rfl
        | created refused' => simp [refused] at refused'
    | _ => exact Or.inr ⟨_, rfl, rfl, .notAnObject (by simp)⟩

/-! ## Whole operations -/

/-- The message of a failure of transport says that time ran out exactly if it did. -/
theorem TransportFault.message_timedOut_iff {t : TransportFault}
    (own : ∀ kind message, t.cause ≠ .foreign kind message) :
    t.message = s!"Request timed out: {t.query.method} {loginsPath}"
      ↔ ∃ stage message, t.cause = .timedOut stage message := by
  rcases t with ⟨q, cause⟩
  cases cause with
  | timedOut stage message => exact ⟨fun _ => ⟨stage, message, rfl⟩, fun _ => rfl⟩
  | foreign kind message => exact absurd rfl (own kind message)
  | network fault message =>
    refine ⟨fun h => ?_, fun ⟨_, _, h⟩ => nomatch h⟩
    -- the two messages differ in their first character
    have hfirst := congrArg (·.toList.head?) h
    have hnetwork : (toString "Network error: ").toList.head? = some 'N' := by decide
    have htimedOut : (toString "Request timed out: ").toList.head? = some 'R' := by decide
    simp [TransportFault.message, hnetwork, htimedOut] at hfirst

/-- Whether a result tells the defects that an answer has, and no others. -/
structure Answer.ToldIn {α : Type} (a : Answer) (expected : Expected)
    (result : Except Failure α) : Prop where
  ends : (∃ x, result = .ok x) ∨ (∃ t, result = .error (.store (.transport t)))
    ∨ ∃ f, result = .error (.store (.protocol f))
  transport : ∀ cause, (∃ q, result = .error (.store (.transport ⟨q, cause⟩)))
    ↔ a.Has expected (.unanswered cause)
  timedOut : ∀ t, result = .error (.store (.transport t)) →
    (t.message = s!"Request timed out: {expected.method} {loginsPath}"
      ↔ ∃ stage message, t.cause = .timedOut stage message)
  status : ∀ code, (∃ f, result = .error (.store (.protocol f)) ∧ f.statusCode? = some code)
    ↔ a.Has expected (.unreadable code)
  shape : (∃ f, result = .error (.store (.protocol f)) ∧ f.statusCode? = none)
    ↔ a.Has expected .misshapen

theorem Answer.Diagnosed.toldIn {α : Type} {a : Answer} {expected : Expected} {q : Query}
    {result : Except Failure α} (diagnosed : a.Diagnosed expected q result)
    (ordinary : a.IsOrdinary) (method : q.method = expected.method) :
    a.ToldIn expected result := by
  cases result with
  | ok x =>
    have hfine : ∀ d, ¬ a.Has expected d := diagnosed
    exact {
      ends := Or.inl ⟨x, rfl⟩
      transport := fun cause => by simp [hfine]
      timedOut := fun t h => nomatch h
      status := fun code => by simp [hfine]
      shape := by simp [hfine] }
  | error f =>
    obtain ⟨d, has, told⟩ := diagnosed
    -- a failure tells of the one defect that the answer has
    have hhas (e : Defect) : a.Has expected e ↔ e = d :=
      ⟨fun h => h.unique has, fun h => h ▸ has⟩
    cases told with
    | unanswered cause =>
      have hown : ∀ kind message, cause ≠ .foreign kind message := by
        rintro kind message rfl
        cases has
        exact ordinary kind message rfl
      refine {
        ends := Or.inr (Or.inl ⟨_, rfl⟩)
        transport := fun cause' => by simp [hhas, eq_comm]
        timedOut := ?_
        status := fun code => by simp [hhas]
        shape := by simp [hhas] }
      rintro _ ⟨⟩
      rw [← method]
      exact TransportFault.message_timedOut_iff hown
    | @unreadable fault status tells =>
      exact {
        ends := Or.inr (Or.inr ⟨_, rfl⟩)
        transport := fun cause => by simp [hhas]
        timedOut := fun t h => nomatch h
        status := fun code => by simp [hhas, tells, eq_comm]
        shape := by simp [hhas, tells] }
    | @misshapen fault tells =>
      exact {
        ends := Or.inr (Or.inr ⟨_, rfl⟩)
        transport := fun cause => by simp [hhas]
        timedOut := fun t h => nomatch h
        status := fun code => by simp [hhas, tells]
        shape := by simp [hhas, tells] }

namespace Script

variable {α : Type}

/-- What an operation on the store does that expects such answers and sends `n` requests. -/
structure DefectsTold (expected : Expected) (s : Script) (n : Nat)
    (r : Except Failure α × Script) : Prop where
  /-- It sends a request at least, and takes one answer for each. -/
  requests : 0 < n ∧ r.2.sent.length = s.sent.length + n ∧ r.2.answers = s.answers.drop n
  /-- It gives a value, or a failure of transport or of the protocol. -/
  ends : (∃ x, r.1 = .ok x) ∨ (∃ t, r.1 = .error (.store (.transport t)))
    ∨ ∃ f, r.1 = .error (.store (.protocol f))
  /-- It fails in transport exactly if a request brought no response, with the same cause. -/
  transport : ∀ cause, (∃ q, r.1 = .error (.store (.transport ⟨q, cause⟩)))
    ↔ ∃ i < n, (s.answer i).Has expected (.unanswered cause)
  /-- The message says that time ran out exactly if it did. -/
  timedOut : ∀ t, r.1 = .error (.store (.transport t)) →
    (t.message = s!"Request timed out: {expected.method} {loginsPath}"
      ↔ ∃ stage message, t.cause = .timedOut stage message)
  /-- It tells a status exactly if a response of this status could not be read. -/
  status : ∀ code, (∃ f, r.1 = .error (.store (.protocol f)) ∧ f.statusCode? = some code)
    ↔ ∃ i < n, (s.answer i).Has expected (.unreadable code)
  /-- It fails without a status exactly if a value had the wrong shape. -/
  shape : (∃ f, r.1 = .error (.store (.protocol f)) ∧ f.statusCode? = none)
    ↔ ∃ i < n, (s.answer i).Has expected .misshapen
  /-- The first answer that is spoiled is the last that is asked for. -/
  stops : ∀ i < n, ∀ d, (s.answer i).Has expected d → i + 1 = n

section Last

variable {expected : Expected} {s : Script} {k : Nat} {r : Except Failure α × Script}

/-- If no answer before the last has a defect, an operation whose result diagnoses the last answer
tells all defects that there are. -/
theorem defectsTold_of_last {q : Query} (method : q.method = expected.method)
    (sent : r.2.sent.length = s.sent.length + (k + 1))
    (answers : r.2.answers = s.answers.drop (k + 1))
    (before : ∀ i < k, ∀ d, ¬ (s.answer i).Has expected d)
    (ordinary : (s.answer k).IsOrdinary) (last : (s.answer k).Diagnosed expected q r.1) :
    DefectsTold expected s (k + 1) r := by
  have hstops : ∀ i < k + 1, ∀ d, (s.answer i).Has expected d → i = k := by
    intro i hi d has
    by_contra hne
    exact before i (by omega) d has
  have hany (d : Defect) : (∃ i < k + 1, (s.answer i).Has expected d)
      ↔ (s.answer k).Has expected d := by
    constructor
    · rintro ⟨i, hi, has⟩
      exact hstops i hi d has ▸ has
    · exact fun has => ⟨k, by omega, has⟩
  have told := last.toldIn ordinary method
  exact {
    requests := ⟨Nat.succ_pos k, sent, answers⟩
    ends := told.ends
    transport := fun cause => (told.transport cause).trans (hany _).symm
    timedOut := told.timedOut
    status := fun code => (told.status code).trans (hany _).symm
    shape := told.shape.trans (hany _).symm
    stops := fun i hi d has => congrArg (· + 1) (hstops i hi d has) }

end Last

variable {s : Script}

theorem IsOrdinary.answer (ordinary : s.IsOrdinary) (i : Nat) : (s.answer i).IsOrdinary := by
  unfold Script.answer
  cases h : s.answers[i]? with
  | none => exact exhausted_isOrdinary
  | some a => exact ordinary a (List.mem_of_getElem? h)

/-- An answer that gives a page has no defect. -/
theorem no_defect_of_page? {i : Nat} {page : LoginPage} (ordinary : s.IsOrdinary)
    (h : s.page? i = some page) : ∀ d, ¬ (s.answer i).Has .page d := by
  have hdiagnosed := (ordinary.answer i).diagnosed page_readBy (.page none 0 0)
  rwa [result_of_page? h] at hdiagnosed

/-- A list tells all defects that there are. -/
theorem IsOrdinary.list_defectsTold (ordinary : s.IsOrdinary) (c : Client)
    (search : Option String) : ∃ n, DefectsTold .page s n (s.list c search) := by
  obtain ⟨k, reaches, last⟩ := s.exists_last search c.config.pageSize
  have hbefore : ∀ i < k, ∀ d, ¬ (s.answer i).Has .page d := by
    intro i hi
    obtain ⟨page, hpage⟩ := Option.isSome_iff_exists.mp (reaches i hi).1
    exact no_defect_of_page? ordinary hpage
  have hsent : (s.after c search k).sent.length = s.sent.length + (k + 1) := by
    simp [after, sentBefore]
  refine ⟨k + 1, ?_⟩
  rcases last with ends | ⟨f, fails⟩
  · rw [list_of_endsAt reaches ends]
    obtain ⟨page, hpage, -⟩ := ends
    exact defectsTold_of_last (q := s.query search c.config.pageSize k) rfl hsent rfl hbefore
      (ordinary.answer k) (no_defect_of_page? ordinary hpage)
  · rw [list_of_failsAt reaches fails]
    have hdiagnosed := (ordinary.answer k).diagnosed page_readBy
      (s.query search c.config.pageSize k)
    rw [fails] at hdiagnosed
    exact defectsTold_of_last (q := s.query search c.config.pageSize k) rfl hsent rfl hbefore
      (ordinary.answer k) hdiagnosed

/-- A creation tells all defects that there are; it sends one request. -/
theorem IsOrdinary.create_defectsTold (ordinary : s.IsOrdinary) (c : Client)
    (record : NewLogin) : DefectsTold .created s 1 (s.create c record) := by
  have hanswer : s.answers.headD (.fault exhausted) = s.answer 0 := by
    cases h : s.answers <;> simp [Script.answer, h]
  refine defectsTold_of_last (k := 0) (q := .create record) rfl ?_ ?_ ?_ (ordinary.answer 0) ?_
  · simp [Script.create, send]
  · simp [Script.create, send]
  · intro i hi
    omega
  · have hdiagnosed := (ordinary.answer 0).diagnosed created_readBy (.create record)
    rwa [← hanswer] at hdiagnosed ⊢

/-- Against ordinary answers every list and every creation gives a value or tells what is the
matter with the last answer, and asks for nothing after an answer that is spoiled. -/
theorem defects_told (c : Client) (s : Script) (ordinary : s.IsOrdinary) :
    (∀ search, ∃ n, DefectsTold .page s n (s.list c search))
      ∧ ∀ record, ∃ n, DefectsTold .created s n (s.create c record) :=
  ⟨ordinary.list_defectsTold c, fun record => ⟨1, ordinary.create_defectsTold c record⟩⟩

/-- The rows of a second page are no list. The list fails without a status then and has sent two
requests; a third is not sent, though an answer to it is at hand. A creation, which the first of
these answers does not suit, fails so after one. -/
theorem defects_told_second_page :
    let client : Client := ⟨⟨"http://localhost:3625", .whole 30, 1, by decide⟩, ""⟩
    let answer (body : String) : Answer := .response ⟨200, body.toUTF8.data.toList⟩
    let s := ofAnswers [answer "\x7b\"Data\":[\x7b\"ID\":1\x7d],\"FilteredData\":2\x7d",
      answer "\x7b\"Data\":7\x7d", .fault (.timedOut .reading "late")]
    ((∀ search, ∃ n, DefectsTold .page s n (s.list client search))
        ∧ ∀ record, ∃ n, DefectsTold .created s n (s.create client record))
      ∧ (s.list client none).2.sent.map (·.query) = [.page none 1 0, .page none 1 1]
      ∧ (s.list client none).1 = .error (.store (.protocol (.malformed .page
          ⟨.page, .object [("Data", .integer 7)], [⟨[.member "Data"], .notList⟩]⟩)))
      ∧ (s.create client ⟨"u", "n", ""⟩).1 = .error (.store (.protocol (.malformed .created
          ⟨.login, .object [("Data", .list [.object [("ID", .integer 1)]]),
            ("FilteredData", .integer 2)], [⟨[.member "ID"], .missing⟩]⟩))) := by
  intro client answer s
  have ordinary : s.IsOrdinary := by
    intro a ha kind message
    obtain rfl | rfl | rfl := by simpa [s, ofAnswers] using ha
    · simp [answer]
    · simp [answer]
    · simp
  refine ⟨defects_told client s ordinary, ?_, ?_, ?_⟩
  · decide +kernel
  · decide +kernel
  · decide +kernel

end Script

end LoginVault
