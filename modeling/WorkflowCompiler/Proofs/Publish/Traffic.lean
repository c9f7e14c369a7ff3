import WorkflowCompiler.Proofs.Publish.Decision
import WorkflowCompiler.Publish.Client

/-!
The traffic of a publication over the web. Each of its three requests is sent at most once and in
order, and what it is answered decides alone, or together with the user, whether there is a next
one and how the publication ends.
-/
namespace WorkflowCompiler.Publish

open Dialogue
open Http (Exchange Transport)
open Json (Value Form)

/-- The requests that have been sent, in order, each with what has come of it. -/
abbrev Traffic := List (Http.Request × Exchange)

def recorded {σ : Type} (transport : Transport σ) : Transport (σ × Traffic) :=
  fun request state =>
    let (outcome, known) := transport request state.1
    (outcome, (known, state.2 ++ [(request, outcome)]))

inductive Purpose
  | listing
  | check
  | submission
  deriving DecidableEq, Repr

/-- What a request is for shows on the wire: profiles are listed by another method, and a check
says what it is where a submission has the envelope. -/
def purposeOf (request : Http.Request) : Purpose :=
  match request.method with
  | .post => .listing
  | .put =>
    if (((request.body.get? "payload").getD .null).members.text? "resource") =
      some "check_dag_exists" then .check else .submission

/-- The request has been answered with a status and a text. -/
inductive Answers : Exchange → Nat → String → Prop
  | intro (status : Nat) (body : List UInt8) :
      Answers (.answered status body) status (Http.bodyText status body)

theorem Answers.status_eq {outcome : Exchange} {status other : Nat} {body text : String}
    (h : Answers outcome status body) (h' : Answers outcome other text) : status = other := by
  cases h
  cases h'
  rfl

/-- The answer to a check lets the deployment be submitted, perhaps because the user agrees. -/
def Permits (agreed : Prop) (outcome : Exchange) : Prop :=
  (∃ body, Answers outcome 404 body) ∨ (∃ body, Answers outcome 200 body) ∧ agreed

namespace Client

variable {σ α : Type} {client : Client} {method : Http.Method} {url : String} {payload : Value}
  {read : Nat × String → Except Failure α}

def urlFor (client : Client) : Purpose → String
  | .listing => client.profilesUrl
  | .check => client.deploymentUrl
  | .submission => client.deploymentUrl

def formFor : Purpose → Form
  | .listing => .list .text
  | .check => .any
  | .submission => .any

def received (url : String) : Exchange → Except Failure (Nat × String)
  | .answered status body => .ok (status, Http.bodyText status body)
  | .cutShort => .error (.network .decode url "error decoding response body")
  | .unreachable =>
    .error (.network .connect url ("error sending request for url (" ++ url ++ ")"))
  | .dropped => .error (.network .request url ("error sending request for url (" ++ url ++ ")"))
  | .timedOut => .error (.network .timeout url ("error sending request for url (" ++ url ++ ")"))

def told (url : String) (read : Nat × String → Except Failure α) :
    Option (Http.Request × Exchange) → Except Failure α
  | none => .error (.network .unknown url "builder error")
  | some x => (received url x.2).bind read

/-- A payload is sent once if it can be sent at all. -/
theorem ask_recorded (client : Client) (transport : Transport σ) (method : Http.Method)
    (url : String) (payload : Value) (read : Nat × String → Except Failure α)
    (state : σ × Traffic) : ∃ sent known,
    client.ask (recorded transport) method url payload read state =
      (told url read sent, (known, state.2 ++ sent.toList)) ∧
    sent.map (·.1) = client.request? method url payload := by
  cases sendable : client.request? method url payload with
  | none =>
    refine ⟨none, state.1, ?_, rfl⟩
    simp only [ask, exchange, sendable, Option.toList_none, List.append_nil]
    rfl
  | some request =>
    refine ⟨some (request, (transport request state.1).1), (transport request state.1).2, ?_, rfl⟩
    simp only [ask, exchange, sendable, recorded]
    cases (transport request state.1).1 <;> rfl

theorem body_of_request? {request : Http.Request}
    (h : client.request? method url payload = some request) :
    request.method = method ∧ request.body = .object [("payload", payload)] := by
  simp only [request?, Option.bind_eq_bind, Option.bind_eq_some_iff] at h
  obtain ⟨target, _, h⟩ := h
  split at h
  · cases h
    exact ⟨rfl, rfl⟩
  · cases h

/-- Whether a payload can be sent does not depend on it. -/
theorem isSome_request? (payload other : Value) :
    (client.request? method url payload).isSome = (client.request? method url other).isSome := by
  unfold request?
  cases Http.Url.parse? url with
  | none => rfl
  | some target =>
    simp only [Option.bind_eq_bind, Option.bind_some]
    split <;> rfl

theorem told_of_answers {x : Http.Request × Exchange} {status : Nat} {body : String}
    (h : Answers x.2 status body) : told url read (some x) = read (status, body) := by
  obtain ⟨request, outcome⟩ := x
  cases h
  rfl

/-- Only an answer has something to tell. -/
theorem told_eq_ok_iff {sent : Option (Http.Request × Exchange)} {a : α} :
    told url read sent = .ok a ↔
      ∃ x ∈ sent, ∃ status body, Answers x.2 status body ∧ read (status, body) = .ok a := by
  constructor
  · intro h
    cases sent with
    | none => cases h
    | some x =>
      obtain ⟨request, outcome⟩ := x
      cases outcome with
      | answered status body => exact ⟨_, rfl, status, _, .intro status body, h⟩
      | cutShort => cases h
      | unreachable => cases h
      | dropped => cases h
      | timedOut => cases h
  · rintro ⟨x, ⟨⟩, status, body, answered, h⟩
    rw [told_of_answers answered, h]

section Reading

variable {form : Form} {status : Nat} {body : String}

theorem successMessage_of_failure (h : isSuccess status = false) :
    successMessage form url (status, body) = .error (.refused status url body) := by
  simp [successMessage, h]

theorem successMessage_of_success (h : isSuccess status = true) :
    successMessage form url (status, body) = message? form url body := by
  simp [successMessage, h]

theorem successMessage_eq_ok_iff {m : Value} : successMessage form url (status, body) = .ok m ↔
    isSuccess status = true ∧ message? form url body = .ok m := by
  cases success : isSuccess status with
  | true => simp [successMessage_of_success success]
  | false => simp [successMessage_of_failure success]

/-- A message that is not understood is an answer that could not be read. -/
theorem message?_eq_error {e : Failure} (h : message? form url body = .error e) :
    ∃ detail, e = .network .decode url detail := by
  rw [message?] at h
  split at h
  · cases h
  · cases h
    exact ⟨_, rfl⟩

theorem existence_absent_iff : existence url (status, body) = .ok .absent ↔ status = 404 := by
  unfold existence
  split
  · next same => exact iff_of_true rfl same
  · next same =>
    have present : ∀ v, (.ok (.present v) : Except Failure Existence) ≠ .ok .absent := by simp
    replace same : status = 200 := same
    split
    · exact iff_of_false (present _) (by omega)
    · exact iff_of_false (present _) (by omega)
  · next _ other _ => exact iff_of_false (by simp) other

theorem existence_present_iff :
    (∃ message, existence url (status, body) = .ok (.present message)) ↔ status = 200 := by
  unfold existence
  split
  · next same =>
    replace same : status = 404 := same
    exact iff_of_false (by simp) (by omega)
  · next same => exact iff_of_true (by split <;> exact ⟨_, rfl⟩) same
  · next _ _ other => exact iff_of_false (by simp) other

theorem existence_of_other (absent : status ≠ 404) (present : status ≠ 200) :
    existence url (status, body) = .error (.refused status url body) := by
  unfold existence
  split
  · next same => exact absurd same absent
  · next same => exact absurd same present
  · rfl

end Reading

/-- Permission shows in what a check tells that may not have been sent. -/
theorem permits_iff (url : String) (agreed : Prop) (checked : Option (Http.Request × Exchange)) :
    (∃ x ∈ checked, Permits agreed x.2) ↔
      let found := told url (existence url) checked
      found = .ok .absent ∨ (∃ message, found = .ok (.present message)) ∧ agreed := by
  have absent : told url (existence url) checked = .ok .absent ↔
      ∃ x ∈ checked, ∃ body, Answers x.2 404 body := by
    simp only [told_eq_ok_iff, existence_absent_iff, exists_and_right, exists_eq_right]
  have present : (∃ message, told url (existence url) checked = .ok (.present message)) ↔
      ∃ x ∈ checked, ∃ body, Answers x.2 200 body := by
    constructor
    · rintro ⟨message, h⟩
      obtain ⟨x, hx, status, body, answered, found⟩ := told_eq_ok_iff.mp h
      obtain rfl := existence_present_iff.mp ⟨message, found⟩
      exact ⟨x, hx, body, answered⟩
    · rintro ⟨x, hx, body, answered⟩
      obtain ⟨message, found⟩ := existence_present_iff.mpr rfl
      exact ⟨message, told_eq_ok_iff.mpr ⟨x, hx, _, body, answered, found⟩⟩
  simp only [absent, present]
  cases checked <;> simp [Permits]

def reply (m : Value) : Value :=
  .object [("payload", .object [("message", m)])]

theorem message?_reply {m : Value} (portable : Json.Portable 125 m) (url : String) :
    message? .any url (reply m).toText = .ok m := by
  let inner : Json.Record := {
    name := "ApiMessage"
    fields := [.needed "message" .any]
    positional := true }
  have said : Json.Takes (inner.form.read 126)
      (Json.write Json.compact (.object [("message", m)])) (.object [("message", m)]) := by
    refine Json.Record.takes_form ?_ (by simp) rfl
    intro member hmember
    rw [List.mem_singleton.mp hmember]
    exact ⟨_, rfl, Json.Form.takes_any portable⟩
  have whole : Json.Takes ((responseForm .any).read Json.depthLimit)
      (Json.write Json.compact (reply m)) (reply m) := by
    refine Json.Record.takes_form ?_ (by simp) rfl
    intro member hmember
    rw [List.mem_singleton.mp hmember]
    exact ⟨_, rfl, said⟩
  have parsed : (responseForm .any).parse (reply m).toText = .ok (reply m) := by
    rw [Form.parse, Value.toText, String.toList_ofList, Json.whole_of_takes whole]
    rfl
  rw [message?, parsed]
  rfl

end Client

section Purposes

variable {request : Http.Request}

theorem purposeOf_listing (method : request.method = .post) : purposeOf request = .listing := by
  rw [purposeOf, method]

theorem purposeOf_inquiry {inquiry : Inquiry} (method : request.method = .put)
    (body : request.body = .object [("payload", inquiry.toValue)]) :
    purposeOf request = .check := by
  rw [purposeOf, method, body]
  rfl

/-- The envelope in opaque form is not taken for the name of a check, which is no base64. -/
theorem purposeOf_submission {r : Request} {envelope : Envelope} {profile : String}
    (method : request.method = .put)
    (body : request.body = .object [("payload", (r.submission envelope profile).toValue)]) :
    purposeOf request = .submission := by
  have apart : Opaque.encode envelope.toValue ≠ "check_dag_exists" := by
    intro same
    have decoded := Opaque.bytes_encode envelope.toValue
    rw [same] at decoded
    have undecodable : Text.Base64.decode "check_dag_exists".toList = none := by decide
    rw [Opaque.bytes, undecodable] at decoded
    cases decoded
  rw [purposeOf, method, body]
  have resource : (((Value.object [("payload", (r.submission envelope profile).toValue)]).get?
      "payload").getD .null).members.text? "resource" = some (Opaque.encode envelope.toValue) := rfl
  simp only [resource, Option.some.injEq, apart, if_false]

end Purposes

/-- The traffic of a publication and how it ends: what has been sent of the three requests, and what
the answers lead to. -/
structure Conducted (client : Client) (agreed : Prop) (result : Except Failure Outcome)
    (listed checked submitted : Option (Http.Request × Exchange)) : Prop where
  listing : ∀ x ∈ listed, purposeOf x.1 = .listing
  check : ∀ x ∈ checked, purposeOf x.1 = .check
  submission : ∀ x ∈ submitted, purposeOf x.1 = .submission
  submits : submitted.isSome = true ↔ ∃ x ∈ checked, Permits agreed x.2
  unlisted : ∀ x ∈ listed, ∀ status body e, Answers x.2 status body →
    Client.successMessage (.list .text) client.profilesUrl (status, body) = .error e →
    result = .error e
  refused : ∀ x ∈ checked, ∀ status body e, Answers x.2 status body →
    Client.existence client.deploymentUrl (status, body) = .error e → result = .error e
  unsubmitted : ∀ x ∈ submitted, ∀ status body e, Answers x.2 status body →
    Client.successMessage .any client.deploymentUrl (status, body) = .error e → result = .error e
  published : ∀ shown, result = .ok (.published shown) ↔
    ∃ x ∈ submitted, ∃ status body m, Answers x.2 status body ∧
      Client.successMessage .any client.deploymentUrl (status, body) = .ok m ∧
      shown = Client.shownMessage m

section Phases

variable {σ : Type} (client : Client) (transport : Transport σ) (request : Request)

/-- A profile is obtained with at most one request, the answer to which has to be understood. -/
theorem traffic_obtainProfile (c : Course (σ × Traffic)) :
    let ended := run (obtainProfile (client.service (recorded transport)) request) c
    ∃ listed : Option (Http.Request × Exchange),
      ended.2.service.2 = c.service.2 ++ listed.toList ∧
      (∀ x ∈ listed, purposeOf x.1 = .listing) ∧
      ∀ x ∈ listed, ∀ status body e, Answers x.2 status body →
        Client.successMessage (.list .text) client.profilesUrl (status, body) = .error e →
        ended.1 = .error e := by
  intro ended
  simp only [ended, obtainProfile]
  cases request.statedProfile with
  | some profile =>
    exact ⟨none, (List.append_nil _).symm, by simp, by simp⟩
  | none =>
    simp only [run_bind, run_call, Client.service]
    obtain ⟨listed, known, asked, sent⟩ := Client.ask_recorded client transport .post client.profilesUrl
      (.object [("uid", .text request.user)]) _ c.service
    rw [asked]
    refine ⟨listed, ?_, ?_, ?_⟩
    · generalize Client.told client.profilesUrl _ listed = answer
      cases answer with
      | error e => rfl
      | ok profiles => exact congrArg Prod.snd (quiet_chooseProfile profiles _).1
    · rintro x ⟨⟩
      obtain ⟨method, _⟩ := Client.body_of_request? sent.symm
      exact purposeOf_listing method
    · rintro x ⟨⟩ status body e answered failed
      rw [Client.told_of_answers answered, failed]
      rfl

/-- Permission comes with a check that is answered well, and nothing but a check is sent for it. -/
theorem traffic_permission (profile : String) (c : Course (σ × Traffic)) :
    let ended := run (permission (client.service (recorded transport)) request profile) c
    let agreed := request.assumeYes = true ∨ ∃ last, Decides yesOrNo? c.console true last
    ∃ checked : Option (Http.Request × Exchange),
      ended.2.service.2 = c.service.2 ++ checked.toList ∧
      checked.map (·.1) = client.request? .put client.deploymentUrl
        (request.inquiry profile).toValue ∧
      (ended.1 = .ok true ↔ ∃ x ∈ checked, Permits agreed x.2) ∧
      ∀ x ∈ checked, ∀ status body e, Answers x.2 status body →
        Client.existence client.deploymentUrl (status, body) = .error e → ended.1 = .error e := by
  intro ended agreed
  obtain ⟨checked, known, asked, sent⟩ := Client.ask_recorded client transport .put
    client.deploymentUrl (request.inquiry profile).toValue
    (Client.existence client.deploymentUrl) c.service
  have heard : (client.service (recorded transport)).check (request.inquiry profile) c.service =
      _ := asked
  refine ⟨checked, ?_, sent, ?_, ?_⟩
  · rw [service_permission, heard]
  · rw [run_permission_iff, heard]
    exact (Client.permits_iff _ _ _).symm
  · rintro x ⟨⟩ status body e answered failed
    refine run_permission_of_error ?_
    rw [heard, Client.told_of_answers answered, failed]

end Phases

/-- What is shown after a submission that may not have been sent. -/
def Client.submitted (client : Client) (sent : Option (Http.Request × Exchange)) :
    Except Failure String :=
  Client.told client.deploymentUrl (fun answer => do
    .ok (Client.shownMessage (← Client.successMessage .any client.deploymentUrl answer))) sent

section Endings

variable {σ : Type} {client : Client} {transport : Transport σ} {request : Request}
  {agreed : Prop} {c c₁ c₂ : Course (σ × Traffic)} {profile : String}
  {listed checked submitted : Option (Http.Request × Exchange)}

theorem submitted_eq_ok_iff {shown : String} :
    client.submitted submitted = .ok shown ↔
      ∃ x ∈ submitted, ∃ status body m, Answers x.2 status body ∧
        Client.successMessage .any client.deploymentUrl (status, body) = .ok m ∧
        shown = Client.shownMessage m := by
  have understood : ∀ answer, (do
      let m ← Client.successMessage .any client.deploymentUrl answer
      Except.ok (Client.shownMessage m)) = .ok shown ↔
      ∃ m, Client.successMessage .any client.deploymentUrl answer = .ok m ∧
        shown = Client.shownMessage m := by
    intro answer
    rw [bind_eq_ok_iff]
    simp only [Except.ok.injEq, @eq_comm _ shown]
  simp only [Client.submitted, Client.told_eq_ok_iff, understood, exists_and_left]

/-- Without a profile nothing but the listing is sent. -/
theorem conducted_without_profile {e : Failure}
    (obtained : run (obtainProfile (client.service (recorded transport)) request) c =
      (.error e, c₁)) :
    ∃ listed, c₁.service.2 = c.service.2 ++ listed.toList ∧
      Conducted client agreed (.error e) listed none none := by
  obtain ⟨listed, sent, listing, unlisted⟩ := traffic_obtainProfile client transport request c
  rw [obtained] at sent unlisted
  refine ⟨listed, sent, {
    listing
    check := by simp
    submission := by simp
    submits := by simp
    unlisted := ?_
    refused := by simp
    unsubmitted := by simp
    published := by simp }⟩
  intro x hx status body other answered failed
  rw [Except.error.inj (unlisted x hx status body other answered failed)]

/-- The traffic up to the answer to the question whether to submit: a profile has been obtained, and
the answer follows from the check. -/
structure Inquired (client : Client) (agreed : Prop) (inquiry : Value)
    (answer : Except Failure Bool) (listed checked : Option (Http.Request × Exchange)) : Prop where
  listing : ∀ x ∈ listed, purposeOf x.1 = .listing
  check : ∀ x ∈ checked, purposeOf x.1 = .check
  listedWell : ∀ x ∈ listed, ∀ status body e, Answers x.2 status body →
    Client.successMessage (.list .text) client.profilesUrl (status, body) ≠ .error e
  sent : checked.map (·.1) = client.request? .put client.deploymentUrl inquiry
  permits : answer = .ok true ↔ ∃ x ∈ checked, Permits agreed x.2
  refused : ∀ x ∈ checked, ∀ status body e, Answers x.2 status body →
    Client.existence client.deploymentUrl (status, body) = .error e → answer = .error e

theorem inquired_of_obtained
    (obtained : run (obtainProfile (client.service (recorded transport)) request) c =
      (.ok profile, c₁)) :
    let agreed := request.assumeYes = true ∨ ∃ last, Decides yesOrNo? c₁.console true last
    let asked := run (permission (client.service (recorded transport)) request profile) c₁
    ∃ listed checked : Option (Http.Request × Exchange),
      asked.2.service.2 = c.service.2 ++ listed.toList ++ checked.toList ∧
      Inquired client agreed (request.inquiry profile).toValue asked.1 listed checked := by
  intro agreed asked
  obtain ⟨listed, sentListing, listing, unlisted⟩ :=
    traffic_obtainProfile client transport request c
  obtain ⟨checked, sentCheck, sent, permits, refused⟩ :=
    traffic_permission client transport request profile c₁
  rw [obtained] at sentListing unlisted
  refine ⟨listed, checked, by rw [sentCheck, sentListing], {
    listing
    check := ?_
    listedWell := ?_
    sent
    permits
    refused }⟩
  · rintro x ⟨⟩
    obtain ⟨method, body⟩ := Client.body_of_request? sent.symm
    exact purposeOf_inquiry method body
  · intro x hx status body e answered failed
    cases unlisted x hx status body e answered failed

/-- Without permission a publication ends as the question whether to submit did. -/
theorem Inquired.without_submission {inquiry : Value} {answer : Except Failure Bool}
    {result : Except Failure Outcome} (h : Inquired client agreed inquiry answer listed checked)
    (unpermitted : answer ≠ .ok true) (same : ∀ e, answer = .error e → result = .error e)
    (unpublished : ∀ shown, result ≠ .ok (.published shown)) :
    Conducted client agreed result listed checked none where
  listing := h.listing
  check := h.check
  submission := by simp
  submits := iff_of_false (by simp) (mt h.permits.mpr unpermitted)
  unlisted := fun x hx status body e answered failed =>
    absurd failed (h.listedWell x hx status body e answered)
  refused := fun x hx status body e answered failed =>
    same e (h.refused x hx status body e answered failed)
  unsubmitted := by simp
  published := fun shown => iff_of_false (unpublished shown) (by simp)

/-- With permission what the submission tells is published. -/
theorem Inquired.with_submission {inquiry : Value} {envelope : Envelope}
    (h : Inquired client agreed inquiry (.ok true) listed checked)
    (sent : submitted.map (·.1) = client.request? .put client.deploymentUrl
      (request.submission envelope profile).toValue) :
    Conducted client agreed ((client.submitted submitted).map .published) listed checked
      submitted where
  listing := h.listing
  check := h.check
  submission := by
    rintro x ⟨⟩
    obtain ⟨method, body⟩ := Client.body_of_request? sent.symm
    exact purposeOf_submission method body
  submits := by
    have permitted := h.permits.mp rfl
    refine iff_of_true ?_ permitted
    -- whether a request can be sent does not depend on its body
    obtain ⟨x, rfl, _⟩ := permitted
    rw [← Option.isSome_map (f := (·.1)), sent, Client.isSome_request? _ inquiry, ← h.sent]
    rfl
  unlisted := fun x hx status body e answered failed =>
    absurd failed (h.listedWell x hx status body e answered)
  refused := fun x hx status body e answered failed => by
    cases h.refused x hx status body e answered failed
  unsubmitted := by
    rintro x ⟨⟩ status body e answered failed
    rw [Client.submitted, Client.told_of_answers answered, failed]
    rfl
  published := by
    intro shown
    rw [← submitted_eq_ok_iff]
    cases client.submitted submitted <;> simp [Except.map]

/-- A publication that has a profile inquires about it and ends by what it is told and what the user
replies. -/
theorem conducted_of_obtained {files : Files.Tree} {envelope : Envelope}
    (made : Envelope.ofSpec files request.deployable.spec = .ok envelope)
    (obtained : run (obtainProfile (client.service (recorded transport)) request) c =
      (.ok profile, c₁)) :
    let final := run (publishArtifacts files (client.service (recorded transport)) request) c
    let agreed := request.assumeYes = true ∨ ∃ last, Decides yesOrNo? c₁.console true last
    ∃ listed checked submitted,
      final.2.service.2 =
        c.service.2 ++ (listed.toList ++ checked.toList ++ submitted.toList) ∧
      Conducted client agreed final.1 listed checked submitted ∧
      checked.map (·.1) =
        client.request? .put client.deploymentUrl (request.inquiry profile).toValue := by
  intro final agreed
  have course : final = _ :=
    run_publishArtifacts files (client.service (recorded transport)) request c
  obtain ⟨listed, checked, sent, inquired⟩ := inquired_of_obtained obtained
  rcases asked : run (permission (client.service (recorded transport)) request profile) c₁ with
    ⟨e | _ | _, c₂⟩
  all_goals
    rw [asked] at sent inquired
    simp only [obtained, asked] at course
  · rw [course]
    exact ⟨listed, checked, none, by simpa using sent,
      inquired.without_submission (by simp) (by simp) (by simp), inquired.sent⟩
  · rw [course]
    exact ⟨listed, checked, none, by simpa using sent,
      inquired.without_submission (by simp) (by simp) (by simp), inquired.sent⟩
  · obtain ⟨submitted, known, told, sentSubmission⟩ := Client.ask_recorded client transport .put
      client.deploymentUrl (request.submission envelope profile).toValue
      (fun answer => do
        .ok (Client.shownMessage (← Client.successMessage .any client.deploymentUrl answer)))
      c₂.service
    have heard : (client.service (recorded transport)).submit
        (request.submission envelope profile) c₂.service = _ := told
    simp only [made, run_call, heard] at course
    rw [course]
    refine ⟨listed, checked, submitted, ?_, inquired.with_submission sentSubmission,
      inquired.sent⟩
    rw [← List.append_assoc, ← List.append_assoc, ← sent]

/-- A publication of what has been made is conducted by the answers and by the user. -/
theorem conducted_of_publishArtifacts {files : Files.Tree} {envelope : Envelope}
    {options : Options} {build : Script.Build}
    (made : Envelope.ofSpec files build.requested.spec = .ok envelope)
    (c : Course (σ × Traffic)) :
    let final := run (publishArtifacts files (client.service (recorded transport))
      (options.request build)) c
    ∃ listed checked submitted,
      final.2.service.2 =
        c.service.2 ++ (listed.toList ++ checked.toList ++ submitted.toList) ∧
      Conducted client
        (options.assumeYes = true ∨
          Confirmed (client.service (recorded transport)) options c.service c.console)
        final.1 listed checked submitted ∧
      ∀ profile known between, Chosen (client.service (recorded transport)) options c.service
          c.console profile known between →
        checked.map (·.1) = client.request? .put client.deploymentUrl
          ((options.request build).inquiry profile).toValue := by
  intro final
  rcases obtained : run (obtainProfile (client.service (recorded transport))
    (options.request build)) c with ⟨e | profile, c₁⟩
  · obtain ⟨listed, sent, conducted⟩ := conducted_without_profile obtained
    have course : final = (.error e, c₁) := by
      simp only [final, run_publishArtifacts, obtained]
    rw [course]
    refine ⟨listed, none, none, by simpa using sent, conducted, ?_⟩
    intro profile known between chosen
    cases (chosen.unique_of_run obtained).1
  · have made' : Envelope.ofSpec files (options.request build).deployable.spec = .ok envelope := made
    obtain ⟨listed, checked, submitted, sent, conducted, inquired⟩ :=
      conducted_of_obtained made' obtained
    rw [← confirmed_iff obtained] at conducted
    refine ⟨listed, checked, submitted, sent, conducted, ?_⟩
    intro other known between chosen
    cases (chosen.unique_of_run obtained).1
    exact inquired

end Endings

/-- A publication is conducted by the answers and by the user, also where nothing can be made. -/
theorem conducted_of_publish {σ : Type} (files : Files.Tree) (path : String) (client : Client)
    (transport : Transport σ) (options : Options) (state : σ) (console : Console) :
    let service := client.service (recorded transport)
    let final := run (publish files path service options) ⟨(state, []), console, []⟩
    ∃ listed checked submitted,
      final.2.service.2 = listed.toList ++ checked.toList ++ submitted.toList ∧
      Conducted client
        (options.assumeYes = true ∨ Confirmed service options (state, []) console)
        final.1 listed checked submitted ∧
      ∀ build, Script.build files path .deployable [] = .ok build → ∀ profile known between,
        Chosen service options (state, []) console profile known between →
        checked.map (·.1) = client.request? .put client.deploymentUrl
          ((options.request build).inquiry profile).toValue := by
  intro service final
  cases built : Script.build files path .deployable [] with
  | error e =>
    have same : final = (.error (.build e), ⟨(state, []), console, []⟩) := by
      simp only [final, publish, built, run_throw]
    rw [same]
    refine ⟨none, none, none, rfl, ?_, by simp⟩
    constructor <;> simp
  | ok build =>
    obtain ⟨envelope, made⟩ := exists_envelope_of_build built
    have same : final = run (publishArtifacts files service (options.request build))
        ⟨(state, []), console, []⟩ := by
      simp only [final, publish, built]
      rfl
    obtain ⟨listed, checked, submitted, sent, conducted, check⟩ :=
      @conducted_of_publishArtifacts _ client transport _ _ options _ made
        ⟨(state, []), console, []⟩
    rw [same]
    refine ⟨listed, checked, submitted, by simpa using sent, conducted, ?_⟩
    rintro _ ⟨⟩
    exact check

section Conduct

variable {client : Client} {agreed : Prop} {result : Except Failure Outcome} {traffic : Traffic}
  {listed checked submitted : Option (Http.Request × Exchange)}

/-- What is on the wire is known by its purpose. -/
theorem Conducted.mem_iff (h : Conducted client agreed result listed checked submitted)
    (same : traffic = listed.toList ++ checked.toList ++ submitted.toList)
    (x : Http.Request × Exchange) :
    (x ∈ listed ↔ x ∈ traffic ∧ purposeOf x.1 = .listing) ∧
    (x ∈ checked ↔ x ∈ traffic ∧ purposeOf x.1 = .check) ∧
    (x ∈ submitted ↔ x ∈ traffic ∧ purposeOf x.1 = .submission) := by
  have listing := h.listing x
  have check := h.check x
  have submission := h.submission x
  simp only [same, List.mem_append, Option.mem_toList]
  generalize purposeOf x.1 = purpose at listing check submission ⊢
  cases purpose <;> simp_all

theorem Conducted.in_order (h : Conducted client agreed result listed checked submitted) :
    ((listed.toList ++ checked.toList ++ submitted.toList).map (purposeOf ·.1)).Sublist
      [.listing, .check, .submission] := by
  have each : ∀ (sent : Option (Http.Request × Exchange)) (purpose : Purpose),
      (∀ x ∈ sent, purposeOf x.1 = purpose) →
      (sent.toList.map (purposeOf ·.1)).Sublist [purpose] := by
    intro sent purpose known
    cases sent with
    | none => exact List.nil_sublist _
    | some x =>
      rw [Option.toList_some, List.map_singleton, known x rfl]
  rw [List.map_append, List.map_append]
  exact ((each listed .listing h.listing).append (each checked .check h.check)).append
    (each submitted .submission h.submission)

theorem Conducted.submits_iff (h : Conducted client agreed result listed checked submitted)
    (same : traffic = listed.toList ++ checked.toList ++ submitted.toList) :
    (∃ x ∈ traffic, purposeOf x.1 = .submission) ↔
      ∃ x ∈ traffic, purposeOf x.1 = .check ∧ Permits agreed x.2 := by
  have sent : submitted.isSome = true ↔ ∃ x, x ∈ submitted := Option.isSome_iff_exists
  have submits := h.submits
  simp only [sent, (h.mem_iff same _).2.1, (h.mem_iff same _).2.2, and_assoc] at submits
  exact submits

/-- A check that is answered neither with 404 nor with 200 ends a publication. -/
theorem Conducted.ends_of_check (h : Conducted client agreed result listed checked submitted)
    (same : traffic = listed.toList ++ checked.toList ++ submitted.toList)
    {x : Http.Request × Exchange} (sent : x ∈ traffic) (purpose : purposeOf x.1 = .check)
    {status : Nat} {body : String} (answered : Answers x.2 status body) (absent : status ≠ 404)
    (present : status ≠ 200) :
    result = .error (.refused status client.deploymentUrl body) ∧ traffic.getLast? = some x := by
  have inquired : x ∈ checked := (h.mem_iff same x).2.1.mpr ⟨sent, purpose⟩
  refine ⟨h.refused x inquired status body _ answered (Client.existence_of_other absent present), ?_⟩
  have unsubmitted : submitted = none := by
    rw [← Option.not_isSome_iff_eq_none, h.submits]
    rintro ⟨y, hy, permits⟩
    obtain rfl : x = y := Option.mem_unique inquired hy
    rcases permits with ⟨_, well⟩ | ⟨⟨_, well⟩, _⟩
    · exact absent (answered.status_eq well)
    · exact present (answered.status_eq well)
  rw [same, unsubmitted, Option.mem_def.mp inquired]
  simp

theorem Client.isSuccess_iff {status : Nat} :
    Client.isSuccess status = true ↔ 200 ≤ status ∧ status < 300 := by
  simp [Client.isSuccess]

theorem Conducted.published_iff (h : Conducted client agreed result listed checked submitted)
    (same : traffic = listed.toList ++ checked.toList ++ submitted.toList) (shown : String) :
    result = .ok (.published shown) ↔
      ∃ x ∈ traffic, purposeOf x.1 = .submission ∧ ∃ status body m, Answers x.2 status body ∧
        200 ≤ status ∧ status < 300 ∧
        Client.message? .any client.deploymentUrl body = .ok m ∧ shown = Client.shownMessage m := by
  rw [h.published]
  simp only [(h.mem_iff same _).2.2, and_assoc, Client.successMessage_eq_ok_iff,
    Client.isSuccess_iff]

/-- An answer to a listing or a submission that gives no message ends a publication. -/
theorem Conducted.ends_of_failure (h : Conducted client agreed result listed checked submitted)
    (same : traffic = listed.toList ++ checked.toList ++ submitted.toList)
    {x : Http.Request × Exchange} (sent : x ∈ traffic) (purpose : purposeOf x.1 ≠ .check)
    {status : Nat} {body : String} (answered : Answers x.2 status body) {e : Failure}
    (failed : Client.successMessage (Client.formFor (purposeOf x.1)) (client.urlFor (purposeOf x.1))
      (status, body) = .error e) : result = .error e := by
  obtain ⟨onListing, -, onSubmission⟩ := h.mem_iff same x
  cases kind : purposeOf x.1 with
  | listing =>
    rw [kind] at failed
    exact h.unlisted x (onListing.mpr ⟨sent, kind⟩) status body e answered failed
  | check => exact absurd kind purpose
  | submission =>
    rw [kind] at failed
    exact h.unsubmitted x (onSubmission.mpr ⟨sent, kind⟩) status body e answered failed

/-- Such an answer is a refusal, or it stands for success and is not understood. -/
theorem Conducted.ends_unsuccessfully
    (h : Conducted client agreed result listed checked submitted)
    (same : traffic = listed.toList ++ checked.toList ++ submitted.toList)
    {x : Http.Request × Exchange} (sent : x ∈ traffic) (purpose : purposeOf x.1 ≠ .check)
    {status : Nat} {body : String} (answered : Answers x.2 status body) :
    (¬(200 ≤ status ∧ status < 300) →
      result = .error (.refused status (client.urlFor (purposeOf x.1)) body)) ∧
    (200 ≤ status ∧ status < 300 → ∀ e, Client.message? (Client.formFor (purposeOf x.1))
        (client.urlFor (purposeOf x.1)) body = .error e →
      result = .error e ∧ ∃ detail, e = .network .decode (client.urlFor (purposeOf x.1)) detail) := by
  rw [← Client.isSuccess_iff]
  refine ⟨fun outside => ?_, fun inside e undecoded => ?_⟩
  · refine h.ends_of_failure same sent purpose answered ?_
    exact Client.successMessage_of_failure (Bool.eq_false_iff.mpr outside)
  · have failed := (Client.successMessage_of_success inside).trans undecoded
    exact ⟨h.ends_of_failure same sent purpose answered failed, Client.message?_eq_error undecoded⟩

end Conduct

end WorkflowCompiler.Publish
