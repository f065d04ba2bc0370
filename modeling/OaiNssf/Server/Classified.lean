import OaiNssf.Availability.Store
import OaiNssf.Server.Published

/-!
# Success and failure of an answer

Three layers look at `http_code`: the handler that sets it, the wrapper in `nssf_app`,
which fills the problem details on status 403 alone, and the server, which chooses the
body and the content type. A status that only one of them knows about is answered with
problem details that are empty, or that a success does not have.

* `registration_accountsFor_iff`, `pduSession_accountsFor_iff`: when the state a handler
  leaves has a status and problem details that go together;
* `responses_classified_iff`: when the answers of each operation are classified by their
  status.
-/

namespace OaiNssf

open SliceSelect SliceAvail

variable {C : Common} {cfg : NssfConfig} {tai : Tai} {home : PlmnId}

/-! ## Classified answers -/

/-- The body is a `ProblemDetails`. -/
def Body.isProblemDetails : Body → Bool
  | .problemDetails _ => true
  | _ => false

/-- The status field of a `ProblemDetails`. -/
def Body.problemStatus : Body → Option ℤ
  | .problemDetails details => details.status
  | _ => none

/-- A success carries no `ProblemDetails`, under neither body nor content type, and
    nothing at all with status 204. A failure carries one with its status. -/
def Classified (reply : Reply) : Prop :=
  (200 ≤ reply.code → reply.code < 300 →
    reply.body.isProblemDetails = false ∧
      reply.contentType ≠ some "application/problem+json" ∧
      (reply.code = HttpStatusCode.noContent → reply.body = .empty)) ∧
  (400 ≤ reply.code → reply.code < 600 → reply.body.problemStatus = some reply.code)

instance (reply : Reply) : Decidable (Classified reply) := inferInstanceAs (Decidable (_ ∧ _))

/-- All answers among the actions are classified. -/
def AllClassified (actions : List Action) : Prop := ∀ reply ∈ replies actions, Classified reply

instance (actions : List Action) : Decidable (AllClassified actions) :=
  inferInstanceAs (Decidable (∀ reply ∈ replies actions, Classified reply))

theorem allClassified_send_iff {code : ℤ} {contentType : Option String} {body : Body} :
    AllClassified [.send code contentType body] ↔ Classified ⟨code, contentType, body⟩ :=
  List.forall_mem_singleton

theorem allClassified_headEnd_iff {code : ℤ} {contentType : Option String} {body : Body} :
    AllClassified [.writeHead code contentType, .endWith body] ↔
      Classified ⟨code, contentType, body⟩ :=
  List.forall_mem_singleton

/-- The body is missing where a failure should carry its details. -/
theorem not_classified_of_failure {code : ℤ} {contentType : Option String} {body : Body}
    (hlow : 400 ≤ code) (hhigh : code < 600) (hbody : body.problemStatus ≠ some code) :
    ¬Classified ⟨code, contentType, body⟩ := by
  intro h
  exact hbody (h.2 hlow hhigh)

/-! ## The state the selection handlers leave -/

namespace App

/-- The problem details say what the status says: 200 is the only success, and a failure
    has its status there. -/
def SelectionState.AccountsFor (st : SelectionState) : Prop :=
  (200 ≤ st.httpCode → st.httpCode < 300 → st.httpCode = HttpStatusCode.ok) ∧
    (400 ≤ st.httpCode → st.httpCode < 600 → st.problemDetails.status = some st.httpCode)

theorem accountsFor_of_zero {st : SelectionState} (h : st.httpCode = 0) : st.AccountsFor := by
  unfold SelectionState.AccountsFor
  omega

theorem accountsFor_of_ok {st : SelectionState} (h : st.httpCode = HttpStatusCode.ok) :
    st.AccountsFor := by
  have hcode : st.httpCode = 200 := h
  refine ⟨fun _ _ => h, ?_⟩
  intro hlow
  omega

theorem accountsFor_of_forbidden {st : SelectionState}
    (h : st.httpCode = HttpStatusCode.forbidden)
    (hstatus : st.problemDetails.status = some HttpStatusCode.forbidden) : st.AccountsFor := by
  have hcode : st.httpCode = 403 := h
  refine ⟨?_, ?_⟩
  · intro _ hhigh
    omega
  · intro _ _
    rw [hstatus, h]

theorem not_accountsFor {st : SelectionState} (hlow : 400 ≤ st.httpCode)
    (hhigh : st.httpCode < 600) (hstatus : st.problemDetails.status = none) :
    ¬st.AccountsFor := by
  intro h
  have hsome := h.2 hlow hhigh
  rw [hstatus] at hsome
  cases hsome

/-- A server that sends the state, and not under the content type of a problem with
    status 200, classifies it exactly when the problem details account for the status. -/
theorem classified_state_iff {st : SelectionState} {contentType : Option String}
    (htype : st.httpCode = HttpStatusCode.ok →
      contentType ≠ some "application/problem+json") :
    Classified ⟨st.httpCode, contentType, st.body⟩ ↔ st.AccountsFor := by
  unfold Classified SelectionState.body
  by_cases hok : st.httpCode = HttpStatusCode.ok
  · refine iff_of_true ?_ (accountsFor_of_ok hok)
    rw [hok, if_pos rfl]
    have hne : (200 : ℤ) ≠ 204 := by omega
    have hlt : ¬(400 : ℤ) ≤ 200 := by omega
    exact ⟨fun _ _ => ⟨rfl, htype hok, fun h => absurd h hne⟩, fun hlow => absurd hlow hlt⟩
  · rw [if_neg hok]
    unfold SelectionState.AccountsFor
    simp [hok, Body.isProblemDetails, Body.problemStatus]

/-- No problem details have been written, and the status is not the one they are written
    for. -/
structure SelectionState.WithoutDetails (st : SelectionState) : Prop where
  problemDetails : st.problemDetails = {}
  httpCode : st.httpCode ≠ HttpStatusCode.forbidden

theorem withoutDetails_fresh : ({} : SelectionState).WithoutDetails :=
  ⟨rfl, show (0 : ℤ) ≠ 403 by omega⟩

/-- An exit that leaves the status and the answer leaves the state. -/
theorem selectionExit_of_unchanged {st : SelectionState} (hst : st.WithoutDetails)
    (result : Bool) :
    selectionExit ⟨result, st.httpCode, st.authSliceInfo⟩ st.problemDetails = st := by
  unfold selectionExit
  simp [hst.httpCode]

/-- The registration handler leaves details that account for its status when the request
    is in its scope and it sets the status, or was called with such a state. -/
theorem registration_accountsFor_iff {st : SelectionState} (hst : st.WithoutDetails)
    (si : SliceInfoForRegistration) (features : String) (httpVersion : ℕ) :
    (handleSliceInfoForRegistration C cfg si tai home features httpVersion st).AccountsFor ↔
      InScope si home ∧ (RegistrationDecided cfg si tai home ∨ st.AccountsFor) := by
  obtain ⟨v, hv⟩ := exists_registrationDecides C cfg si tai home
  have hdecided := hv.decided_iff
  rw [registration_eq hv]
  cases hv with
  | notSupported hscope =>
    refine iff_of_false ?_ fun h => hscope h.1
    refine not_accountsFor (show (400 : ℤ) ≤ 503 by omega) (show (503 : ℤ) < 600 by omega) ?_
    rw [hst.problemDetails]
    rfl
  | taNotAuthorised hscope =>
    have hnot : ¬RegistrationDecided cfg si tai home := fun h => hdecided.mp h trivial
    rw [RegistrationVerdict.outcome, selectionExit_of_unchanged hst, and_iff_right hscope,
      or_iff_right hnot]
  | undecided hscope =>
    have hnot : ¬RegistrationDecided cfg si tai home := fun h => hdecided.mp h trivial
    rw [RegistrationVerdict.outcome, selectionExit_of_unchanged hst, and_iff_right hscope,
      or_iff_right hnot]
  | notInPlmn hscope =>
    exact iff_of_true (accountsFor_of_forbidden rfl rfl) ⟨hscope, Or.inl (hdecided.mpr id)⟩
  | noAmfSet hscope =>
    exact iff_of_true (accountsFor_of_forbidden rfl rfl) ⟨hscope, Or.inl (hdecided.mpr id)⟩
  | granted hscope =>
    exact iff_of_true (accountsFor_of_ok rfl) ⟨hscope, Or.inl (hdecided.mpr id)⟩

/-- The PDU-session handler does when it grants the request. -/
theorem pduSession_accountsFor_iff (si : SliceInfoForPDUSession) (features : String)
    (httpVersion : ℕ) :
    (handleSliceInfoForPduSession C cfg si tai home features httpVersion {}).AccountsFor ↔
      home.mcc = "" ∧ TaAuthorised cfg tai ∧ PduSessionServed C cfg si := by
  obtain ⟨w, hw⟩ := exists_pduSessionDecides C cfg si tai home
  rw [pduSession_eq hw, hw.served_iff]
  cases w with
  | notSupported =>
    refine iff_of_false ?_ nofun
    exact not_accountsFor (show (400 : ℤ) ≤ 503 by omega) (show (503 : ℤ) < 600 by omega) rfl
  | badRequest =>
    refine iff_of_false ?_ nofun
    exact not_accountsFor (show (400 : ℤ) ≤ 400 by omega) (show (400 : ℤ) < 600 by omega) rfl
  | granted nsiInfo => exact iff_of_true (accountsFor_of_ok rfl) ⟨nsiInfo, rfl⟩

theorem pduSession_withoutDetails (si : SliceInfoForPDUSession) (features : String)
    (httpVersion : ℕ) :
    (handleSliceInfoForPduSession C cfg si tai home features httpVersion {}).WithoutDetails := by
  obtain ⟨w, hw⟩ := exists_pduSessionDecides C cfg si tai home
  rw [pduSession_eq hw]
  cases w with
  | notSupported => exact ⟨rfl, show (503 : ℤ) ≠ 403 by omega⟩
  | badRequest => exact ⟨rfl, show (400 : ℤ) ≠ 403 by omega⟩
  | granted nsiInfo => exact ⟨rfl, show (200 : ℤ) ≠ 403 by omega⟩

/-- What a PUT leaves: the problem details are empty, and the status depends on the AMF
    set it names. -/
theorem availability_cases (cfg : NssfConfig) (nfId : String) (info : NssaiAvailabilityInfo)
    (httpVersion : ℕ) :
    let st := handleCreateNssaiAvailability nfId info httpVersion { cfg := cfg }
    (info.amfSetId = some "" ∧ st = { cfg := cfg }) ∨
    (info.amfSetId ≠ some "" ∧ (∃ set, NamesConfiguredSet cfg info set) ∧
      st = { httpCode := HttpStatusCode.noContent, cfg := cfg }) ∨
    (info.amfSetId ≠ some "" ∧ (¬∃ set, NamesConfiguredSet cfg info set) ∧
      st = { httpCode := HttpStatusCode.serviceUnavailable, cfg := cfg }) := by
  intro st
  have hst : st = handleCreateNssaiAvailability nfId info httpVersion { cfg := cfg } := rfl
  rw [handleCreateNssaiAvailability, handleCreate_eq] at hst
  rw [hst]
  unfold NamesConfiguredSet
  cases info.amfSetId with
  | none => exact Or.inr (Or.inr ⟨nofun, by simp, rfl⟩)
  | some set =>
    simp only [ne_eq, Option.some.injEq, exists_eq_left']
    by_cases hset : set = ""
    · exact Or.inl ⟨hset, by simp [hset]⟩
    by_cases hkey : amfSets.HasKey cfg.amfInfoList set
    · exact Or.inr (Or.inl ⟨hset, ⟨hset, hkey⟩, by simp [hset, hkey]⟩)
    · exact Or.inr (Or.inr ⟨hset, fun h => hkey h.2, by simp [hset, hkey]⟩)

end App

/-! ## The selections of a request -/

namespace Selections

theorem runPduSession_withoutDetails (s : Selections) (features : String) (httpVersion : ℕ) :
    (s.runPduSession C cfg features httpVersion).WithoutDetails := by
  unfold runPduSession
  cases s.pduSession with
  | none => exact App.withoutDetails_fresh
  | some ps => exact App.pduSession_withoutDetails ps features httpVersion

theorem runPduSession_accountsFor_iff (s : Selections) (features : String) (httpVersion : ℕ) :
    (s.runPduSession C cfg features httpVersion).AccountsFor ↔
      ∀ ps, s.pduSession = some ps →
        s.home.mcc = "" ∧ TaAuthorised cfg s.tai ∧ PduSessionServed C cfg ps := by
  unfold runPduSession
  cases s.pduSession with
  | none => exact iff_of_true (App.accountsFor_of_zero rfl) nofun
  | some ps => simp [App.pduSession_accountsFor_iff]

/-- A registration is in the scope of its handler, and a PDU session is served unless a
    registration sets the status after it. -/
def AccountedFor (C : Common) (cfg : NssfConfig) (s : Selections) : Prop :=
  match s.registration with
  | none =>
    ∀ ps, s.pduSession = some ps →
      s.home.mcc = "" ∧ TaAuthorised cfg s.tai ∧ PduSessionServed C cfg ps
  | some si =>
    InScope si s.home ∧
      (RegistrationDecided cfg si s.tai s.home ∨
        ∀ ps, s.pduSession = some ps →
          s.home.mcc = "" ∧ TaAuthorised cfg s.tai ∧ PduSessionServed C cfg ps)

theorem run_accountsFor_iff (s : Selections) (features : String) (httpVersion : ℕ) :
    (s.run C cfg features httpVersion).AccountsFor ↔ s.AccountedFor C cfg := by
  have hdetails : (s.runPduSession C cfg features httpVersion).WithoutDetails :=
    s.runPduSession_withoutDetails features httpVersion
  unfold run AccountedFor
  cases s.registration with
  | none => exact s.runPduSession_accountsFor_iff features httpVersion
  | some si =>
    show (App.handleSliceInfoForRegistration _ _ _ _ _ _ _ _).AccountsFor ↔ _
    rw [App.registration_accountsFor_iff hdetails, s.runPduSession_accountsFor_iff]

end Selections

/-! ## HTTP/1 -/

namespace Http1

/-- A GET is classified when its `nf-type` decodes and the problem details account for
    the status of its selections. -/
theorem allClassified_nSSelectionGet_iff (p : SelectionParams) :
    AllClassified (nSSelectionGet C cfg p) ↔
      p.nfType.isSome ∧ p.selections.AccountedFor C cfg := by
  cases hnf : p.nfType with
  | none =>
    refine iff_of_false ?_ fun h => Bool.false_ne_true h.1
    rw [nSSelectionGet, hnf]
    apply mt allClassified_send_iff.mp
    refine not_classified_of_failure (show (400 : ℤ) ≤ 400 by omega)
      (show (400 : ℤ) < 600 by omega) ?_
    intro h
    cases h
  | some nfType =>
    obtain ⟨contentType, htype, heq⟩ := nSSelectionGet_eq C cfg hnf
    rw [heq, allClassified_send_iff, App.classified_state_iff htype, runHandlers_eq,
      Selections.run_accountsFor_iff]
    exact (and_iff_right rfl).symm

/-- A PUT is classified only with status 0, which it is sent with when it names the empty
    set. The problem details never have a status, and 204 is sent with them. -/
theorem allClassified_nSsaiAvailabilityPut_iff (nfId : String) (info : NssaiAvailabilityInfo) :
    AllClassified (nSsaiAvailabilityPut cfg nfId info).1 ↔ info.amfSetId = some "" := by
  have hzero : Classified ⟨0, some "application/problem+json", .problemDetails {}⟩ := by decide
  have haccepted : ¬Classified ⟨204, some "application/problem+json", .problemDetails {}⟩ := by
    decide
  have hrefused : ¬Classified ⟨503, some "application/problem+json", .problemDetails {}⟩ := by
    decide
  unfold nSsaiAvailabilityPut
  rcases App.availability_cases cfg nfId info 1 with
    ⟨hempty, hst⟩ | ⟨hnonempty, -, hst⟩ | ⟨hnonempty, -, hst⟩
  · rw [hst]
    exact iff_of_true (allClassified_send_iff.mpr hzero) hempty
  · rw [hst]
    exact iff_of_false (mt allClassified_send_iff.mp haccepted) hnonempty
  · rw [hst]
    exact iff_of_false (mt allClassified_send_iff.mp hrefused) hnonempty

end Http1

/-! ## HTTP/2 -/

namespace Http2

theorem allClassified_selectionHandler_iff {nfType : String}
    {handle : App.SelectionState → App.SelectionState} :
    AllClassified (selectionHandler nfType handle) ↔
      (nfType = nfTypeAmf ∨ nfType = nfTypeNssf) ∧ (handle {}).AccountsFor := by
  by_cases hnf : nfType = nfTypeAmf ∨ nfType = nfTypeNssf
  · rw [selectionHandler_of_accepted hnf, allClassified_headEnd_iff,
      App.classified_state_iff (fun _ => by decide), and_iff_right hnf]
  · refine iff_of_false ?_ fun h => hnf h.1
    rw [selectionHandler_of_refused hnf]
    apply mt allClassified_headEnd_iff.mp
    refine not_classified_of_failure (show (400 : ℤ) ≤ 400 by omega)
      (show (400 : ℤ) < 600 by omega) ?_
    intro h
    cases h

/-- A PUT is classified when it is accepted with status 204, or when it names the empty
    set. -/
theorem allClassified_createNssaiAvailabilityHandler_iff (nfId : String)
    (info : NssaiAvailabilityInfo) :
    AllClassified (createNssaiAvailabilityHandler cfg nfId info).1 ↔
      info.amfSetId = some "" ∨ ∃ set, NamesConfiguredSet cfg info set := by
  have hzero : Classified ⟨0, some "application/problem+json", .problemDetails {}⟩ := by decide
  have haccepted : Classified ⟨204, none, .empty⟩ := by decide
  have hrefused : ¬Classified ⟨503, some "application/problem+json", .problemDetails {}⟩ := by
    decide
  unfold createNssaiAvailabilityHandler
  rcases App.availability_cases cfg nfId info 2 with
    ⟨hempty, hst⟩ | ⟨-, hnames, hst⟩ | ⟨hnonempty, hnames, hst⟩
  · rw [hst]
    exact iff_of_true (allClassified_headEnd_iff.mpr hzero) (Or.inl hempty)
  · rw [hst]
    exact iff_of_true (allClassified_headEnd_iff.mpr haccepted) (Or.inr hnames)
  · rw [hst]
    exact iff_of_false (mt allClassified_headEnd_iff.mp hrefused)
      fun h => h.elim hnonempty hnames

end Http2

/-! ## Both servers -/

/-- The answers an operation gives to a decoded request are classified by their status:
    for a selection on HTTP/1, when its `nf-type` decodes and each selection ends with a
    status its problem details account for; on HTTP/2, when the `nf-type` is accepted and
    the registration is in scope, or the PDU session served; for a PUT on HTTP/1, only
    when it names the empty set; on HTTP/2, also when it is accepted. -/
theorem responses_classified_iff (C : Common) (cfg : NssfConfig) :
    (∀ p, AllClassified (Http1.nSSelectionGet C cfg p) ↔
      p.nfType.isSome ∧ p.selections.AccountedFor C cfg) ∧
    (∀ nfId info, AllClassified (Http1.nSsaiAvailabilityPut cfg nfId info).1 ↔
      info.amfSetId = some "") ∧
    (∀ nfType nfId si tai home features,
      AllClassified
          (Http2.getSliceInfoForRegistrationHandler C cfg nfType nfId si tai home features) ↔
        (nfType = Http2.nfTypeAmf ∨ nfType = Http2.nfTypeNssf) ∧ InScope si home) ∧
    (∀ nfType nfId si tai home features,
      AllClassified
          (Http2.getSliceInfoForPduSessionHandler C cfg nfType nfId si tai home features) ↔
        (nfType = Http2.nfTypeAmf ∨ nfType = Http2.nfTypeNssf) ∧
          home.mcc = "" ∧ TaAuthorised cfg tai ∧ PduSessionServed C cfg si) ∧
    (∀ nfId info, AllClassified (Http2.createNssaiAvailabilityHandler cfg nfId info).1 ↔
      info.amfSetId = some "" ∨ ∃ set, NamesConfiguredSet cfg info set) := by
  refine ⟨?_, ?_, ?_, ?_, ?_⟩
  · intro p
    exact Http1.allClassified_nSSelectionGet_iff p
  · intro nfId info
    exact Http1.allClassified_nSsaiAvailabilityPut_iff nfId info
  · intro nfType nfId si tai home features
    have hfresh : ({} : App.SelectionState).AccountsFor := App.accountsFor_of_zero rfl
    rw [Http2.getSliceInfoForRegistrationHandler, Http2.allClassified_selectionHandler_iff,
      App.registration_accountsFor_iff App.withoutDetails_fresh, iff_true_intro hfresh, or_true,
      and_true]
  · intro nfType nfId si tai home features
    rw [Http2.getSliceInfoForPduSessionHandler, Http2.allClassified_selectionHandler_iff,
      App.pduSession_accountsFor_iff]
  · intro nfId info
    exact Http2.allClassified_createNssaiAvailabilityHandler_iff nfId info

/-- An accepted PUT: HTTP/1 sends problem details with status 204, HTTP/2 nothing. -/
theorem accepted_put_sends_problem :
    let cfg : NssfConfig := { amfInfoList := [{ targetAmfSet := "set-1" }] }
    let info : NssaiAvailabilityInfo := { amfSetId := some "set-1" }
    (⟨204, some "application/problem+json", .problemDetails {}⟩ : Reply) ∈
        replies (Http1.nSsaiAvailabilityPut cfg "amf-1" info).1 ∧
      ¬AllClassified (Http1.nSsaiAvailabilityPut cfg "amf-1" info).1 ∧
      AllClassified (Http2.createNssaiAvailabilityHandler cfg "amf-1" info).1 := by
  decide

end OaiNssf
