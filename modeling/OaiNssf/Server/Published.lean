import OaiNssf.Server.Selection

/-!
# What an answer with status 200 carries

A GET with both slice informations runs the two handlers on HTTP/1, the PDU-session
handler first, on one `http_code` and one `auth_slice_info`. The registration handler
writes to the second before it knows that it can grant the request, and two of its exits
leave the first as it was.

* `AfterPduSession`: what holds of the shared state when the registration handler is
  called;
* `registration_published`: what that handler makes of it under status 200;
* `ok_answer_published`: an answer with status 200 carries what the selections that ran
  have granted, and nothing else.
-/

namespace OaiNssf

open SliceSelect Callback Decoding

variable {C : Common} {K : Codec} {cfg : NssfConfig} {tai : Tai} {home : PlmnId}

/-! ## Selections that set status 200 -/

namespace SliceSelect

/-- The registration handler sets `http_code` to 200: it ends with 200 whatever it is
    called with. -/
def RegistrationSetsOk (C : Common) (cfg : NssfConfig) (si : SliceInfoForRegistration)
    (tai : Tai) (home : PlmnId) : Prop :=
  ∀ features httpCode httpVersion auth,
    (handleSliceInfoForRegistration C cfg si tai home features httpCode httpVersion
      auth).httpCode = HttpStatusCode.ok

/-- The PDU-session handler sets `http_code` to 200. -/
def PduSessionSetsOk (C : Common) (cfg : NssfConfig) (si : SliceInfoForPDUSession)
    (tai : Tai) (home : PlmnId) : Prop :=
  ∀ features httpCode httpVersion auth,
    (handleSliceInfoForPduSession C cfg si tai home features httpCode httpVersion
      auth).httpCode = HttpStatusCode.ok

theorem RegistrationDecides.setsOk_iff {si : SliceInfoForRegistration} {v : RegistrationVerdict}
    (hv : RegistrationDecides C cfg si tai home v) :
    RegistrationSetsOk C cfg si tai home ↔
      ∃ allowed set candidates, v = .granted allowed set candidates := by
  constructor
  · intro h
    have hok := h "" 0 1 {}
    rw [hv.handle_eq] at hok
    exact granted_of_ok (by decide) hok
  · intro h features httpCode httpVersion auth
    obtain ⟨allowed, set, candidates, rfl⟩ := h
    rw [hv.handle_eq]
    rfl

theorem PduSessionDecides.setsOk_iff {si : SliceInfoForPDUSession} {w : PduSessionVerdict}
    (hw : PduSessionDecides C cfg si tai home w) :
    PduSessionSetsOk C cfg si tai home ↔ ∃ nsiInfo, w = .granted nsiInfo := by
  constructor
  · intro h
    have hok := h "" 0 1 {}
    rw [hw.handle_eq] at hok
    cases w with
    | notSupported => simp [PduSessionVerdict.outcome] at hok
    | badRequest => simp [PduSessionVerdict.outcome] at hok
    | granted nsiInfo => exact ⟨nsiInfo, rfl⟩
  · intro h features httpCode httpVersion auth
    obtain ⟨nsiInfo, rfl⟩ := h
    rw [hw.handle_eq]
    rfl

end SliceSelect

/-! ## The shared state -/

/-- The AMF fields of `info` are those of one configured AMF set, with some of its
    AMFs. -/
def FromAmfSet (cfg : NssfConfig) (info : AuthorizedNetworkSliceInfo) : Prop :=
  ∃ set ∈ cfg.amfInfoList,
    info.targetAmfSet = some set.targetAmfSet ∧ info.nrfAmfSet = some set.nrfAmfSet ∧
      info.nrfAmfSetNfMgtUri = some set.nrfAmfSetMgt ∧
      ∃ candidates, candidates ≠ [] ∧ info.candidateAmfList = some candidates ∧
        ∀ nfId ∈ candidates, ∃ amf ∈ set.amfList, amf.1 = nfId

/-- What a client reads under status 200: the result of each selection that set this
    status, and of no other. -/
structure Published (cfg : NssfConfig) (registrationOk pduSessionOk : Prop)
    (info : AuthorizedNetworkSliceInfo) : Prop where
  nsiInformation : info.nsiInformation.isSome ↔ pduSessionOk
  allowedNssaiList : info.allowedNssaiList.isSome ↔ registrationOk
  amfSet : info.allowedNssaiList.isSome → FromAmfSet cfg info
  rejectedNssaiInPlmn : info.rejectedNssaiInPlmn = none
  notEmpty : info.nsiInformation.isSome ∨ info.allowedNssaiList.isSome

/-- The state before the registration handler runs: nothing of a registration, and
    status 200 exactly when a PDU session was granted, for a TAI that is authorised. -/
structure AfterPduSession (cfg : NssfConfig) (tai : Tai) (pduSessionOk : Prop)
    (st : App.SelectionState) : Prop where
  ok_iff : st.httpCode = HttpStatusCode.ok ↔ pduSessionOk
  nsiInformation : st.authSliceInfo.nsiInformation.isSome ↔ pduSessionOk
  authorised : pduSessionOk → TaAuthorised cfg tai
  allowedNssaiList : st.authSliceInfo.allowedNssaiList = none
  rejectedNssaiInPlmn : st.authSliceInfo.rejectedNssaiInPlmn = none

theorem afterPduSession_fresh (cfg : NssfConfig) (tai : Tai) :
    AfterPduSession cfg tai False {} where
  ok_iff := iff_of_false App.SelectionState.fresh_ne_ok id
  nsiInformation := iff_of_false Bool.false_ne_true id
  authorised := False.elim
  allowedNssaiList := rfl
  rejectedNssaiInPlmn := rfl

/-- The PDU-session handler, called with the fresh state. -/
theorem afterPduSession_pduSession (si : SliceInfoForPDUSession) (features : String)
    (httpVersion : ℕ) :
    AfterPduSession cfg tai (PduSessionSetsOk C cfg si tai home)
      (App.handleSliceInfoForPduSession C cfg si tai home features httpVersion {}) := by
  obtain ⟨w, hw⟩ := exists_pduSessionDecides C cfg si tai home
  have hta : PduSessionSetsOk C cfg si tai home → TaAuthorised cfg tai := by
    intro hok
    exact (hw.served_iff.mpr (hw.setsOk_iff.mp hok)).2.1
  rw [App.pduSession_eq hw]
  refine ⟨?_, ?_, hta, ?_, ?_⟩
  · rw [hw.setsOk_iff]
    cases w <;> simp [App.selectionExit, PduSessionVerdict.outcome]
  · rw [hw.setsOk_iff]
    cases w <;> simp [App.selectionExit, PduSessionVerdict.outcome]
  · cases w <;> rfl
  · cases w <;> rfl

/-- A state that no registration has touched is published as it is. -/
theorem AfterPduSession.published {pduSessionOk : Prop} {st : App.SelectionState}
    (hst : AfterPduSession cfg tai pduSessionOk st) (hok : st.httpCode = HttpStatusCode.ok) :
    Published cfg False pduSessionOk st.authSliceInfo := by
  have hpdu : pduSessionOk := hst.ok_iff.mp hok
  have hnone : ¬st.authSliceInfo.allowedNssaiList.isSome := by simp [hst.allowedNssaiList]
  exact ⟨hst.nsiInformation, iff_of_false hnone id, fun h => absurd h hnone,
    hst.rejectedNssaiInPlmn, Or.inl (hst.nsiInformation.mpr hpdu)⟩

/-- The registration handler on that state. Under status 200 it has granted the request
    or left the state alone: the partial results of its other exits go with status 403,
    and the exit for a TAI that is not authorised is not taken on a status 200. -/
theorem registration_published {pduSessionOk : Prop} {st : App.SelectionState}
    (hst : AfterPduSession cfg tai pduSessionOk st) (si : SliceInfoForRegistration)
    (features : String) (httpVersion : ℕ)
    (hok : (App.handleSliceInfoForRegistration C cfg si tai home features httpVersion
      st).httpCode = HttpStatusCode.ok) :
    Published cfg (RegistrationSetsOk C cfg si tai home) pduSessionOk
      (App.handleSliceInfoForRegistration C cfg si tai home features httpVersion
        st).authSliceInfo := by
  obtain ⟨v, hv⟩ := exists_registrationDecides C cfg si tai home
  rw [hv.setsOk_iff]
  rw [App.registration_eq hv] at hok ⊢
  cases hv with
  | notSupported => simp [App.selectionExit, RegistrationVerdict.outcome] at hok
  | notInPlmn => simp [App.selectionExit, RegistrationVerdict.outcome] at hok
  | noAmfSet => simp [App.selectionExit, RegistrationVerdict.outcome] at hok
  | taNotAuthorised _ hta => exact absurd (hst.authorised (hst.ok_iff.mp hok)) hta
  | undecided =>
    have hpublished := hst.published hok
    have hnot : ¬∃ allowed set candidates,
        RegistrationVerdict.undecided = .granted allowed set candidates := by
      intro h
      obtain ⟨allowed, set, candidates, heq⟩ := h
      cases heq
    rw [eq_false hnot]
    exact hpublished
  | @granted _ _ req sub _ _ _ set hamf =>
    have hfrom : FromAmfSet cfg (withAmfSet set (servingAmfs C req set)
        (withAllowed (matchedSnssai C sub req) st.authSliceInfo)) := by
      refine ⟨set, hamf.mem, rfl, rfl, rfl, servingAmfs C req set,
        servingAmfs_ne_nil_iff.mpr hamf.holds, rfl, ?_⟩
      intro nfId hmem
      obtain ⟨amf, hamf', -, hid⟩ := mem_servingAmfs.mp hmem
      exact ⟨amf, hamf', hid⟩
    exact ⟨hst.nsiInformation, iff_of_true rfl ⟨_, _, _, rfl⟩, fun _ => hfrom,
      hst.rejectedNssaiInPlmn, Or.inr rfl⟩

/-! ## The selections of a request -/

/-- The selections that run for a request, on one TAI and one home PLMN. -/
structure Selections where
  registration : Option SliceInfoForRegistration := none
  pduSession : Option SliceInfoForPDUSession := none
  tai : Tai := {}
  home : PlmnId := {}

namespace Selections

/-- A registration selection runs and sets status 200. -/
def RegistrationOk (C : Common) (cfg : NssfConfig) (s : Selections) : Prop :=
  ∃ si, s.registration = some si ∧ RegistrationSetsOk C cfg si s.tai s.home

/-- A PDU-session selection runs and sets status 200. -/
def PduSessionOk (C : Common) (cfg : NssfConfig) (s : Selections) : Prop :=
  ∃ si, s.pduSession = some si ∧ PduSessionSetsOk C cfg si s.tai s.home

/-- The PDU-session selection, if there is one. -/
def runPduSession (C : Common) (cfg : NssfConfig) (s : Selections) (features : String)
    (httpVersion : ℕ) : App.SelectionState :=
  match s.pduSession with
  | some si => App.handleSliceInfoForPduSession C cfg si s.tai s.home features httpVersion {}
  | none => {}

/-- The selections, on one state. -/
def run (C : Common) (cfg : NssfConfig) (s : Selections) (features : String)
    (httpVersion : ℕ) : App.SelectionState :=
  match s.registration with
  | some si =>
    App.handleSliceInfoForRegistration C cfg si s.tai s.home features httpVersion
      (s.runPduSession C cfg features httpVersion)
  | none => s.runPduSession C cfg features httpVersion

theorem afterPduSession (s : Selections) (features : String) (httpVersion : ℕ) :
    AfterPduSession cfg s.tai (s.PduSessionOk C cfg)
      (s.runPduSession C cfg features httpVersion) := by
  unfold runPduSession PduSessionOk
  cases s.pduSession with
  | none =>
    simp only [reduceCtorEq, false_and, exists_false]
    exact afterPduSession_fresh cfg s.tai
  | some si =>
    simp only [Option.some.injEq, exists_eq_left']
    exact afterPduSession_pduSession si features httpVersion

/-- Under status 200 the selections leave what they have granted. -/
theorem published {s : Selections} {features : String} {httpVersion : ℕ}
    (hok : (s.run C cfg features httpVersion).httpCode = HttpStatusCode.ok) :
    Published cfg (s.RegistrationOk C cfg) (s.PduSessionOk C cfg)
      (s.run C cfg features httpVersion).authSliceInfo := by
  have hst : AfterPduSession cfg s.tai (s.PduSessionOk C cfg)
      (s.runPduSession C cfg features httpVersion) := s.afterPduSession features httpVersion
  unfold run at hok ⊢
  unfold RegistrationOk
  cases hreg : s.registration with
  | none =>
    rw [hreg] at hok
    simp only [reduceCtorEq, false_and, exists_false]
    exact hst.published hok
  | some si =>
    rw [hreg] at hok
    simp only [Option.some.injEq, exists_eq_left']
    exact registration_published hst si features httpVersion hok

end Selections

/-! ## Answers -/

/-- The reply that carries the state the handlers leave. -/
theorem published_of_reply {s : Selections} {features : String} {httpVersion : ℕ}
    {contentType : Option String} {reply : Reply}
    (hreply : reply = ⟨(s.run C cfg features httpVersion).httpCode, contentType,
      (s.run C cfg features httpVersion).body⟩)
    (hok : reply.code = HttpStatusCode.ok) :
    ∃ info, reply.body = .authorizedNetworkSliceInfo info ∧
      Published cfg (s.RegistrationOk C cfg) (s.PduSessionOk C cfg) info := by
  subst hreply
  have hcode : (s.run C cfg features httpVersion).httpCode = HttpStatusCode.ok := hok
  exact ⟨_, if_pos hcode, Selections.published hcode⟩

namespace Http1

/-- Both selections run, if their slice information is given. -/
def SelectionParams.selections (p : SelectionParams) : Selections where
  registration := p.sliceInfoRequestForRegistration
  pduSession := p.sliceInfoRequestForPduSession
  tai := p.tai.getD {}
  home := p.homePlmnId.getD {}

theorem runHandlers_eq (C : Common) (cfg : NssfConfig) (p : SelectionParams) :
    runHandlers C cfg p = p.selections.run C cfg (p.supportedFeatures.getD "") 1 := rfl

theorem ok_reply_published {nfId : String} {query : Query} {body : List UInt8} {reply : Reply}
    (hmem : reply ∈ replies (nsSelectionRoute C K cfg ⟨"GET", nfId, query, body⟩))
    (hok : reply.code = HttpStatusCode.ok) :
    ∃ p info, decodeQuery K query = .ok (some p) ∧
      reply.body = .authorizedNetworkSliceInfo info ∧
      Published cfg (p.selections.RegistrationOk C cfg) (p.selections.PduSessionOk C cfg)
        info := by
  have hroute : nsSelectionRoute C K cfg ⟨"GET", nfId, query, body⟩ =
      nSSelectionGetHandler C K cfg query := if_pos rfl
  rw [hroute] at hmem
  unfold nSSelectionGetHandler at hmem
  cases hdec : decodeQuery K query with
  | error e =>
    rw [hdec] at hmem
    rw [List.mem_singleton.mp hmem] at hok
    exact absurd hok (show (500 : ℤ) ≠ 200 by decide)
  | ok decoded =>
    rw [hdec] at hmem
    cases decoded with
    | none =>
      rw [List.mem_singleton.mp hmem] at hok
      exact absurd hok (show (404 : ℤ) ≠ 200 by decide)
    | some p =>
      change reply ∈ replies (nSSelectionGet C cfg p) at hmem
      cases hnf : p.nfType with
      | none =>
        rw [nSSelectionGet, hnf] at hmem
        rw [List.mem_singleton.mp hmem] at hok
        exact absurd hok (show (400 : ℤ) ≠ 200 by decide)
      | some nfType =>
        obtain ⟨contentType, -, heq⟩ := nSSelectionGet_eq C cfg hnf
        rw [heq, runHandlers_eq] at hmem
        obtain ⟨info, hbody, hpublished⟩ :=
          published_of_reply (List.mem_singleton.mp hmem) hok
        exact ⟨p, info, rfl, hbody, hpublished⟩

end Http1

namespace Http2

/-- The one selection that runs. -/
def SelectionRequest.selections : SelectionRequest → Selections
  | .registration si tai home => { registration := some si, tai := tai, home := home }
  | .pduSession si tai home => { pduSession := some si, tai := tai, home := home }
  | .neither => {}

/-- The callback completes its response before it is called again. -/
theorem replies_selectionHandler_append (nfType : String)
    (handle : App.SelectionState → App.SelectionState) (rest : List Action) :
    replies (selectionHandler nfType handle ++ rest) =
      replies (selectionHandler nfType handle) ++ replies rest := by
  by_cases h : nfType = nfTypeAmf ∨ nfType = nfTypeNssf
  · rw [selectionHandler_of_accepted h]
    rfl
  · rw [selectionHandler_of_refused h]
    rfl

theorem replies_onData_append (query : Query) (data : List UInt8) (rest : List Action) :
    replies ((nsSelectionOnData C K "GET" query cfg data).actions ++ rest) =
      replies (nsSelectionOnData C K "GET" query cfg data).actions ++ replies rest := by
  rw [nsSelectionOnData_get]
  cases decodeSelection K query with
  | error e => cases e <;> rfl
  | ok r =>
    cases r with
    | registration si tai home => exact replies_selectionHandler_append _ _ rest
    | pduSession si tai home => exact replies_selectionHandler_append _ _ rest
    | neither => rfl

theorem ok_reply_selectionHandler {nfType : String} {s : Selections} {features : String}
    {handle : App.SelectionState → App.SelectionState} {reply : Reply}
    (hhandle : handle {} = s.run C cfg features 2)
    (hmem : reply ∈ replies (selectionHandler nfType handle))
    (hok : reply.code = HttpStatusCode.ok) :
    ∃ info, reply.body = .authorizedNetworkSliceInfo info ∧
      Published cfg (s.RegistrationOk C cfg) (s.PduSessionOk C cfg) info := by
  by_cases h : nfType = nfTypeAmf ∨ nfType = nfTypeNssf
  · rw [selectionHandler_of_accepted h, hhandle] at hmem
    exact published_of_reply (List.mem_singleton.mp hmem) hok
  · rw [selectionHandler_of_refused h] at hmem
    rw [List.mem_singleton.mp hmem] at hok
    exact absurd hok (show (400 : ℤ) ≠ 200 by decide)

theorem ok_reply_published {path : String} {query : Query} {chunks : List Chunk} {reply : Reply}
    (hmem : reply ∈ replies (nsSelectionRoute C K cfg ⟨"GET", path, query, chunks⟩).actions)
    (hok : reply.code = HttpStatusCode.ok) :
    ∃ r info, decodeSelection K query = .ok r ∧
      reply.body = .authorizedNetworkSliceInfo info ∧
      Published cfg (r.selections.RegistrationOk C cfg) (r.selections.PduSessionOk C cfg)
        info := by
  have hone : reply ∈ replies (nsSelectionOnData C K "GET" query cfg []).actions :=
    mem_read_run_of_const replies rfl (replies_onData_append query [])
      (fun _ => rfl) (nsSelectionOnData_state C K "GET" query cfg []) _ hmem
  rw [nsSelectionOnData_get] at hone
  cases hdec : decodeSelection K query with
  | error e =>
    rw [hdec] at hone
    cases e with
    | json what =>
      rw [List.mem_singleton.mp hone] at hok
      exact absurd hok (show (400 : ℤ) ≠ 200 by decide)
    | other what => exact absurd hone List.not_mem_nil
  | ok r =>
    rw [hdec] at hone
    change reply ∈ replies (answerSelection C cfg query r) at hone
    cases r with
    | registration si tai home =>
      obtain ⟨info, hbody, hpublished⟩ := ok_reply_selectionHandler
        (show _ = Selections.run C cfg { registration := some si, tai := tai, home := home } _ 2
          from rfl) hone hok
      exact ⟨_, info, rfl, hbody, hpublished⟩
    | pduSession si tai home =>
      obtain ⟨info, hbody, hpublished⟩ := ok_reply_selectionHandler
        (show _ = Selections.run C cfg { pduSession := some si, tai := tai, home := home } _ 2
          from rfl) hone hok
      exact ⟨_, info, rfl, hbody, hpublished⟩
    | neither => exact absurd hone List.not_mem_nil

end Http2

/-- On either server, every answer to an NS Selection GET with status 200 publishes what
    the selections that ran for it have granted: the NSI information of a PDU session,
    the Allowed NSSAI of a registration with the AMF set that serves it, at least one of
    the two, and no rejected S-NSSAIs. -/
theorem ok_answer_published (C : Common) (K : Codec) (cfg : NssfConfig) (query : Query) :
    (∀ nfId body,
      ∀ reply ∈ replies (Http1.nsSelectionRoute C K cfg ⟨"GET", nfId, query, body⟩),
        reply.code = HttpStatusCode.ok →
          ∃ p info, Http1.decodeQuery K query = .ok (some p) ∧
            reply.body = .authorizedNetworkSliceInfo info ∧
            Published cfg (p.selections.RegistrationOk C cfg) (p.selections.PduSessionOk C cfg)
              info) ∧
    (∀ path chunks,
      ∀ reply ∈ replies (Http2.nsSelectionRoute C K cfg ⟨"GET", path, query, chunks⟩).actions,
        reply.code = HttpStatusCode.ok →
          ∃ r info, Http2.decodeSelection K query = .ok r ∧
            reply.body = .authorizedNetworkSliceInfo info ∧
            Published cfg (r.selections.RegistrationOk C cfg) (r.selections.PduSessionOk C cfg)
              info) := by
  refine ⟨?_, ?_⟩
  · intro nfId body reply hmem hok
    exact Http1.ok_reply_published hmem hok
  · intro path chunks reply hmem hok
    exact Http2.ok_reply_published hmem hok

end OaiNssf
