import OaiNssf.Server.Published
import OaiNssf.Server.Routing

/-!
# What the status of a response tells

The status of an NS Selection is a function of the configuration and the decoded request:
which checks fail, and what an earlier selection of the same request has set. Both servers
send it. Over a whole run, a server sends only a few statuses.

* `Selections.run_status`: the status that the handlers leave.
* `selection_status`: the status that each server sends.
* `statuses_of_runs`: the statuses of a run of each server.
-/

namespace OaiNssf

open SliceSelect SliceAvail Callback

variable {C : Common} {K : Codec} {cfg : NssfConfig}

/-! ## The status of a selection -/

section Status

variable (C cfg)

/-- The status of a PDU-session selection: 503 for a roaming UE or one with a home PLMN, 200
    in a tracking area that is configured and with an instance for the S-NSSAI, else 400. -/
def pduSessionStatus (si : SliceInfoForPDUSession) (tai : Tai) (home : PlmnId) : ℤ :=
  if ¬NonRoaming C si home then HttpStatusCode.serviceUnavailable
  else if TaAuthorised cfg tai ∧ ∃ item ∈ cfg.nsiInfoList, Matches C si.sNssai item.snssai then
    HttpStatusCode.ok
  else HttpStatusCode.badRequest

/-- The status of a registration that begins with the status `before`: 503 for a mapping or a
    home PLMN, no change for a tracking area that is not configured or a missing list, and
    else 200 or 403, as some requested S-NSSAI is subscribed and an AMF serves them all, or
    not. -/
def registrationStatus (si : SliceInfoForRegistration) (tai : Tai) (home : PlmnId)
    (before : ℤ) : ℤ :=
  if ¬InScope si home then HttpStatusCode.serviceUnavailable
  else if ¬RegistrationDecided cfg si tai home then before
  else if RegistrationServed C cfg si then HttpStatusCode.ok
  else HttpStatusCode.forbidden

/-- The status when the PDU session of a request has been selected. -/
def Selections.sessionStatus (s : Selections) : ℤ :=
  match s.pduSession with
  | some si => pduSessionStatus C cfg si s.tai s.home
  | none => 0

/-- The status of the selections of a request, the PDU session first. -/
def Selections.status (s : Selections) : ℤ :=
  match s.registration with
  | some si => registrationStatus C cfg si s.tai s.home (s.sessionStatus C cfg)
  | none => s.sessionStatus C cfg

end Status

theorem pduSession_status (si : SliceInfoForPDUSession) (tai : Tai) (home : PlmnId)
    (features : String) (httpVersion : ℕ) (st : App.SelectionState) :
    (App.handleSliceInfoForPduSession C cfg si tai home features httpVersion st).httpCode =
      pduSessionStatus C cfg si tai home := by
  obtain ⟨w, hw⟩ := exists_pduSessionDecides C cfg si tai home
  rw [App.pduSession_eq hw]
  unfold pduSessionStatus
  cases hw with
  | notSupported hroam =>
    rw [if_pos hroam]
    rfl
  | taNotAuthorised hroam hta =>
    rw [if_neg (not_not_intro hroam), if_neg fun h => hta h.1]
    rfl
  | noNsi hroam hta hnsi =>
    have hnone : ¬∃ item ∈ cfg.nsiInfoList, Matches C si.sNssai item.snssai := by
      rintro ⟨item, hitem, hmatch⟩
      exact hnsi item hitem hmatch
    rw [if_neg (not_not_intro hroam), if_neg fun h => hnone h.2]
    rfl
  | granted hroam hta hnsi =>
    rw [if_neg (not_not_intro hroam), if_pos ⟨hta, _, hnsi.mem, hnsi.holds⟩]
    rfl

theorem registration_status (si : SliceInfoForRegistration) (tai : Tai) (home : PlmnId)
    (features : String) (httpVersion : ℕ) (st : App.SelectionState) :
    (App.handleSliceInfoForRegistration C cfg si tai home features httpVersion st).httpCode =
      registrationStatus C cfg si tai home st.httpCode := by
  obtain ⟨v, hv⟩ := exists_registrationDecides C cfg si tai home
  have hdecided := hv.decided_iff
  have hserved := hv.served_iff
  rw [App.registration_eq hv]
  unfold registrationStatus
  cases hv with
  | notSupported hscope =>
    rw [if_pos hscope]
    rfl
  | taNotAuthorised hscope hta =>
    rw [if_neg (not_not_intro hscope), if_pos (hdecided.not.mpr (not_not_intro trivial))]
    rfl
  | undecided hscope hta hnone =>
    rw [if_neg (not_not_intro hscope), if_pos (hdecided.not.mpr (not_not_intro trivial))]
    rfl
  | notInPlmn hscope hta =>
    have hnot : ¬RegistrationServed C cfg si := fun h => by
      simpa using hserved.mp ⟨hscope.noHomePlmn, hta, h⟩
    rw [if_neg (not_not_intro hscope), if_neg (not_not_intro (hdecided.mpr id)), if_neg hnot]
    rfl
  | noAmfSet hscope hta =>
    have hnot : ¬RegistrationServed C cfg si := fun h => by
      simpa using hserved.mp ⟨hscope.noHomePlmn, hta, h⟩
    rw [if_neg (not_not_intro hscope), if_neg (not_not_intro (hdecided.mpr id)), if_neg hnot]
    rfl
  | granted hscope hta =>
    have hyes : RegistrationServed C cfg si := (hserved.mpr ⟨_, _, _, rfl⟩).2.2
    rw [if_neg (not_not_intro hscope), if_neg (not_not_intro (hdecided.mpr id)), if_pos hyes]
    rfl

/-- The selections of a request leave their status. -/
theorem Selections.run_status (s : Selections) (features : String) (httpVersion : ℕ) :
    (s.run C cfg features httpVersion).httpCode = s.status C cfg := by
  have hpdu : (s.runPduSession C cfg features httpVersion).httpCode = s.sessionStatus C cfg := by
    unfold runPduSession sessionStatus
    cases s.pduSession with
    | none => rfl
    | some si => exact pduSession_status si s.tai s.home features httpVersion {}
  unfold run status
  cases s.registration with
  | none => exact hpdu
  | some si => rw [registration_status, hpdu]

theorem Selections.sessionStatus_mem (s : Selections) :
    s.sessionStatus C cfg ∈ ([0, 200, 400, 403, 503] : List ℤ) := by
  unfold sessionStatus
  cases s.pduSession with
  | none => exact List.mem_cons_self
  | some si =>
    dsimp only
    unfold pduSessionStatus
    split_ifs <;> simp

/-- It is one of five. -/
theorem Selections.status_mem (s : Selections) :
    s.status C cfg ∈ ([0, 200, 400, 403, 503] : List ℤ) := by
  have hsession : s.sessionStatus C cfg ∈ ([0, 200, 400, 403, 503] : List ℤ) := s.sessionStatus_mem
  unfold status
  cases s.registration with
  | none => exact hsession
  | some si =>
    dsimp only
    unfold registrationStatus
    split_ifs
    · simp
    · simp
    · exact hsession
    · simp

/-! ## The status that is sent -/

theorem Http1.selectedReply_code (p : Http1.SelectionParams) :
    (Http1.selectedReply C cfg p).code = p.selections.status C cfg := by
  show (Http1.runHandlers C cfg p).httpCode = _
  rw [Http1.runHandlers_eq, Selections.run_status]

/-- The response to a decoded query of the HTTP/2 server. -/
theorem Http2.decodedReply_code {query : Query} {r : Http2.SelectionRequest}
    (hr : r ≠ .neither) :
    ∃ reply, Http2.decodedReply C cfg query r = some reply ∧
      reply.code =
        if Http2.getQueryParam query .nfType = Http2.nfTypeAmf ∨
            Http2.getQueryParam query .nfType = Http2.nfTypeNssf then
          r.selections.status C cfg
        else HttpStatusCode.badRequest := by
  have hrun : (r.selections.run C cfg (Http2.getQueryParam query .supportedFeatures) 2).httpCode =
      r.selections.status C cfg := r.selections.run_status _ 2
  cases r with
  | registration si tai home =>
    refine ⟨_, rfl, ?_⟩
    rw [← hrun]
    unfold Http2.selectedReply
    split_ifs
    · rfl
    · rfl
  | pduSession si tai home =>
    refine ⟨_, rfl, ?_⟩
    rw [← hrun]
    unfold Http2.selectedReply
    split_ifs
    · rfl
    · rfl
  | neither => exact absurd rfl hr

/-- The status of the response to an NS Selection GET whose query decodes. HTTP/1 sends the
    status of the selections if there is an NF type, and 400 if there is none; HTTP/2 sends
    it if the NF type is AMF or NSSF, and else 400. Without slice information HTTP/1
    sends the status of no selection, and HTTP/2 has no response. -/
theorem selection_status (C : Common) (K : Codec) (cfg : NssfConfig) (query : Query) :
    (∀ p, Http1.decodeQuery K query = .ok (some p) →
      (Http1.selectionReply C K cfg query).code =
        if p.nfType = none then HttpStatusCode.badRequest else p.selections.status C cfg) ∧
    (∀ r path data, Http2.decodeSelection K query = .ok r →
      let reply := Http2.Stream.reply C K cfg ⟨.networkSliceInformation, "GET", path, query⟩ data
      (r = .neither → reply = none) ∧
      (r ≠ .neither → ∃ response, reply = some response ∧
        response.code =
          if Http2.getQueryParam query .nfType = Http2.nfTypeAmf ∨
              Http2.getQueryParam query .nfType = Http2.nfTypeNssf then
            r.selections.status C cfg
          else HttpStatusCode.badRequest)) := by
  constructor
  · intro p hp
    unfold Http1.selectionReply
    rw [hp]
    dsimp only
    split_ifs
    · rfl
    · exact Http1.selectedReply_code p
  · intro r path data hr
    have hreply : Http2.Stream.reply C K cfg ⟨.networkSliceInformation, "GET", path, query⟩ data =
        Http2.decodedReply C cfg query r := by
      simp only [Http2.Stream.reply, if_true, hr, Http2.tryReply]
    rw [hreply]
    constructor
    · rintro rfl
      rfl
    · exact Http2.decodedReply_code

/-! ## The statuses of a run -/

/-- The statuses with which a handler of the HTTP/1 server responds. -/
def Http1.Handler.statuses : Http1.Handler → List ℤ
  | .nSsaiAvailabilityDelete => [500, 503]
  | .nSsaiAvailabilityPatch => [400, 500, 503]
  | .nSsaiAvailabilityPut => [0, 204, 400, 500, 503]
  | .nSsaiAvailabilitySubModifyPatch => [400, 500, 503]
  | .nSsaiAvailabilityUnsubscribe => [500, 503]
  | .nSsaiAvailabilityPost => [400, 500, 503]
  | .nSsaiAvailabilityOptions => [503]
  | .nSSelectionGet => [0, 200, 400, 403, 404, 500, 503]
  | .nssfSliceConfigGetApis => [200]
  | .nssfSliceConfigGet => [503]
  | .apiDefault => [404]

/-- The statuses with which a resource of the HTTP/2 server responds. -/
def Http2.Resource.statuses : Http2.Resource → List ℤ
  | .networkSliceInformation => [0, 200, 400, 403, 503]
  | .nfInstanceId => [0, 204, 400, 503]
  | .subscriptions => []
  | .sliceConfig => []
  | .apiList => [200]

theorem putStatus_mem (cfg : NssfConfig) (info : NssaiAvailabilityInfo) :
    putStatus cfg info ∈ ([0, 204, 503] : List ℤ) := by
  unfold putStatus
  cases info.amfSetId with
  | none => simp
  | some set =>
    dsimp only
    split_ifs <;> simp

namespace Http1

open PathPattern

variable {L : Libraries}

theorem parsingReply_code_mem (e : Exn) : (parsingReply e).code ∈ ([400, 500] : List ℤ) := by
  cases e with
  | json what => exact List.mem_cons_self
  | other what => exact List.mem_cons_of_mem _ List.mem_cons_self

/-- A decoded query is answered with one of five statuses. -/
theorem selectionReply_code_of_decoded {query : Query} {p : SelectionParams}
    (hp : decodeQuery K query = .ok (some p)) :
    (selectionReply C K cfg query).code ∈ ([0, 200, 400, 403, 503] : List ℤ) := by
  unfold selectionReply
  rw [hp]
  dsimp only
  split_ifs
  · simp
  · rw [selectedReply_code]
    exact p.selections.status_mem

theorem selectionReply_code_mem (query : Query) :
    (selectionReply C K cfg query).code ∈ Handler.nSSelectionGet.statuses := by
  cases hdecoded : decodeQuery K query with
  | error e => simp [selectionReply, hdecoded, Handler.statuses]
  | ok decoded =>
    cases decoded with
    | none => simp [selectionReply, hdecoded, notFoundReply, Handler.statuses]
    | some p =>
      have hmem : (selectionReply C K cfg query).code ∈ ([0, 200, 400, 403, 503] : List ℤ) :=
        selectionReply_code_of_decoded hdecoded
      simp only [List.mem_cons, List.not_mem_nil, or_false] at hmem
      simp only [Handler.statuses, List.mem_cons, List.not_mem_nil, or_false]
      omega

theorem putReply_code_mem (body : List UInt8) :
    (putReply K cfg body).code ∈ Handler.nSsaiAvailabilityPut.statuses := by
  unfold putReply
  cases decodePut K body with
  | error e =>
    have hmem := parsingReply_code_mem e
    simp only [List.mem_cons, List.not_mem_nil, or_false] at hmem
    simp only [Handler.statuses, List.mem_cons, List.not_mem_nil, or_false]
    omega
  | ok info =>
    have hmem := putStatus_mem cfg info
    simp only [List.mem_cons, List.not_mem_nil, or_false] at hmem
    simp only [Handler.statuses, List.mem_cons, List.not_mem_nil, or_false]
    omega

theorem patchReply_code_mem (body : List UInt8) :
    (patchReply K body).code ∈ ([400, 500, 503] : List ℤ) := by
  unfold patchReply
  cases K.parsePatchItems body with
  | error e =>
    have hmem := parsingReply_code_mem e
    exact List.mem_append_left [503] hmem
  | ok items => simp [notImplementedReply]

/-- A missing path parameter adds the status 500. -/
theorem paramReply_code_mem {params : Params} {name : String} {reply : Reply} {codes : List ℤ}
    (h500 : HttpStatusCode.internalServerError ∈ codes) (hreply : reply.code ∈ codes) :
    (paramReply L params name reply).code ∈ codes := by
  unfold paramReply
  cases requestParam L params name with
  | error e => exact h500
  | ok value => exact hreply

/-- A handler responds with one of its statuses. -/
theorem Handler.reply_code_mem (handler : Handler) (params : Params) (r : RawRequest) :
    (handler.reply C K L cfg params r).code ∈ handler.statuses := by
  cases handler with
  | nSsaiAvailabilityDelete =>
    exact paramReply_code_mem (by simp [Handler.statuses])
      (by simp [notImplementedReply, Handler.statuses])
  | nSsaiAvailabilityPatch =>
    exact paramReply_code_mem (by simp [Handler.statuses]) (patchReply_code_mem r.body)
  | nSsaiAvailabilityPut =>
    exact paramReply_code_mem (by simp [Handler.statuses]) (putReply_code_mem r.body)
  | nSsaiAvailabilitySubModifyPatch =>
    exact paramReply_code_mem (by simp [Handler.statuses]) (patchReply_code_mem r.body)
  | nSsaiAvailabilityUnsubscribe =>
    exact paramReply_code_mem (by simp [Handler.statuses])
      (by simp [notImplementedReply, Handler.statuses])
  | nSsaiAvailabilityPost =>
    simp only [Handler.reply, postReply]
    cases L.parseNssfEventSubscriptionCreateData r.body with
    | error e => exact List.mem_append_left [503] (parsingReply_code_mem e)
    | ok data =>
      dsimp only
      cases L.validateNssfEventSubscriptionCreateData data with
      | error e => exact List.mem_append_left [503] (parsingReply_code_mem e)
      | ok u => simp [notImplementedReply, Handler.statuses]
  | nSsaiAvailabilityOptions => simp [Handler.reply, notImplementedReply, Handler.statuses]
  | nSSelectionGet => exact selectionReply_code_mem r.query
  | nssfSliceConfigGetApis => simp [Handler.reply, Handler.statuses]
  | nssfSliceConfigGet => simp [Handler.reply, Handler.statuses]
  | apiDefault => simp [Handler.reply, notFoundReply, Handler.statuses]

/-- A PUT reaches the handler of the resource of an AMF, or the default handler. -/
theorem dispatch_put {find : List (Pattern × Handler) → List String → Option (Handler × Params)}
    (hfind : IsRouter find) (P : Paths) {r : RawRequest} (hput : r.method = "PUT") :
    (dispatch find P r).1 = .nSsaiAvailabilityPut ∨ (dispatch find P r).1 = .apiDefault := by
  unfold dispatch
  rw [hput, routeTable_put]
  cases hfound : find [(pattern (versionedNfInstance P), .nSsaiAvailabilityPut)]
      (segments r.resource) with
  | none => exact Or.inr rfl
  | some found =>
    obtain ⟨entry, hentry, hhandler, -⟩ := hfind.found hfound
    rw [List.mem_singleton.mp hentry] at hhandler
    exact Or.inl hhandler.symm

/-- A PUT is not answered with 200. -/
theorem reply_code_ne_ok_of_put
    {find : List (Pattern × Handler) → List String → Option (Handler × Params)}
    (hfind : IsRouter find) (P : Paths) {r : RawRequest} (hput : r.method = "PUT") :
    ((dispatch find P r).1.reply C K L cfg (dispatch find P r).2 r).code ≠ HttpStatusCode.ok := by
  have hmem : ((dispatch find P r).1.reply C K L cfg (dispatch find P r).2 r).code ∈
      (dispatch find P r).1.statuses := (dispatch find P r).1.reply_code_mem _ r
  intro hok
  rw [hok] at hmem
  rcases dispatch_put hfind P hput with h | h
  · rw [h] at hmem
    exact absurd hmem (by decide)
  · rw [h] at hmem
    exact absurd hmem (by decide)

end Http1

namespace Http2

theorem decodedReply_code_mem {query : Query} {r : SelectionRequest} {reply : Reply}
    (h : decodedReply C cfg query r = some reply) :
    reply.code ∈ Resource.networkSliceInformation.statuses := by
  have hr : r ≠ .neither := by
    rintro rfl
    cases h
  obtain ⟨reply', heq, hcode⟩ := decodedReply_code hr
  rw [h, Option.some.injEq] at heq
  rw [heq, hcode]
  split_ifs
  · exact r.selections.status_mem
  · simp [Resource.statuses]

/-- A `try` block responds with 400, or as what it decodes. -/
theorem tryReply_code_mem {α : Type} {respond : α → Option Reply} {x : Except Exn α}
    {reply : Reply} {codes : List ℤ} (h : tryReply respond x = some reply) (hbad : 400 ∈ codes)
    (hrespond : ∀ a reply, respond a = some reply → reply.code ∈ codes) : reply.code ∈ codes := by
  cases x with
  | ok a => exact hrespond a reply h
  | error e =>
    cases e with
    | json what =>
      cases h
      exact hbad
    | other what => cases h

theorem createdReply_code_mem (info : NssaiAvailabilityInfo) :
    (createdReply cfg info).code ∈ Resource.nfInstanceId.statuses := by
  have hmem := putStatus_mem cfg info
  unfold createdReply
  split_ifs
  · simp [Resource.statuses]
  · simp only [List.mem_cons, List.not_mem_nil, or_false] at hmem
    simp only [Resource.statuses, List.mem_cons, List.not_mem_nil, or_false]
    omega

/-- A resource responds with one of its statuses. -/
theorem Stream.reply_code_mem (stream : Stream) {data : List UInt8} {reply : Reply}
    (h : stream.reply C K cfg data = some reply) : reply.code ∈ stream.resource.statuses := by
  obtain ⟨resource, method, path, query⟩ := stream
  cases resource with
  | networkSliceInformation =>
    simp only [Stream.reply] at h
    split_ifs at h
    show reply.code ∈ Resource.networkSliceInformation.statuses
    apply tryReply_code_mem h
    · simp [Resource.statuses]
    · intro r reply hreply
      exact decodedReply_code_mem hreply
  | nfInstanceId =>
    simp only [Stream.reply, availabilityReply] at h
    show reply.code ∈ Resource.nfInstanceId.statuses
    split_ifs at h
    · apply tryReply_code_mem h
      · simp [Resource.statuses]
      · rintro info reply ⟨⟩
        exact createdReply_code_mem info
    · apply tryReply_code_mem h
      · simp [Resource.statuses]
      · intro items reply hreply
        cases hreply
  | subscriptions => cases h
  | sliceConfig => cases h
  | apiList =>
    simp only [Stream.reply] at h
    split_ifs at h
    cases h
    simp [Resource.statuses]

/-- Only the callbacks for a GET respond with 200. -/
theorem Stream.reply_code_ne_ok_of_put {stream : Stream} (hput : stream.method = "PUT")
    {data : List UInt8} {reply : Reply} (h : stream.reply C K cfg data = some reply) :
    reply.code ≠ HttpStatusCode.ok := by
  have hmem := stream.reply_code_mem h
  obtain ⟨resource, method, path, query⟩ := stream
  dsimp only at hput
  subst hput
  intro hok
  rw [hok] at hmem
  cases resource with
  | networkSliceInformation => cases h
  | nfInstanceId =>
    have hnot : HttpStatusCode.ok ∉ Resource.nfInstanceId.statuses := by decide
    exact absurd hmem hnot
  | subscriptions => cases h
  | sliceConfig => cases h
  | apiList => cases h

end Http2

/-- Over any run, for any configuration: the HTTP/1 server responds to each request of each
    connection with one of the statuses of the handler that the request is dispatched to, and
    the HTTP/2 server sends on each stream only statuses of its resource. If a query decodes, the
    status of its NS Selection is one of five. A PUT is never answered with 200, on HTTP/1 if the
    router takes only routes that match. What Pistache itself answers with 413 is no request of
    the run. -/
theorem statuses_of_runs {κ : Type} [DecidableEq κ] (C : Common) (K : Codec)
    (L : Http1.Libraries)
    (find : List (PathPattern.Pattern × Http1.Handler) → List String →
      Option (Http1.Handler × PathPattern.Params)) (P : Paths) (cfg : NssfConfig) :
    (∀ (requests : List (κ × Http1.RawRequest)) k,
      List.Forall₂ (fun r reply => reply.code ∈ (Http1.dispatch find P r).1.statuses)
        (ofSession k requests)
        (replies (ofSession k (Http1.serve C K L find P cfg requests).actions))) ∧
    (∀ (streams : κ → Http2.Stream) (calls : List (κ × List UInt8)) k,
      ∀ reply ∈ replies (ofSession k (Http2.serve C K streams cfg calls).actions),
        reply.code ∈ (streams k).resource.statuses) ∧
    (∀ query p, Http1.decodeQuery K query = .ok (some p) →
      (Http1.selectionReply C K cfg query).code ∈ ([0, 200, 400, 403, 503] : List ℤ)) ∧
    (PathPattern.IsRouter find → ∀ (requests : List (κ × Http1.RawRequest)) k,
      List.Forall₂ (fun r reply => r.method = "PUT" → reply.code ≠ HttpStatusCode.ok)
        (ofSession k requests)
        (replies (ofSession k (Http1.serve C K L find P cfg requests).actions))) ∧
    (∀ (streams : κ → Http2.Stream) (calls : List (κ × List UInt8)) k,
      (streams k).method = "PUT" →
        ∀ reply ∈ replies (ofSession k (Http2.serve C K streams cfg calls).actions),
          reply.code ≠ HttpStatusCode.ok) := by
  refine ⟨?_, ?_, ?_, ?_, ?_⟩
  · intro requests k
    rw [Http1.replies_serve, List.forall₂_map_right_iff, List.forall₂_same]
    intro r _
    exact (Http1.dispatch find P r).1.reply_code_mem (Http1.dispatch find P r).2 r
  · intro streams calls k reply hreply
    rw [Http2.replies_serve] at hreply
    obtain ⟨data, -, hdata⟩ := List.mem_filterMap.mp hreply
    exact (streams k).reply_code_mem hdata
  · intro query p hp
    exact Http1.selectionReply_code_of_decoded hp
  · intro hfind requests k
    rw [Http1.replies_serve, List.forall₂_map_right_iff, List.forall₂_same]
    intro r _ hput
    exact Http1.reply_code_ne_ok_of_put hfind P hput
  · intro streams calls k hput reply hreply
    rw [Http2.replies_serve] at hreply
    obtain ⟨data, -, hdata⟩ := List.mem_filterMap.mp hreply
    exact Http2.Stream.reply_code_ne_ok_of_put hput hdata

end OaiNssf
