import OaiNssf.Server.Availability

/-!
# How often a request is answered

The number of completed responses on each route of the two servers, for a request
whose body comes in at most one DATA chunk. A Pistache handler sends on each of its
paths. An HTTP/2 callback runs on every call of `on_data`, so a route that answers
from the query answers a body twice, and one that answers a body needs its chunk.

* `answered_once_iff`: the requests that are answered exactly once, route by route.
-/

namespace OaiNssf

open Callback Decoding SliceSelect

variable {C : Common} {K : Codec} {cfg : NssfConfig}

/-- The action is part of a response. -/
def Action.isResponse : Action → Bool
  | .createNssaiAvailability _ _ => false
  | _ => true

/-- One completed response: one `send`, or one `write_head` followed by one `end`. -/
inductive OneResponse : List Action → Prop
  | send (code : ℤ) (contentType : Option String) (body : Body) :
      OneResponse [.send code contentType body]
  | headEnd (code : ℤ) (contentType : Option String) (body : Body) :
      OneResponse [.writeHead code contentType, .endWith body]

/-- The actions answer the request exactly once. -/
def AnsweredOnce (actions : List Action) : Prop := OneResponse (actions.filter Action.isResponse)

theorem answeredOnce_send (code : ℤ) (contentType : Option String) (body : Body) :
    AnsweredOnce [.send code contentType body] := .send code contentType body

theorem answeredOnce_headEnd (code : ℤ) (contentType : Option String) (body : Body) :
    AnsweredOnce [.writeHead code contentType, .endWith body] := .headEnd code contentType body

theorem not_answeredOnce_nil : ¬AnsweredOnce [] := nofun

/-- Answering twice is not answering once. -/
theorem not_answeredOnce_append_self (actions : List Action) :
    ¬AnsweredOnce (actions ++ actions) := by
  unfold AnsweredOnce
  rw [List.filter_append]
  generalize actions.filter Action.isResponse = responses
  intro h
  generalize htwice : responses ++ responses = twice at h
  cases h with
  | send =>
    have hlength := congrArg List.length htwice
    simp only [List.length_append, List.length_cons, List.length_nil] at hlength
    omega
  | headEnd =>
    have hlength := congrArg List.length htwice
    simp only [List.length_append, List.length_cons, List.length_nil] at hlength
    obtain ⟨a, rfl⟩ := List.length_eq_one_iff.mp (show responses.length = 1 by omega)
    obtain ⟨hhead, htail⟩ := List.cons.inj htwice
    have hend := (List.cons.inj htail).1
    rw [hhead] at hend
    cases hend

/-! ## HTTP/1 -/

namespace Http1

theorem answeredOnce_nsSelectionRoute (r : Request) :
    AnsweredOnce (nsSelectionRoute C K cfg r) := by
  unfold nsSelectionRoute nSSelectionGetHandler
  split_ifs
  · cases decodeQuery K r.query with
    | error e => exact answeredOnce_send _ _ _
    | ok decoded =>
      cases decoded with
      | none => exact answeredOnce_send _ _ _
      | some p =>
        cases hnf : p.nfType with
        | none =>
          simp only [nSSelectionGet, hnf]
          exact answeredOnce_send _ _ _
        | some nfType =>
          obtain ⟨contentType, -, heq⟩ := nSSelectionGet_eq C cfg hnf
          show AnsweredOnce (nSSelectionGet C cfg p)
          rw [heq]
          exact answeredOnce_send _ _ _
  · exact answeredOnce_send _ _ _

theorem answeredOnce_nSsaiAvailabilityPut (nfId : String) (info : NssaiAvailabilityInfo) :
    AnsweredOnce (nSsaiAvailabilityPut cfg nfId info).1 := by
  unfold nSsaiAvailabilityPut
  dsimp only
  split_ifs
  · exact OneResponse.send _ _ _
  · exact OneResponse.send _ _ _

theorem answeredOnce_nssaiAvailabilityRoute (r : Request) :
    AnsweredOnce (nssaiAvailabilityRoute K cfg r).1 := by
  unfold nssaiAvailabilityRoute
  split_ifs
  · exact answeredOnce_send _ _ _
  · unfold nSsaiAvailabilityPatchHandler
    cases K.parsePatchItems r.body <;> exact answeredOnce_send _ _ _
  · unfold nSsaiAvailabilityPutHandler
    dsimp only
    split
    · exact answeredOnce_send _ _ _
    · exact answeredOnce_nSsaiAvailabilityPut _ _
  · exact answeredOnce_send _ _ _

theorem answeredOnce_sliceConfigRoute (r : Request) : AnsweredOnce (sliceConfigRoute r) := by
  unfold sliceConfigRoute
  split_ifs <;> exact answeredOnce_send _ _ _

theorem answeredOnce_rootRoute (r : Request) : AnsweredOnce (rootRoute r) := by
  unfold rootRoute
  split_ifs <;> exact answeredOnce_send _ _ _

end Http1

/-! ## HTTP/2 -/

namespace Http2

/-- A callback that does the same on every call answers once when no chunk comes and the
    one call answers once. -/
theorem answeredOnce_const_iff {callback : NssfConfig → List UInt8 → Outcome NssfConfig Action}
    {out : Outcome NssfConfig Action} (hconst : ∀ data, callback cfg data = out)
    (hstate : out.state = cfg) (hescaped : out.escaped = true → out.actions = []) (method : String)
    (path : String) (query : Query) (chunk : Option Chunk) :
    AnsweredOnce (run callback cfg (Request.calls ⟨method, path, query, chunk.toList⟩)).actions ↔
      chunk = none ∧ AnsweredOnce out.actions := by
  cases chunk with
  | none =>
    have hcalls : Request.calls ⟨method, path, query, Option.toList none⟩ = [[]] := rfl
    rw [hcalls, run_singleton, hconst]
    exact (and_iff_right rfl).symm
  | some c =>
    have hcalls : Request.calls ⟨method, path, query, Option.toList (some c)⟩ = [c.val, []] := rfl
    refine iff_of_false ?_ nofun
    rw [hcalls, actions_run_pair_of_const hconst hstate]
    split_ifs with hesc
    · rw [hescaped hesc]
      exact not_answeredOnce_nil
    · exact not_answeredOnce_append_self _

/-- The query is one that a single call answers: a parameter does not parse as JSON, or
    all that are read decode and there is slice information. -/
def AnswersSelection (K : Codec) (query : Query) : Prop :=
  (∃ what, decodeSelection K query = .error (.json what)) ∨
    ∃ r, decodeSelection K query = .ok r ∧ r ≠ .neither

theorem answeredOnce_selectionHandler (nfType : String)
    (handle : App.SelectionState → App.SelectionState) :
    AnsweredOnce (selectionHandler nfType handle) := by
  by_cases h : nfType = nfTypeAmf ∨ nfType = nfTypeNssf
  · rw [selectionHandler_of_accepted h]
    exact answeredOnce_headEnd _ _ _
  · rw [selectionHandler_of_refused h]
    exact answeredOnce_headEnd _ _ _

theorem answeredOnce_nsSelectionOnData_iff (query : Query) (data : List UInt8) :
    AnsweredOnce (nsSelectionOnData C K "GET" query cfg data).actions ↔
      AnswersSelection K query := by
  rw [nsSelectionOnData_get, AnswersSelection]
  cases decodeSelection K query with
  | error e =>
    cases e with
    | json what =>
      exact iff_of_true (answeredOnce_headEnd _ _ _) (Or.inl ⟨what, rfl⟩)
    | other what =>
      refine iff_of_false not_answeredOnce_nil ?_
      rintro (⟨_, h⟩ | ⟨_, h, -⟩) <;> cases h
  | ok r =>
    cases r with
    | registration si tai home =>
      exact iff_of_true (answeredOnce_selectionHandler _ _) (Or.inr ⟨_, rfl, nofun⟩)
    | pduSession si tai home =>
      exact iff_of_true (answeredOnce_selectionHandler _ _) (Or.inr ⟨_, rfl, nofun⟩)
    | neither =>
      refine iff_of_false not_answeredOnce_nil ?_
      rintro (⟨_, h⟩ | ⟨_, h, hne⟩)
      · cases h
      · cases h
        exact hne rfl

theorem catchJson_escaped {block : Except Exn (List Action × NssfConfig)}
    (h : (catchJson cfg block).escaped = true) : (catchJson cfg block).actions = [] := by
  cases block with
  | ok r => cases h
  | error e =>
    cases e with
    | json what => cases h
    | other what => rfl

theorem answeredOnce_nsSelectionRoute_iff (method path : String) (query : Query)
    (chunk : Option Chunk) :
    AnsweredOnce (nsSelectionRoute C K cfg ⟨method, path, query, chunk.toList⟩).actions ↔
      chunk = none ∧ method = "GET" ∧ AnswersSelection K query := by
  have hstate := nsSelectionOnData_state C K method query cfg []
  unfold nsSelectionRoute
  rw [answeredOnce_const_iff (fun _ => rfl) hstate catchJson_escaped]
  refine and_congr_right fun _ => ?_
  by_cases hget : method = "GET"
  · rw [hget, and_iff_right rfl]
    exact answeredOnce_nsSelectionOnData_iff query []
  · refine iff_of_false ?_ fun h => hget h.1
    rw [nsSelectionOnData, if_neg hget]
    exact not_answeredOnce_nil

/-- The chunk is one that a single call answers: a PUT that no other exception escapes,
    or a PATCH that does not parse as JSON. -/
def AnswersAvailability (K : Codec) (method : String) (data : List UInt8) : Prop :=
  (method = "PUT" ∧ ¬Escapes (K.parseNssaiAvailabilityInfo (cStrBytes data))) ∨
    (method = "PATCH" ∧ ∃ what, K.parsePatchItems (cStrBytes data) = .error (.json what))

theorem answeredOnce_putOutcome_iff (nfId : String) (parsed : Except Exn NssaiAvailabilityInfo) :
    AnsweredOnce (putOutcome cfg nfId parsed).actions ↔ ¬Escapes parsed := by
  unfold putOutcome
  cases parsed with
  | ok info =>
    obtain ⟨code, contentType, body, heq⟩ := createNssaiAvailabilityHandler_eq cfg nfId info
    refine iff_of_true ?_ id
    simp only [Except.map, catchJson, heq]
    exact OneResponse.headEnd code contentType body
  | error e =>
    cases e with
    | json what => exact iff_of_true (answeredOnce_headEnd _ _ _) id
    | other what => exact iff_of_false not_answeredOnce_nil (not_not_intro trivial)

theorem answeredOnce_availabilityOnData_iff {method path : String} {data : List UInt8}
    (hnfId : pathNfId path ≠ "") (hdata : data ≠ []) :
    AnsweredOnce (availabilityOnData K method path cfg data).actions ↔
      AnswersAvailability K method data := by
  unfold AnswersAvailability
  by_cases hput : method = "PUT"
  · subst hput
    rw [availabilityOnData_put hnfId hdata, answeredOnce_putOutcome_iff]
    simp
  by_cases hpatch : method = "PATCH"
  · subst hpatch
    rw [availabilityOnData, availabilityBlock_eq, if_neg fun h => hput h.2.2,
      if_pos ⟨hnfId, hdata, rfl⟩]
    cases K.parsePatchItems (cStrBytes data) with
    | ok items => exact iff_of_false not_answeredOnce_nil (by simp)
    | error e =>
      cases e with
      | json what => exact iff_of_true (answeredOnce_headEnd _ _ _) (Or.inr ⟨rfl, what, rfl⟩)
      | other what => exact iff_of_false not_answeredOnce_nil (by simp)
  · rw [availabilityOnData_idle (Or.inr (Or.inr ⟨hput, hpatch⟩))]
    refine iff_of_false not_answeredOnce_nil ?_
    rintro (⟨h, -⟩ | ⟨h, -⟩)
    · exact hput h
    · exact hpatch h

theorem answeredOnce_availabilityRoute_iff (method path : String) (query : Query)
    (chunk : Option Chunk) :
    AnsweredOnce (nssaiAvailabilityRoute K cfg ⟨method, path, query, chunk.toList⟩).actions ↔
      pathNfId path ≠ "" ∧ ∃ c, chunk = some c ∧ AnswersAvailability K method c.val := by
  rw [actions_availabilityRoute]
  cases chunk with
  | none =>
    refine iff_of_false not_answeredOnce_nil ?_
    rintro ⟨-, _, h, -⟩
    cases h
  | some c =>
    simp only [Option.toList_some, List.map_cons, List.map_nil, run_singleton, Option.some.injEq,
      exists_eq_left']
    by_cases hnfId : pathNfId path = ""
    · refine iff_of_false ?_ fun h => h.1 hnfId
      rw [availabilityOnData_idle (Or.inl hnfId)]
      exact not_answeredOnce_nil
    · rw [and_iff_right hnfId]
      exact answeredOnce_availabilityOnData_iff hnfId c.property

theorem not_answeredOnce_sliceConfigRoute (r : Request) :
    ¬AnsweredOnce (sliceConfigRoute cfg r).actions := by
  have hpres : Preserves (customOnData getSliceConfig r.method) cfg := fun _ => rfl
  have hnil : ∀ data, (customOnData getSliceConfig r.method cfg data).actions = [] := by
    intro data
    show (if r.method = "GET" then getSliceConfig else []) = []
    exact ite_self []
  rw [sliceConfigRoute, actions_run_eq_nil hpres hnil]
  exact not_answeredOnce_nil

theorem answeredOnce_rootRoute_iff (method path : String) (query : Query)
    (chunk : Option Chunk) :
    AnsweredOnce (rootRoute cfg ⟨method, path, query, chunk.toList⟩).actions ↔
      chunk = none ∧ method = "GET" := by
  have hconst : ∀ data, customOnData getApiListHandler method cfg data =
      customOnData getApiListHandler method cfg [] := fun _ => rfl
  unfold rootRoute
  rw [answeredOnce_const_iff hconst rfl nofun]
  refine and_congr_right fun _ => ?_
  unfold customOnData
  by_cases hget : method = "GET"
  · rw [if_pos hget]
    exact iff_of_true (answeredOnce_headEnd _ _ _) hget
  · rw [if_neg hget]
    exact iff_of_false not_answeredOnce_nil hget

end Http2

/-! ## Both servers -/

/-- Every request to a route of the HTTP/1 server is answered exactly once. On HTTP/2
    that holds of a GET without a body for which `AnswersSelection` holds, of an
    availability request with a chunk for which `AnswersAvailability` holds, of no
    slice-config request, and of a GET of the root without a body. -/
theorem answered_once_iff (C : Common) (K : Codec) (cfg : NssfConfig) :
    (∀ r : Http1.Request,
      AnsweredOnce (Http1.nsSelectionRoute C K cfg r) ∧
      AnsweredOnce (Http1.nssaiAvailabilityRoute K cfg r).1 ∧
      AnsweredOnce (Http1.sliceConfigRoute r) ∧ AnsweredOnce (Http1.rootRoute r)) ∧
    ∀ (method path : String) (query : Query) (chunk : Option Http2.Chunk),
      let r : Http2.Request := ⟨method, path, query, chunk.toList⟩
      (AnsweredOnce (Http2.nsSelectionRoute C K cfg r).actions ↔
        chunk = none ∧ method = "GET" ∧ Http2.AnswersSelection K query) ∧
      (AnsweredOnce (Http2.nssaiAvailabilityRoute K cfg r).actions ↔
        Http2.pathNfId path ≠ "" ∧ ∃ c, chunk = some c ∧
          Http2.AnswersAvailability K method c.val) ∧
      ¬AnsweredOnce (Http2.sliceConfigRoute cfg r).actions ∧
      (AnsweredOnce (Http2.rootRoute cfg r).actions ↔ chunk = none ∧ method = "GET") := by
  refine ⟨fun r => ⟨?_, ?_, ?_, ?_⟩, fun method path query chunk => ⟨?_, ?_, ?_, ?_⟩⟩
  · exact Http1.answeredOnce_nsSelectionRoute r
  · exact Http1.answeredOnce_nssaiAvailabilityRoute r
  · exact Http1.answeredOnce_sliceConfigRoute r
  · exact Http1.answeredOnce_rootRoute r
  · exact Http2.answeredOnce_nsSelectionRoute_iff method path query chunk
  · exact Http2.answeredOnce_availabilityRoute_iff method path query chunk
  · exact Http2.not_answeredOnce_sliceConfigRoute _
  · exact Http2.answeredOnce_rootRoute_iff method path query chunk

/-- A GET of the slice configuration and an NS Selection GET without slice information
    get no response on HTTP/2. -/
theorem unanswered_requests :
    let r : Http2.Request := { method := "GET" }
    ¬AnsweredOnce (Http2.sliceConfigRoute {} r).actions ∧
      ¬AnsweredOnce (Http2.nsSelectionRoute sampleCommon sampleCodec {} r).actions := by
  have hconfig : (Http2.sliceConfigRoute {} { method := "GET" }).actions = [] := by decide
  have hselection :
      (Http2.nsSelectionRoute sampleCommon sampleCodec {} { method := "GET" }).actions = [] := by
    decide
  refine ⟨?_, ?_⟩
  · rw [hconfig]
    exact not_answeredOnce_nil
  · rw [hselection]
    exact not_answeredOnce_nil

end OaiNssf
