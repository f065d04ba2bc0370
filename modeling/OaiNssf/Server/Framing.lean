import OaiNssf.Server.Answers
import OaiNssf.Server.Connections
import OaiNssf.Server.Streams

/-!
# What the HTTP/2 server responds, however bodies are framed

A callback of the HTTP/2 server completes at most one response on each call, from the data of
that call. On a stream there is therefore a response for each of its calls that has one: as many
as the body has DATA chunks, one more, or none, depending on the resource. A response is a
`write_head` with its `end`, as the callback issues them; nghttp2 sends the first of a stream.

* `Stream.reply`: the response to a call, without the handlers' actions.
* `http2_run_responds`: a run is that function, call by call, on every stream.
* `responses_per_request`: how many responses a request gets.
-/

namespace OaiNssf.Http2

open Callback Decoding SliceAvail
open SliceSelect (sampleCommon)

variable {C : Common} {K : Codec} {cfg : NssfConfig}

/-! ## The response to a call -/

section Replies

variable (C K cfg)

/-- The response of a selection handler, from what the handler of `nssf_app` leaves. -/
def selectedReply (nfType : String) (st : App.SelectionState) : Reply :=
  if nfType = nfTypeAmf ∨ nfType = nfTypeNssf then
    ⟨st.httpCode, some "application/json", st.body⟩
  else ⟨HttpStatusCode.badRequest, some "application/json", .empty⟩

/-- The response of a `try` block with its handler: a JSON exception has one, another
    exception has none. -/
def tryReply {α : Type} (reply : α → Option Reply) : Except Exn α → Option Reply
  | .ok a => reply a
  | .error (.json _) => some ⟨HttpStatusCode.badRequest, none, .empty⟩
  | .error (.other _) => none

/-- The response to a decoded GET on the NS Selection route. -/
def decodedReply (query : Query) : SelectionRequest → Option Reply
  | .registration sliceInfo tai home =>
    some (selectedReply (getQueryParam query .nfType)
      (App.handleSliceInfoForRegistration C cfg sliceInfo tai home
        (getQueryParam query .supportedFeatures) 2 {}))
  | .pduSession sliceInfo tai home =>
    some (selectedReply (getQueryParam query .nfType)
      (App.handleSliceInfoForPduSession C cfg sliceInfo tai home
        (getQueryParam query .supportedFeatures) 2 {}))
  | .neither => none

/-- The response to an availability document. -/
def createdReply (info : NssaiAvailabilityInfo) : Reply :=
  if putStatus cfg info = HttpStatusCode.noContent then
    ⟨HttpStatusCode.noContent, none, .empty⟩
  else ⟨putStatus cfg info, some "application/problem+json", .problemDetails {}⟩

/-- The response to a call on the NF Instance ID route. -/
def availabilityReply (method path : String) (data : List UInt8) : Option Reply :=
  if pathNfId path ≠ "" ∧ data ≠ [] ∧ method = "PUT" then
    tryReply (fun info => some (createdReply cfg info))
      (K.parseNssaiAvailabilityInfo (cStrBytes data))
  else if pathNfId path ≠ "" ∧ data ≠ [] ∧ method = "PATCH" then
    tryReply (fun _ => none) (K.parsePatchItems (cStrBytes data))
  else none

/-- The response to a call on a stream, if there is one. -/
def Stream.reply (stream : Stream) (data : List UInt8) : Option Reply :=
  match stream.resource with
  | .networkSliceInformation =>
    if stream.method = "GET" then
      tryReply (decodedReply C cfg stream.query) (decodeSelection K stream.query)
    else none
  | .nfInstanceId => availabilityReply K cfg stream.method stream.path data
  | .subscriptions => none
  | .sliceConfig => none
  | .apiList =>
    if stream.method = "GET" then
      some ⟨HttpStatusCode.ok, some "application/json", .apiList⟩
    else none

end Replies

/-! ## The callbacks -/

/-- The actions consist of this response, if any, completed before what follows. -/
def Sends (actions : List Action) (reply : Option Reply) : Prop :=
  ∀ rest, replies (actions ++ rest) = reply.toList ++ replies rest

theorem sends_nil : Sends [] none := fun _ => rfl

theorem sends_selectionHandler (nfType : String)
    (handle : App.SelectionState → App.SelectionState) :
    Sends (selectionHandler nfType handle) (some (selectedReply nfType (handle {}))) := by
  intro rest
  unfold selectedReply
  by_cases h : nfType = nfTypeAmf ∨ nfType = nfTypeNssf
  · rw [selectionHandler_of_accepted h, if_pos h]
    rfl
  · rw [selectionHandler_of_refused h, if_neg h]
    rfl

/-- A `try` block responds with what it returns, or with what its handler sends. -/
theorem sends_catchJson {α : Type} {x : Except Exn α} {f : α → List Action × NssfConfig}
    {reply : α → Option Reply} (h : ∀ a, Sends (f a).1 (reply a)) :
    Sends (catchJson cfg (x.map f)).actions (tryReply reply x) := by
  cases x with
  | error e =>
    cases e with
    | json what => exact fun rest => rfl
    | other what => exact sends_nil
  | ok a => exact h a

theorem sends_answerSelection (query : Query) (r : SelectionRequest) :
    Sends (answerSelection C cfg query r) (decodedReply C cfg query r) := by
  cases r with
  | registration si tai home => exact sends_selectionHandler _ _
  | pduSession si tai home => exact sends_selectionHandler _ _
  | neither => exact sends_nil

theorem sends_nsSelectionOnData (method : String) (query : Query) (data : List UInt8) :
    Sends (nsSelectionOnData C K method query cfg data).actions
      (if method = "GET" then tryReply (decodedReply C cfg query) (decodeSelection K query)
        else none) := by
  by_cases hget : method = "GET"
  · subst hget
    rw [nsSelectionOnData_get, if_pos rfl]
    exact sends_catchJson (sends_answerSelection query)
  · rw [if_neg hget, nsSelectionOnData, if_neg hget]
    exact sends_nil

theorem sends_createNssaiAvailabilityHandler (nfId : String) (info : NssaiAvailabilityInfo) :
    Sends (createNssaiAvailabilityHandler cfg nfId info).1 (some (createdReply cfg info)) := by
  intro rest
  unfold createNssaiAvailabilityHandler createdReply
  rw [App.handleCreateNssaiAvailability_eq]
  dsimp only
  by_cases hcode : putStatus cfg info = HttpStatusCode.noContent
  · rw [if_pos hcode, if_pos hcode, hcode]
    rfl
  · rw [if_neg hcode, if_neg (putStatus_ne_ok cfg info), if_neg hcode]
    rfl

theorem sends_availabilityOnData (method path : String) (data : List UInt8) :
    Sends (availabilityOnData K method path cfg data).actions
      (availabilityReply K cfg method path data) := by
  rw [availabilityOnData, availabilityBlock_eq]
  unfold availabilityReply
  split_ifs
  · exact sends_catchJson (sends_createNssaiAvailabilityHandler (pathNfId path))
  · refine sends_catchJson ?_
    exact fun _ => sends_nil
  · exact sends_nil

/-- A call on a stream sends its response. -/
theorem Stream.answer_sends (stream : Stream) (data : List UInt8) :
    Sends (stream.answer C K cfg data).actions (stream.reply C K cfg data) := by
  obtain ⟨resource, method, path, query⟩ := stream
  cases resource with
  | networkSliceInformation =>
    simp only [Stream.answer, Stream.onDataAlone, Stream.reply]
    exact sends_nsSelectionOnData method query data
  | nfInstanceId =>
    simp only [Stream.answer, Stream.onDataAlone, Stream.reply]
    exact sends_availabilityOnData method path data
  | subscriptions => exact sends_nil
  | sliceConfig =>
    simp only [Stream.answer, Stream.onDataAlone, Stream.reply, customOnData, getSliceConfig,
      ite_self]
    exact sends_nil
  | apiList =>
    simp only [Stream.answer, Stream.onDataAlone, Stream.reply, customOnData]
    split_ifs
    · exact fun rest => rfl
    · exact sends_nil

/-! ## The server -/

/-- On a stream are sent the responses to its handled calls. -/
theorem replies_serve {κ : Type} [DecidableEq κ] (C : Common) (K : Codec) (streams : κ → Stream)
    (cfg : NssfConfig) (calls : List (κ × List UInt8)) (k : κ) :
    replies (ofSession k (serve C K streams cfg calls).actions) =
      (ofSession k (handledCalls C K cfg streams calls)).filterMap
        ((streams k).reply C K cfg) := by
  rw [serve, (server_answers C K cfg streams).run_actions rfl, ofSession_flatMap_tagged]
  exact read_flatMap rfl (fun data => (streams k).answer_sends data) _

/-- A run of the server, for every interleaving of the calls of any streams: on each stream is
    completed, for each of its calls that is handled, the response that the configuration
    loaded at the start and the data of this call decide. All calls are handled unless an
    exception ends the server. -/
theorem http2_run_responds {κ : Type} [DecidableEq κ] (C : Common) (K : Codec)
    (streams : κ → Stream) (cfg : NssfConfig) (calls : List (κ × List UInt8)) :
    ∃ handled, handled <+: calls ∧
      ((serve C K streams cfg calls).escaped = false → handled = calls) ∧
      ∀ k, replies (ofSession k (serve C K streams cfg calls).actions) =
        (ofSession k handled).filterMap ((streams k).reply C K cfg) :=
  ⟨handledCalls C K cfg streams calls, handled_isPrefix calls, handledCalls_of_not_escaped,
    replies_serve C K streams cfg calls⟩

/-! ## The number of responses -/

/-- A callback that responds the same to every call responds once for each. -/
theorem length_filterMap_const {reply : List UInt8 → Option Reply} {r : Option Reply}
    (h : ∀ data, reply data = r) (calls : List (List UInt8)) :
    (calls.filterMap reply).length = if r.isSome then calls.length else 0 := by
  have hconst : reply = fun _ => r := funext h
  subst hconst
  induction calls with
  | nil => simp
  | cons data calls ih =>
    cases r with
    | none =>
      rw [List.filterMap_cons_none rfl]
      exact ih
    | some r => simp

/-- A `try` block from which no exception escapes responds, unless it decodes something
    without a response. -/
theorem tryReply_isSome_iff {α : Type} {reply : α → Option Reply} {x : Except Exn α}
    (hx : ¬Escapes x) : (tryReply reply x).isSome = true ↔ ∀ a, x = .ok a → (reply a).isSome := by
  cases x with
  | ok a =>
    constructor
    · rintro h a' ⟨⟩
      exact h
    · intro h
      exact h a rfl
  | error e =>
    cases e with
    | json what => exact iff_of_true rfl (by simp)
    | other what => exact absurd trivial hx

/-- The bytes of a call are not a JSON document of patch items. -/
def NotPatchItems (K : Codec) (data : List UInt8) : Bool :=
  match K.parsePatchItems (cStrBytes data) with
  | .ok _ => false
  | .error _ => true

/-- The responses to a body on the NF Instance ID route: one for each chunk of a PUT, one for
    each chunk of a PATCH that is no JSON document of patch items. -/
theorem length_availabilityReply {method path : String} (hnfId : pathNfId path ≠ "")
    {chunks : List Chunk}
    (hput : method = "PUT" →
      ∀ c ∈ chunks, ¬Escapes (K.parseNssaiAvailabilityInfo (cStrBytes c.val)))
    (hpatch : method = "PATCH" → ∀ c ∈ chunks, ¬Escapes (K.parsePatchItems (cStrBytes c.val))) :
    ((chunks.map Subtype.val).filterMap (availabilityReply K cfg method path)).length =
      if method = "PUT" then chunks.length
      else if method = "PATCH" then chunks.countP (fun c => NotPatchItems K c.val) else 0 := by
  induction chunks with
  | nil => simp
  | cons c chunks ih =>
    have hrest := ih (fun hm d hd => hput hm d (List.mem_cons_of_mem c hd))
      (fun hm d hd => hpatch hm d (List.mem_cons_of_mem c hd))
    rw [List.map_cons, List.filterMap_cons]
    by_cases hm : method = "PUT"
    · obtain ⟨reply, hreply⟩ : ∃ reply, availabilityReply K cfg method path c.val = some reply := by
        rw [← Option.isSome_iff_exists, availabilityReply, if_pos ⟨hnfId, c.property, hm⟩,
          tryReply_isSome_iff (hput hm c List.mem_cons_self)]
        simp
      rw [if_pos hm] at hrest
      rw [hreply, if_pos hm, List.length_cons, List.length_cons, hrest]
    by_cases hm' : method = "PATCH"
    · rw [if_neg hm, if_pos hm'] at hrest
      rw [if_neg hm, if_pos hm', List.countP_cons, availabilityReply, if_neg fun h => hm h.2.2,
        if_pos ⟨hnfId, c.property, hm'⟩, NotPatchItems, ← hrest]
      have hesc := hpatch hm' c List.mem_cons_self
      cases hparsed : K.parsePatchItems (cStrBytes c.val) with
      | ok items => simp [tryReply]
      | error e =>
        cases e with
        | json what => simp [tryReply]
        | other what =>
          rw [hparsed] at hesc
          exact absurd trivial hesc
    · rw [if_neg hm, if_neg hm'] at hrest
      rw [if_neg hm, if_neg hm', availabilityReply, if_neg fun h => hm h.2.2,
        if_neg fun h => hm' h.2.2]
      exact hrest

/-- The responses to a GET on the NS Selection route, whatever its calls carry. -/
theorem length_selectionReply (C : Common) (cfg : NssfConfig) {query : Query}
    (hesc : ¬Escapes (decodeSelection K query)) (calls : List (List UInt8)) :
    (AnswersSelection K query →
      (calls.filterMap fun _ =>
        tryReply (decodedReply C cfg query) (decodeSelection K query)).length = calls.length) ∧
    (¬AnswersSelection K query →
      (calls.filterMap fun _ =>
        tryReply (decodedReply C cfg query) (decodeSelection K query)).length = 0) := by
  have hiff : (tryReply (decodedReply C cfg query) (decodeSelection K query)).isSome = true ↔
      AnswersSelection K query := by
    unfold AnswersSelection
    generalize decodeSelection K query = decoded at hesc
    cases decoded with
    | error e =>
      cases e with
      | json what => exact iff_of_true rfl (Or.inl ⟨what, rfl⟩)
      | other what => exact absurd trivial hesc
    | ok r =>
      cases r with
      | registration si tai home => exact iff_of_true rfl (Or.inr ⟨_, rfl, nofun⟩)
      | pduSession si tai home => exact iff_of_true rfl (Or.inr ⟨_, rfl, nofun⟩)
      | neither => exact iff_of_false Bool.false_ne_true (by simp)
  constructor
  · intro h
    rw [length_filterMap_const (fun _ => rfl), if_pos (hiff.mpr h)]
  · intro h
    rw [length_filterMap_const (fun _ => rfl), if_neg fun hsome => h (hiff.mp hsome)]

/-- In a run that no exception ends, the callbacks complete for a request whose body comes in any
    number of DATA chunks: on the NS Selection route one response for each chunk and one more, if
    it is a GET for which `AnswersSelection` holds; on the NF Instance ID route, if the path ends in
    an identifier, one for each chunk of a PUT and one for each chunk of a PATCH that holds
    no patch items; at the root one for each chunk of a GET and one more; otherwise none. Of
    several, nghttp2 sends the first. -/
theorem responses_per_request {κ : Type} [DecidableEq κ] (C : Common) (K : Codec)
    (streams : κ → Stream) (cfg : NssfConfig) {calls : List (κ × List UInt8)} {k : κ}
    {chunks : List Chunk} (hcalls : ofSession k calls = chunks.map Subtype.val ++ [[]])
    (hrun : (serve C K streams cfg calls).escaped = false) :
    let stream := streams k
    let n := (replies (ofSession k (serve C K streams cfg calls).actions)).length
    (stream.resource = .networkSliceInformation →
      (stream.method = "GET" ∧ AnswersSelection K stream.query → n = chunks.length + 1) ∧
      (¬(stream.method = "GET" ∧ AnswersSelection K stream.query) → n = 0)) ∧
    (stream.resource = .nfInstanceId →
      n = if pathNfId stream.path = "" then 0
        else if stream.method = "PUT" then chunks.length
        else if stream.method = "PATCH" then chunks.countP fun c => NotPatchItems K c.val
        else 0) ∧
    (stream.resource = .apiList → n = if stream.method = "GET" then chunks.length + 1 else 0) ∧
    (stream.resource = .subscriptions ∨ stream.resource = .sliceConfig → n = 0) := by
  intro stream n
  -- no call on the stream throws, and all are handled
  have hthrows : ∀ data ∈ chunks.map Subtype.val ++ [[]], ¬stream.Throws K data := by
    intro data hdata hthrow
    rw [← hcalls] at hdata
    have hmem : (k, data) ∈ calls := mem_iff_mem_ofSession.mpr hdata
    have hesc : (serve C K streams cfg calls).escaped = true :=
      (escaped_serve_iff streams calls).mpr ⟨(k, data), hmem, hthrow⟩
    simp [hrun] at hesc
  have hn : n = ((chunks.map Subtype.val ++ [[]]).filterMap (stream.reply C K cfg)).length := by
    have hreplies := replies_serve C K streams cfg calls k
    rw [handledCalls_of_not_escaped hrun, hcalls] at hreplies
    exact congrArg List.length hreplies
  have hlength : (chunks.map Subtype.val ++ [[]]).length = chunks.length + 1 := by simp
  clear_value n stream
  subst hn
  obtain ⟨resource, method, path, query⟩ := stream
  refine ⟨?_, ?_, ?_, ?_⟩
  · rintro rfl
    by_cases hget : method = "GET"
    · have hesc : ¬Escapes (decodeSelection K query) := fun h =>
        hthrows [] (by simp) (by simp [Stream.Throws, hget, h])
      have hreply : Stream.reply C K cfg ⟨.networkSliceInformation, method, path, query⟩ =
          fun _ => tryReply (decodedReply C cfg query) (decodeSelection K query) := by
        funext data
        simp [Stream.reply, hget]
      obtain ⟨hanswers, hnot⟩ := length_selectionReply C cfg hesc
        (chunks.map Subtype.val ++ [[]])
      rw [hreply]
      refine ⟨fun h => (hanswers h.2).trans hlength, fun h => hnot fun ha => h ⟨hget, ha⟩⟩
    · have hreply : ∀ data,
          Stream.reply C K cfg ⟨.networkSliceInformation, method, path, query⟩ data = none := by
        intro data
        simp [Stream.reply, hget]
      rw [length_filterMap_const hreply]
      exact ⟨fun h => absurd h.1 hget, fun _ => rfl⟩
  · rintro rfl
    have hlast : availabilityReply K cfg method path [] = none := by simp [availabilityReply]
    have hreply : Stream.reply C K cfg ⟨.nfInstanceId, method, path, query⟩ =
        availabilityReply K cfg method path := by
      funext data
      simp only [Stream.reply]
    rw [hreply, List.filterMap_append, List.filterMap_cons_none hlast, List.filterMap_nil,
      List.append_nil]
    by_cases hnfId : pathNfId path = ""
    · have hnone : ∀ data, availabilityReply K cfg method path data = none := by
        intro data
        simp [availabilityReply, hnfId]
      rw [length_filterMap_const hnone, if_pos hnfId]
      rfl
    · have hmem : ∀ c ∈ chunks, c.val ∈ chunks.map Subtype.val ++ [[]] := fun c hc =>
        List.mem_append_left _ (List.mem_map_of_mem hc)
      rw [if_neg hnfId]
      apply length_availabilityReply hnfId
      · intro hput c hc h
        exact hthrows c.val (hmem c hc) (by simp [Stream.Throws, hnfId, c.property, hput, h])
      · intro hpatch c hc h
        exact hthrows c.val (hmem c hc) (by simp [Stream.Throws, hnfId, c.property, hpatch, h])
  · rintro rfl
    by_cases hget : method = "GET"
    · have hreply : ∀ data, Stream.reply C K cfg ⟨.apiList, method, path, query⟩ data =
          some ⟨HttpStatusCode.ok, some "application/json", .apiList⟩ := by
        intro data
        simp [Stream.reply, hget]
      rw [length_filterMap_const hreply, if_pos hget]
      exact hlength
    · have hreply : ∀ data, Stream.reply C K cfg ⟨.apiList, method, path, query⟩ data = none := by
        intro data
        simp [Stream.reply, hget]
      rw [length_filterMap_const hreply, if_neg hget]
      rfl
  · intro hresource
    have hreply : ∀ data, Stream.reply C K cfg ⟨resource, method, path, query⟩ data = none := by
      intro data
      rcases hresource with rfl | rfl
      · rfl
      · rfl
    rw [length_filterMap_const hreply]
    rfl

/-- The head of a PUT for `amf-1`. -/
def samplePut : Stream where
  resource := .nfInstanceId
  method := "PUT"
  path := "/amf-1"

/-- A PUT in two chunks, neither of which is a document, is answered twice. -/
theorem responses_per_request_sample :
    (replies (ofSession () (serve sampleCommon sampleCodec (fun _ => samplePut) {}
      [((), [65]), ((), [66]), ((), [])]).actions)).length = 2 := by
  let chunks : List Chunk := [⟨[65], by decide⟩, ⟨[66], by decide⟩]
  have hcalls : ofSession () [((), [65]), ((), [66]), ((), [])] =
      chunks.map Subtype.val ++ [[]] := by decide
  have hrun : (serve sampleCommon sampleCodec (fun _ => samplePut) {}
      [((), [65]), ((), [66]), ((), [])]).escaped = false := rfl
  have hnfId : pathNfId samplePut.path ≠ "" := by decide
  have hcount := (responses_per_request sampleCommon sampleCodec (fun _ => samplePut) {} hcalls
    hrun).2.1 rfl
  rw [if_neg hnfId, if_pos (show samplePut.method = "PUT" from rfl)] at hcount
  exact hcount

end OaiNssf.Http2
