import OaiNssf.Server.Selection

/-!
# The NSSAI-availability route of the HTTP/2 server

The callback parses the bytes of each call on their own; nothing is kept from one DATA
chunk to the next.

* `availabilityOnData_put`: a call of a PUT that carries data parses it and answers.
* `availability_framing_iff`: when a PUT whose body comes in chunks is handled like the
  one whose body comes in one.
-/

namespace OaiNssf.Http2

open Callback Decoding SliceAvail

variable {K : Codec} {cfg : NssfConfig}

/-! ## One call -/

/-- The handler of a PUT answers once, after its call of `nssf_app`, and leaves the
    configuration as it was. -/
theorem createNssaiAvailabilityHandler_eq (cfg : NssfConfig) (nfId : String)
    (info : NssaiAvailabilityInfo) :
    ∃ code contentType body, createNssaiAvailabilityHandler cfg nfId info =
      ([.createNssaiAvailability nfId info, .writeHead code contentType, .endWith body], cfg) := by
  have hcfg : (App.handleCreateNssaiAvailability nfId info 2 { cfg := cfg }).cfg = cfg :=
    handleCreate_cfg cfg nfId info 0 2
  unfold createNssaiAvailabilityHandler
  simp only [hcfg]
  split_ifs
  · exact ⟨_, _, _, rfl⟩
  · exact ⟨_, _, _, rfl⟩
  · exact ⟨_, _, _, rfl⟩

/-- The block parses the data of a PUT or a PATCH, if the path ends in an identifier, and
    answers a PUT. -/
theorem availabilityBlock_eq (K : Codec) (method path : String) (cfg : NssfConfig)
    (data : List UInt8) :
    availabilityBlock K method path cfg data =
      if pathNfId path ≠ "" ∧ data ≠ [] ∧ method = "PUT" then
        (K.parseNssaiAvailabilityInfo (cStrBytes data)).map
          (createNssaiAvailabilityHandler cfg (pathNfId path))
      else if pathNfId path ≠ "" ∧ data ≠ [] ∧ method = "PATCH" then
        (K.parsePatchItems (cStrBytes data)).map fun _ => ([], cfg)
      else .ok ([], cfg) := by
  unfold availabilityBlock
  by_cases hnfId : pathNfId path = ""
  · simp [hnfId, pure, Except.pure]
  by_cases hdata : data = []
  · simp [hnfId, hdata, pure, Except.pure]
  have hlen : data.length > 0 := List.length_pos_of_ne_nil hdata
  by_cases hput : method = "PUT"
  · simp only [ne_eq, hnfId, hdata, hput, hlen, not_false_eq_true, and_self, if_true]
    cases K.parseNssaiAvailabilityInfo (cStrBytes data) <;> rfl
  by_cases hpatch : method = "PATCH"
  · rw [if_pos hnfId, if_neg fun h => hput h.1, if_pos ⟨hpatch, hlen⟩,
      if_neg fun h => hput h.2.2, if_pos ⟨hnfId, hdata, hpatch⟩]
    cases K.parsePatchItems (cStrBytes data) <;> rfl
  · rw [if_pos hnfId, if_neg fun h => hput h.1, if_neg fun h => hpatch h.1,
      if_neg fun h => hput h.2.2, if_neg fun h => hpatch h.2.2]
    rfl

/-- Every call leaves the configuration as it was. -/
theorem preserves_availabilityOnData (K : Codec) (method path : String) (cfg : NssfConfig) :
    Preserves (availabilityOnData K method path) cfg := by
  intro data
  rw [availabilityOnData, availabilityBlock_eq]
  refine catchJson_state fun r hr => ?_
  split_ifs at hr
  · obtain ⟨info, -, rfl⟩ := map_eq_ok_iff.mp hr
    obtain ⟨_, _, _, heq⟩ := createNssaiAvailabilityHandler_eq cfg (pathNfId path) info
    rw [heq]
  · obtain ⟨_, -, rfl⟩ := map_eq_ok_iff.mp hr
    rfl
  · cases hr
    rfl

/-- What a call of a PUT does, from what its data parses to. -/
def putOutcome (cfg : NssfConfig) (nfId : String) (parsed : Except Exn NssaiAvailabilityInfo) :
    Outcome NssfConfig Action :=
  catchJson cfg (parsed.map (createNssaiAvailabilityHandler cfg nfId))

theorem availabilityOnData_put {path : String} {data : List UInt8} (hnfId : pathNfId path ≠ "")
    (hdata : data ≠ []) :
    availabilityOnData K "PUT" path cfg data =
      putOutcome cfg (pathNfId path) (K.parseNssaiAvailabilityInfo (cStrBytes data)) := by
  rw [availabilityOnData, availabilityBlock_eq, if_pos ⟨hnfId, hdata, rfl⟩]
  rfl

/-- A call without data, and a call on a path without an identifier, does nothing. -/
theorem availabilityOnData_idle {method path : String} {data : List UInt8}
    (h : pathNfId path = "" ∨ data = [] ∨ (method ≠ "PUT" ∧ method ≠ "PATCH")) :
    availabilityOnData K method path cfg data = { state := cfg, actions := [] } := by
  rw [availabilityOnData, availabilityBlock_eq, if_neg, if_neg]
  · rfl
  · rintro ⟨hnfId, hdata, hpatch⟩
    rcases h with h | h | h
    · exact hnfId h
    · exact hdata h
    · exact h.2 hpatch
  · rintro ⟨hnfId, hdata, hput⟩
    rcases h with h | h | h
    · exact hnfId h
    · exact hdata h
    · exact h.1 hput

/-! ## Framing -/

/-- The exception that escapes a callback. -/
def Escapes {α : Type} : Except Exn α → Prop
  | .error (.other _) => True
  | _ => False

/-- Two decodings that a callback does not tell apart: the same value, or exceptions of
    the same kind. -/
def SameDecoding {α : Type} : Except Exn α → Except Exn α → Prop
  | .ok a, .ok b => a = b
  | .error (.json _), .error (.json _) => True
  | .error (.other _), .error (.other _) => True
  | _, _ => False

theorem putOutcome_escaped_iff (nfId : String) (parsed : Except Exn NssaiAvailabilityInfo) :
    (putOutcome cfg nfId parsed).escaped = true ↔ Escapes parsed := by
  unfold putOutcome
  cases parsed with
  | ok info => simp [Except.map, catchJson, Escapes]
  | error e => cases e <;> simp [Except.map, catchJson, Escapes]

theorem putOutcome_actions_of_escapes {nfId : String}
    {parsed : Except Exn NssaiAvailabilityInfo} (h : Escapes parsed) :
    (putOutcome cfg nfId parsed).actions = [] := by
  cases parsed with
  | ok info => exact absurd h id
  | error e =>
    cases e with
    | json what => exact absurd h id
    | other what => rfl

/-- A call answers unless an exception escapes it, with at most three actions. -/
theorem length_putOutcome_actions (cfg : NssfConfig) (nfId : String)
    (parsed : Except Exn NssaiAvailabilityInfo) :
    (putOutcome cfg nfId parsed).actions.length ≤ 3 ∧
      ((putOutcome cfg nfId parsed).escaped = false →
        2 ≤ (putOutcome cfg nfId parsed).actions.length) := by
  unfold putOutcome
  cases parsed with
  | ok info =>
    obtain ⟨code, contentType, body, heq⟩ := createNssaiAvailabilityHandler_eq cfg nfId info
    simp [Except.map, catchJson, heq]
  | error e => cases e <;> simp [Except.map, catchJson]

/-- Two calls perform the same actions exactly when they decode the same. -/
theorem putOutcome_actions_eq_iff (cfg : NssfConfig) (nfId : String)
    (parsed parsed' : Except Exn NssaiAvailabilityInfo) :
    (putOutcome cfg nfId parsed).actions = (putOutcome cfg nfId parsed').actions ↔
      SameDecoding parsed parsed' := by
  unfold putOutcome
  cases parsed with
  | ok info =>
    obtain ⟨code, contentType, body, heq⟩ := createNssaiAvailabilityHandler_eq cfg nfId info
    cases parsed' with
    | ok info' =>
      obtain ⟨code', contentType', body', heq'⟩ :=
        createNssaiAvailabilityHandler_eq cfg nfId info'
      constructor
      · intro h
        simp only [Except.map, catchJson, heq, heq', List.cons.injEq,
          Action.createNssaiAvailability.injEq] at h
        exact h.1.2
      · intro h
        rw [show info = info' from h]
    | error e => cases e <;> simp [Except.map, catchJson, heq, SameDecoding]
  | error e =>
    cases parsed' with
    | ok info' =>
      obtain ⟨code', contentType', body', heq'⟩ :=
        createNssaiAvailabilityHandler_eq cfg nfId info'
      cases e <;> simp [Except.map, catchJson, heq', SameDecoding]
    | error e' => cases e <;> cases e' <;> simp [Except.map, catchJson, SameDecoding]

/-- The body in one chunk, or in none when it is empty. -/
def coalesce (chunks : List Chunk) : List Chunk :=
  let body := (chunks.map Subtype.val).flatten
  if h : body ≠ [] then [⟨body, h⟩] else []

/-- Framing makes no difference to a PUT: nothing is handled, the body comes in one
    chunk, or an exception that escapes the first or the second call ends the run where
    the first chunk has done what the whole body does. -/
def FramingIrrelevant (K : Codec) (path : String) (chunks : List Chunk) : Prop :=
  let parse (data : List UInt8) := K.parseNssaiAvailabilityInfo (cStrBytes data)
  pathNfId path = "" ∨
    match chunks with
    | first :: second :: _ =>
      SameDecoding (parse first) (parse (chunks.map Subtype.val).flatten) ∧
        (Escapes (parse first) ∨ Escapes (parse second))
    | _ => True

/-- The last call of a request, without data, does nothing. -/
theorem actions_availabilityRoute (r : Request) :
    (nssaiAvailabilityRoute K cfg r).actions =
      (run (availabilityOnData K r.method r.path) cfg (r.chunks.map Subtype.val)).actions := by
  unfold nssaiAvailabilityRoute Request.calls
  refine actions_run_concat (preserves_availabilityOnData K _ _ cfg) _ ?_
  rw [availabilityOnData_idle (Or.inr (Or.inl rfl))]

theorem coalesce_singleton (chunk : Chunk) : coalesce [chunk] = [chunk] := by
  have hbody : ([chunk].map Subtype.val).flatten = chunk.val := by simp
  unfold coalesce
  simp only [hbody, chunk.property, ne_eq, not_false_eq_true, dif_pos]

theorem map_val_coalesce {chunks : List Chunk} (h : (chunks.map Subtype.val).flatten ≠ []) :
    (coalesce chunks).map Subtype.val = [(chunks.map Subtype.val).flatten] := by
  unfold coalesce
  rw [dif_pos h]
  rfl

/-- Two chunks or more do what the whole body does in one call. -/
theorem actions_run_chunks_eq_iff {path : String} (hnfId : pathNfId path ≠ "")
    {first second whole : List UInt8} (hfirst : first ≠ []) (hsecond : second ≠ [])
    (hwhole : whole ≠ []) (rest : List (List UInt8)) :
    (run (availabilityOnData K "PUT" path) cfg (first :: second :: rest)).actions =
        (availabilityOnData K "PUT" path cfg whole).actions ↔
      SameDecoding (K.parseNssaiAvailabilityInfo (cStrBytes first))
          (K.parseNssaiAvailabilityInfo (cStrBytes whole)) ∧
        (Escapes (K.parseNssaiAvailabilityInfo (cStrBytes first)) ∨
          Escapes (K.parseNssaiAvailabilityInfo (cStrBytes second))) := by
  have hpres := preserves_availabilityOnData K "PUT" path cfg
  rw [actions_run_cons_cons_eq_iff hpres]
  swap
  · intro hesc hesc'
    rw [availabilityOnData_put hnfId hfirst] at hesc ⊢
    rw [availabilityOnData_put hnfId hsecond] at hesc' ⊢
    rw [availabilityOnData_put hnfId hwhole]
    have h1 := (length_putOutcome_actions _ _ _).2 hesc
    have h2 := (length_putOutcome_actions _ _ _).2 hesc'
    have h3 := (length_putOutcome_actions cfg (pathNfId path)
      (K.parseNssaiAvailabilityInfo (cStrBytes whole))).1
    omega
  rw [availabilityOnData_put hnfId hfirst, availabilityOnData_put hnfId hsecond,
    availabilityOnData_put hnfId hwhole, ← Bool.not_eq_true, putOutcome_escaped_iff,
    putOutcome_escaped_iff]
  constructor
  · rintro (⟨hesc, heq⟩ | ⟨-, hesc, heq⟩)
    · exact ⟨(putOutcome_actions_eq_iff _ _ _ _).mp heq, Or.inl hesc⟩
    · rw [putOutcome_actions_of_escapes hesc, List.append_nil] at heq
      exact ⟨(putOutcome_actions_eq_iff _ _ _ _).mp heq, Or.inr hesc⟩
  · rintro ⟨hsame, hesc⟩
    have heq := (putOutcome_actions_eq_iff cfg (pathNfId path) _ _).mpr hsame
    by_cases hfirst' : Escapes (K.parseNssaiAvailabilityInfo (cStrBytes first))
    · exact Or.inl ⟨hfirst', heq⟩
    · have hsecond' := hesc.resolve_left hfirst'
      refine Or.inr ⟨hfirst', hsecond', ?_⟩
      rw [putOutcome_actions_of_escapes hsecond', List.append_nil, heq]

/-- A PUT is handled like the same PUT with its body in one chunk exactly when
    `FramingIrrelevant` holds. -/
theorem availability_framing_iff (K : Codec) (cfg : NssfConfig) (path : String) (query : Query)
    (chunks : List Chunk) :
    (nssaiAvailabilityRoute K cfg ⟨"PUT", path, query, chunks⟩).actions =
        (nssaiAvailabilityRoute K cfg ⟨"PUT", path, query, coalesce chunks⟩).actions ↔
      FramingIrrelevant K path chunks := by
  rw [actions_availabilityRoute, actions_availabilityRoute]
  by_cases hnfId : pathNfId path = ""
  · have hidle : ∀ data, (availabilityOnData K "PUT" path cfg data).actions = [] := by
      intro data
      rw [availabilityOnData_idle (Or.inl hnfId)]
    have hpres := preserves_availabilityOnData K "PUT" path cfg
    refine iff_of_true ?_ (Or.inl hnfId)
    rw [actions_run_eq_nil hpres hidle, actions_run_eq_nil hpres hidle]
  match chunks with
  | [] => exact iff_of_true rfl (Or.inr trivial)
  | [chunk] =>
    rw [coalesce_singleton]
    exact iff_of_true rfl (Or.inr trivial)
  | first :: second :: rest =>
    have hwhole : ((first :: second :: rest).map Subtype.val).flatten ≠ [] := by
      simp [first.property]
    rw [map_val_coalesce hwhole, run_singleton, FramingIrrelevant, or_iff_right hnfId]
    exact actions_run_chunks_eq_iff hnfId first.property second.property hwhole _

/-- A PUT of the availability document for `amf-1`, cut after ten bytes: both calls fail
    to parse and answer 400, where the whole document is accepted. -/
theorem split_put_differs :
    let body := asciiBytes availabilityText
    let chunks : List Chunk := [⟨body.take 10, by decide⟩, ⟨body.drop 10, by decide⟩]
    let cfg : NssfConfig := { amfInfoList := [{ targetAmfSet := "set-1" }] }
    let path := "/nnssf-nssaiavailability/v1/nssai-availability/amf-1"
    let put (chunks : List Chunk) : Request :=
      { method := "PUT", path := path, chunks := chunks }
    (nssaiAvailabilityRoute sampleCodec cfg (put chunks)).actions ≠
      (nssaiAvailabilityRoute sampleCodec cfg (put (coalesce chunks))).actions := by
  decide

end OaiNssf.Http2
