import OaiNssf.Config.Reload
import OaiNssf.Config.RoundTrip
import OaiNssf.Server.SameHandlers

/-!
# Loading again what is loaded

A load appends, and the handlers take the first entry that fits. Entries that are in the lists
already never come first, so that loading them again changes nothing that is sent.

* `sameHandlers_append`: entries that are there already.
* `reloads_change_no_response`: any number of further loads that bring nothing new.
* `loads_keep_grants`: any further loads, for the requests that are granted.
-/

namespace OaiNssf

open Callback Coverage SliceSelect

variable {C : Common} {cfg more : NssfConfig}

/-! ## Entries that are there already -/

section Append

variable (h : more.Within cfg)
include h

theorem taAuthorised_append (tai : Tai) :
    TaAuthorised cfg tai ↔ TaAuthorised (cfg.append more) tai := by
  have hmem : ∀ item, item ∈ (cfg.append more).taInfoList ↔ item ∈ cfg.taInfoList := by
    intro item
    constructor
    · intro hitem
      rcases List.mem_append.mp hitem with hitem | hitem
      · exact hitem
      · exact h.ta hitem
    · intro hitem
      exact List.mem_append_left _ hitem
  unfold TaAuthorised TaConfigured
  simp only [hmem]

/-- A registration is decided alike. -/
theorem registrationDecides_append {si : SliceInfoForRegistration} {tai : Tai} {home : PlmnId}
    {v : RegistrationVerdict} (hv : RegistrationDecides C cfg si tai home v) :
    RegistrationDecides C (cfg.append more) si tai home v := by
  have hta := taAuthorised_append h tai
  cases hv with
  | notSupported hscope => exact .notSupported hscope
  | taNotAuthorised hscope hnot => exact .taNotAuthorised hscope (mt hta.mpr hnot)
  | undecided hscope hok hnone => exact .undecided hscope (hta.mp hok) hnone
  | notInPlmn hscope hok hreq hsub hmatch =>
    exact .notInPlmn hscope (hta.mp hok) hreq hsub hmatch
  | noAmfSet hscope hok hreq hsub hmatch hamf =>
    refine .noAmfSet hscope (hta.mp hok) hreq hsub hmatch ?_
    intro set hset
    rcases List.mem_append.mp hset with hset | hset
    · exact hamf set hset
    · exact hamf set (h.amf hset)
  | granted hscope hok hreq hsub hmatch hamf =>
    exact .granted hscope (hta.mp hok) hreq hsub hmatch (hamf.append _)

/-- A PDU session is decided alike. -/
theorem pduSessionDecides_append {si : SliceInfoForPDUSession} {tai : Tai} {home : PlmnId}
    {v : PduSessionVerdict} (hv : PduSessionDecides C cfg si tai home v) :
    PduSessionDecides C (cfg.append more) si tai home v := by
  have hta := taAuthorised_append h tai
  cases hv with
  | notSupported hroam => exact .notSupported hroam
  | taNotAuthorised hroam hnot => exact .taNotAuthorised hroam (mt hta.mpr hnot)
  | noNsi hroam hok hnsi =>
    refine .noNsi hroam (hta.mp hok) ?_
    intro item hitem
    rcases List.mem_append.mp hitem with hitem | hitem
    · exact hnsi item hitem
    · exact hnsi item (h.nsi hitem)
  | granted hroam hok hnsi => exact .granted hroam (hta.mp hok) (hnsi.append _)

theorem putStatus_append : putStatus cfg = putStatus (cfg.append more) := by
  have hkey : ∀ set, SliceAvail.amfSets.HasKey (cfg.append more).amfInfoList set ↔
      SliceAvail.amfSets.HasKey cfg.amfInfoList set := by
    intro set
    constructor
    · rintro ⟨item, hitem, hname⟩
      rcases List.mem_append.mp hitem with hitem | hitem
      · exact ⟨item, hitem, hname⟩
      · exact ⟨item, h.amf hitem, hname⟩
    · rintro ⟨item, hitem, hname⟩
      exact ⟨item, List.mem_append_left _ hitem, hname⟩
  funext info
  unfold putStatus
  simp only [hkey]

theorem sameHandlers_append (C : Common) : SameHandlers C cfg (cfg.append more) where
  registration := by
    funext si tai home features httpCode httpVersion auth
    obtain ⟨v, hv⟩ := exists_registrationDecides C cfg si tai home
    rw [hv.handle_eq, (registrationDecides_append h hv).handle_eq]
  pduSession := by
    funext si tai home features httpCode httpVersion auth
    obtain ⟨v, hv⟩ := exists_pduSessionDecides C cfg si tai home
    rw [hv.handle_eq, (pduSessionDecides_append h hv).handle_eq]
  put := putStatus_append h

end Append

/-! ## Further loads -/

variable {Node : Type} {Y : Yaml Node}

/-- A load that returns, and that brings only entries that `cfg` has. -/
def BringsNothing (Y : Yaml Node) (cfg : NssfConfig) (loaded : Except LoadException Node) :
    Prop :=
  ∃ accepted more, Config.parseConfig Y loaded {} = .ok (accepted, more) ∧ more.Within cfg

/-- Loads that bring nothing keep the handlers as they are. -/
theorem exists_loadAll_eq (C : Common) {docs : List (Except LoadException Node)}
    (hdocs : ∀ loaded ∈ docs, BringsNothing Y cfg loaded) {lists : NssfConfig}
    (hwithin : cfg.Within lists) (hsame : SameHandlers C cfg lists) :
    ∃ lists', Config.loadAll Y docs lists = .ok lists' ∧ SameHandlers C cfg lists' := by
  induction docs generalizing lists with
  | nil => exact ⟨lists, rfl, hsame⟩
  | cons loaded docs ih =>
    obtain ⟨accepted, more, hload, hmore⟩ := hdocs loaded List.mem_cons_self
    have hstep : SameHandlers C cfg (lists.append more) :=
      hsame.trans (sameHandlers_append (hmore.trans hwithin) C)
    have hwithin' : cfg.Within (lists.append more) := hwithin.trans (lists.within_append more)
    obtain ⟨lists', hall, hsame'⟩ :=
      ih (fun loaded' hmem => hdocs loaded' (List.mem_cons_of_mem _ hmem)) hwithin' hstep
    refine ⟨lists', ?_, hsame'⟩
    rw [Config.loadAll, Config.parseConfig_append, hload]
    exact hall

/-- A load followed by any loads that bring only entries which the first one brought, such as
    loads of the same file: they all return, and both servers send on any run what they would
    send after the first load. -/
theorem reloads_change_no_response {κ : Type} [DecidableEq κ] (C : Common) (K : Codec)
    (L : Http1.Libraries)
    (find : List (PathPattern.Pattern × Http1.Handler) → List String →
      Option (Http1.Handler × PathPattern.Params)) (P : Paths)
    {first : Except LoadException Node} {accepted : Bool} {cfg : NssfConfig}
    (hfirst : Config.parseConfig Y first {} = .ok (accepted, cfg))
    {docs : List (Except LoadException Node)}
    (hdocs : ∀ loaded ∈ docs, BringsNothing Y cfg loaded) :
    ∃ cfg', Config.loadAll Y (first :: docs) {} = .ok cfg' ∧
      (∀ (requests : List (κ × Http1.RawRequest)) k,
        replies (ofSession k (Http1.serve C K L find P cfg requests).actions) =
          replies (ofSession k (Http1.serve C K L find P cfg' requests).actions)) ∧
      ∀ (streams : κ → Http2.Stream) (calls : List (κ × List UInt8)),
        (Http2.serve C K streams cfg calls).escaped =
          (Http2.serve C K streams cfg' calls).escaped ∧
        ∀ k, replies (ofSession k (Http2.serve C K streams cfg calls).actions) =
          replies (ofSession k (Http2.serve C K streams cfg' calls).actions) := by
  have hrefl : SameHandlers C cfg cfg := ⟨rfl, rfl, rfl⟩
  obtain ⟨cfg', hall, hsame⟩ := exists_loadAll_eq C hdocs (NssfConfig.Within.refl cfg) hrefl
  refine ⟨cfg', ?_, hsame.replies_eq K L find P⟩
  rw [Config.loadAll, hfirst]
  exact hall

/-- The same document, three times. -/
theorem reloads_change_no_response_sample :
    let v := Config.sampleSliceConfig [] ""
    let document : Except LoadException (Option Tree) := .ok (some (Config.writeConfig v))
    ∃ cfg', Config.loadAll Config.treeYaml [document, document, document] {} = .ok cfg' ∧
      replies (ofSession () (Http2.serve sampleCommon sampleCodec
          (fun _ => Http2.samplePut) v.loaded [((), [65])]).actions) =
        replies (ofSession () (Http2.serve sampleCommon sampleCodec
          (fun _ => Http2.samplePut) cfg' [((), [65])]).actions) := by
  intro v document
  have hload : Config.parseConfig Config.treeYaml document {} = .ok (true, v.loaded) :=
    Config.parseConfig_write Config.treeYaml_loads (Config.sampleSliceConfig_isInt32Sst [] "")
  have hdocs : ∀ loaded ∈ [document, document],
      BringsNothing Config.treeYaml v.loaded loaded := by
    intro loaded hmem
    have heq : loaded = document := by simpa using hmem
    rw [heq]
    exact ⟨true, v.loaded, hload, NssfConfig.Within.refl _⟩
  obtain ⟨cfg', hall, -, hserve⟩ := reloads_change_no_response (κ := Unit) sampleCommon
    sampleCodec Http1.sampleLibraries PathPattern.findFirst Http1.samplePaths hload hdocs
  exact ⟨cfg', hall, (hserve _ _).2 ()⟩

/-! ## Loads of other documents -/

/-- A sequence of loads appends. -/
theorem exists_append_of_loadAll {docs : List (Except LoadException Node)}
    {lists lists' : NssfConfig} (h : Config.loadAll Y docs lists = .ok lists') :
    ∃ more, lists' = lists.append more := by
  induction docs generalizing lists with
  | nil =>
    cases h
    exact ⟨{}, (NssfConfig.append_empty _).symm⟩
  | cons loaded docs ih =>
    rw [Config.loadAll, Config.parseConfig_append] at h
    cases hload : Config.parseConfig Y loaded {} with
    | error e =>
      rw [hload] at h
      cases h
    | ok out =>
      rw [hload] at h
      obtain ⟨more, hmore⟩ := ih h
      exact ⟨out.2.append more, by rw [hmore, NssfConfig.append_assoc]⟩

theorem SliceSelect.TaAuthorised.append {tai : Tai} (h : TaAuthorised cfg tai) (more : NssfConfig) :
    TaAuthorised (cfg.append more) tai := by
  rcases h with htac | ⟨item, hitem, heq⟩
  · exact Or.inl htac
  · exact Or.inr ⟨item, List.mem_append_left _ hitem, heq⟩

/-- A request that is granted on the lists is answered the same after any further loads that
    return, whatever their documents bring: the target set and the candidates of a registration
    that does not come with the status 200, and the instance of a PDU session, stay what they
    were. -/
theorem loads_keep_grants (C : Common) {docs : List (Except LoadException Node)}
    {cfg' : NssfConfig} (hload : Config.loadAll Y docs cfg = .ok cfg') :
    (∀ si tai home features httpCode httpVersion auth, httpCode ≠ HttpStatusCode.ok →
      (handleSliceInfoForRegistration C cfg si tai home features httpCode httpVersion
        auth).httpCode = HttpStatusCode.ok →
      handleSliceInfoForRegistration C cfg' si tai home features httpCode httpVersion auth =
        handleSliceInfoForRegistration C cfg si tai home features httpCode httpVersion auth) ∧
    ∀ si tai home features httpCode httpVersion auth,
      (handleSliceInfoForPduSession C cfg si tai home features httpCode httpVersion
        auth).httpCode = HttpStatusCode.ok →
      handleSliceInfoForPduSession C cfg' si tai home features httpCode httpVersion auth =
        handleSliceInfoForPduSession C cfg si tai home features httpCode httpVersion auth := by
  obtain ⟨more, rfl⟩ := exists_append_of_loadAll hload
  constructor
  · intro si tai home features httpCode httpVersion auth hcode hok
    obtain ⟨v, hv⟩ := exists_registrationDecides C cfg si tai home
    rw [hv.handle_eq] at hok
    obtain ⟨allowed, set, candidates, rfl⟩ := granted_of_ok hcode hok
    have hafter : RegistrationDecides C (cfg.append more) si tai home
        (.granted allowed set candidates) := by
      cases hv with
      | granted hscope hta hreq hsub hmatch hamf =>
        exact .granted hscope (hta.append more) hreq hsub hmatch (hamf.append _)
    rw [hv.handle_eq, hafter.handle_eq]
  · intro si tai home features httpCode httpVersion auth hok
    obtain ⟨v, hv⟩ := exists_pduSessionDecides C cfg si tai home
    rw [hv.handle_eq] at hok
    have hafter : PduSessionDecides C (cfg.append more) si tai home v := by
      cases hv with
      | notSupported hroam => exact .notSupported hroam
      | taNotAuthorised hroam hta => simp [PduSessionVerdict.outcome] at hok
      | noNsi hroam hta hnsi => simp [PduSessionVerdict.outcome] at hok
      | granted hroam hta hnsi => exact .granted hroam (hta.append more) (hnsi.append _)
    rw [hv.handle_eq, hafter.handle_eq]

/-- A PDU session on the lists of one document, and after the load of another one with the
    same instance under another name. -/
theorem loads_keep_grants_sample :
    let v := Config.sampleSliceConfig [] ""
    let other : Config.SliceConfig :=
      { v with nsiInfoList := [{ Config.sampleNsi with nsiInfo := { nrfId := "other" } }] }
    ∃ cfg', Config.loadAll Config.treeYaml [.ok (some (Config.writeConfig other))] v.loaded =
        .ok cfg' ∧
      handleSliceInfoForPduSession sampleCommon cfg' ⟨⟨222, some "123"⟩, .nonRoaming⟩ {} {} "" 0 1
          {} =
        ⟨true, HttpStatusCode.ok, { nsiInformation := some Config.sampleNsi.nsiInfo }⟩ := by
  intro v other
  have hother : other.IsInt32Sst := by
    constructor
    · simp [other, Config.sampleNsi, IsInt32]
    · exact (Config.sampleSliceConfig_isInt32Sst [] "").amf
  have hload : Config.loadAll Config.treeYaml [.ok (some (Config.writeConfig other))] v.loaded =
      .ok (v.loaded.append other.loaded) := by
    rw [Config.loadAll, Config.parseConfig_append,
      Config.parseConfig_write Config.treeYaml_loads hother]
    rfl
  have hgranted : handleSliceInfoForPduSession sampleCommon v.loaded
      ⟨⟨222, some "123"⟩, .nonRoaming⟩ {} {} "" 0 1 {} =
        ⟨true, HttpStatusCode.ok, { nsiInformation := some Config.sampleNsi.nsiInfo }⟩ := by
    decide
  refine ⟨_, hload, ?_⟩
  have hkeep := (loads_keep_grants sampleCommon hload).2 ⟨⟨222, some "123"⟩, .nonRoaming⟩ {} {} ""
    0 1 {} (by rw [hgranted])
  rw [hkeep, hgranted]

end OaiNssf
