import OaiNssf.Config.Reload
import OaiNssf.Config.RoundTrip
import OaiNssf.Selection.Monotone

/-!
# Selection after several documents

Loading several documents leaves the entries of one after those of the other. What is selected
on such lists can be found document by document: with the tracking areas of all of them, the
first document whose slices serve the request decides, and if none does, each of them refuses
in the same way.

* `concat`: the lists of several documents.
* `registration_concat`, `pduSession_concat`: selection on these lists.
* `documents_answer_in_turn`: the same for a sequence of loads.
-/

namespace OaiNssf

open Coverage SliceSelect

variable {C : Common} {parts : List NssfConfig} {tai : Tai} {home : PlmnId}

/-! ## The lists of several documents -/

/-- The entries of several configurations, one after the other. -/
def NssfConfig.concat (parts : List NssfConfig) : NssfConfig where
  nsiInfoList := parts.flatMap NssfConfig.nsiInfoList
  taInfoList := parts.flatMap NssfConfig.taInfoList
  amfInfoList := parts.flatMap NssfConfig.amfInfoList

theorem NssfConfig.append_concat_cons (cfg part : NssfConfig) (parts : List NssfConfig) :
    cfg.append (concat (part :: parts)) = (cfg.append part).append (concat parts) := by
  simp [append, concat]

/-- The slices of one document, with the tracking areas of another configuration. -/
def NssfConfig.slicesOf (part cfg : NssfConfig) : NssfConfig :=
  { part with taInfoList := cfg.taInfoList }

/-- On `cfg` the documents are asked one after the other: the first that grants the request
    decides, and if none does, all of them refuse it in the same way. -/
structure AnswersInTurn (answer : NssfConfig → SelectionResult) (cfg : NssfConfig)
    (parts : List NssfConfig) : Prop where
  granted : ∀ part,
    IsFirst (fun part => (answer (part.slicesOf cfg)).httpCode = HttpStatusCode.ok) parts part →
      answer cfg = answer (part.slicesOf cfg)
  refused : (∀ part ∈ parts, (answer (part.slicesOf cfg)).httpCode ≠ HttpStatusCode.ok) →
    ∀ part ∈ parts, answer cfg = answer (part.slicesOf cfg)

/-! ## Registration -/

section Registration

variable {si : SliceInfoForRegistration} (features : String) {httpCode : ℤ} (httpVersion : ℕ)
  (auth : AuthorizedNetworkSliceInfo)

/-- A registration is granted on the slices of a document when they serve it. -/
theorem registration_slicesOf_ok_iff (hcode : httpCode ≠ HttpStatusCode.ok)
    {part cfg : NssfConfig} :
    (handleSliceInfoForRegistration C (part.slicesOf cfg) si tai home features httpCode httpVersion
      auth).httpCode = HttpStatusCode.ok ↔
      ∃ req sub, Grantable C (part.slicesOf cfg) si tai home req sub := by
  constructor
  · intro hok
    rcases grantable_of_ok features httpVersion auth (fun h => absurd h hcode) hok with h | h
    · exact h
    · exact absurd h.2.2.1 hcode
  · rintro ⟨req, sub, h⟩
    exact (h.outcome features httpCode httpVersion auth).1

theorem registration_concat (hcode : httpCode ≠ HttpStatusCode.ok) :
    AnswersInTurn
      (fun cfg => handleSliceInfoForRegistration C cfg si tai home features httpCode httpVersion
        auth) (NssfConfig.concat parts) parts := by
  set cfg := NssfConfig.concat parts
  set answer := fun cfg =>
    handleSliceInfoForRegistration C cfg si tai home features httpCode httpVersion auth
  have hserved : ∀ {req sub}, InScope si home → TaAuthorised cfg tai →
      si.requestedNssai = some req → si.subscribedNssai = some sub →
      (∃ r ∈ req, Subscribed C sub r) → ∀ part : NssfConfig,
      ((∃ set ∈ part.amfInfoList, HasServingAmf C req set) ↔
        (answer (part.slicesOf cfg)).httpCode = HttpStatusCode.ok) := by
    intro req sub hscope hta hreq hsub hmatch part
    rw [registration_slicesOf_ok_iff features httpVersion auth hcode]
    constructor
    · exact fun hset => ⟨req, sub, hscope, hta, hreq, hsub, hmatch, hset⟩
    · rintro ⟨req', sub', h⟩
      have hreq' : req = req' := Option.some_inj.mp (hreq.symm.trans h.requested)
      rw [hreq']
      exact h.served
  constructor
  · intro part hfirst
    obtain ⟨req, sub, h⟩ :=
      (registration_slicesOf_ok_iff features httpVersion auth hcode).mp hfirst.holds
    have hta : TaAuthorised cfg tai := h.authorised
    have hiff := hserved h.inScope hta h.requested h.subscribed h.matched
    obtain ⟨set, hset⟩ := exists_isFirst_iff.mpr h.served
    have hpart : IsFirst (fun part : NssfConfig =>
        ∃ set ∈ part.amfInfoList, HasServingAmf C req set) parts part := by
      simpa only [hiff] using hfirst
    have hall : IsFirst (HasServingAmf C req) cfg.amfInfoList set := hpart.flatMap hset
    show handleSliceInfoForRegistration C cfg si tai home features httpCode httpVersion auth =
      handleSliceInfoForRegistration C (part.slicesOf cfg) si tai home features httpCode
        httpVersion auth
    rw [(RegistrationDecides.granted h.inScope hta h.requested h.subscribed h.matched
      hall).handle_eq, (RegistrationDecides.granted h.inScope h.authorised h.requested
      h.subscribed h.matched hset).handle_eq]
  · intro hrefused part hpart
    obtain ⟨v, hv⟩ := exists_registrationDecides C (part.slicesOf cfg) si tai home
    suffices hall : RegistrationDecides C cfg si tai home v by
      show handleSliceInfoForRegistration C cfg si tai home features httpCode httpVersion auth =
        handleSliceInfoForRegistration C (part.slicesOf cfg) si tai home features httpCode
          httpVersion auth
      rw [hall.handle_eq, hv.handle_eq]
    cases hv with
    | notSupported hscope => exact .notSupported hscope
    | taNotAuthorised hscope hta => exact .taNotAuthorised hscope hta
    | undecided hscope hta hnone => exact .undecided hscope hta hnone
    | notInPlmn hscope hta hreq hsub hmatch =>
      have hta' : TaAuthorised cfg tai := hta
      exact .notInPlmn hscope hta' hreq hsub hmatch
    | noAmfSet hscope hta hreq hsub hmatch _ =>
      have hta' : TaAuthorised cfg tai := hta
      refine .noAmfSet hscope hta' hreq hsub hmatch ?_
      intro set hset hserving
      obtain ⟨part', hpart', hset'⟩ := List.mem_flatMap.mp hset
      exact hrefused part' hpart'
        ((hserved hscope hta' hreq hsub hmatch part').mp ⟨set, hset', hserving⟩)
    | granted hscope hta hreq hsub hmatch hamf =>
      exact absurd ((hserved hscope hta hreq hsub hmatch part).mp ⟨_, hamf.mem, hamf.holds⟩)
        (hrefused part hpart)

end Registration

/-! ## PDU sessions -/

section PduSession

variable {si : SliceInfoForPDUSession} (features : String) (httpCode : ℤ) (httpVersion : ℕ)
  (auth : AuthorizedNetworkSliceInfo)

theorem pduSession_concat :
    AnswersInTurn
      (fun cfg => handleSliceInfoForPduSession C cfg si tai home features httpCode httpVersion
        auth) (NssfConfig.concat parts) parts := by
  set cfg := NssfConfig.concat parts
  set answer := fun cfg =>
    handleSliceInfoForPduSession C cfg si tai home features httpCode httpVersion auth
  have hserved : NonRoaming C si home → TaAuthorised cfg tai → ∀ part : NssfConfig,
      ((∃ item ∈ part.nsiInfoList, Matches C si.sNssai item.snssai) ↔
        (answer (part.slicesOf cfg)).httpCode = HttpStatusCode.ok) := by
    intro hroam hta part
    obtain ⟨v, hv⟩ := exists_pduSessionDecides C (part.slicesOf cfg) si tai home
    have hanswer : answer (part.slicesOf cfg) = v.outcome auth :=
      hv.handle_eq features httpCode httpVersion auth
    rw [hanswer]
    cases hv with
    | notSupported hnot => exact absurd hroam hnot
    | taNotAuthorised _ hnot => exact absurd hta hnot
    | noNsi _ _ hnone =>
      refine iff_of_false ?_ (show (400 : ℤ) ≠ 200 by decide)
      rintro ⟨item, hitem, hmatches⟩
      exact hnone item hitem hmatches
    | granted _ _ hnsi => exact iff_of_true ⟨_, hnsi.mem, hnsi.holds⟩ rfl
  constructor
  · intro part hfirst
    obtain ⟨v, hv⟩ := exists_pduSessionDecides C (part.slicesOf cfg) si tai home
    have hok : (v.outcome auth).httpCode = HttpStatusCode.ok := by
      rw [← hv.handle_eq features httpCode httpVersion auth]
      exact hfirst.holds
    cases hv with
    | notSupported => cases hok
    | taNotAuthorised => cases hok
    | noNsi => cases hok
    | granted hroam hta hnsi =>
      have hta' : TaAuthorised cfg tai := hta
      have hiff := hserved hroam hta'
      have hpart : IsFirst (fun part : NssfConfig =>
          ∃ item ∈ part.nsiInfoList, Matches C si.sNssai item.snssai) parts part := by
        simpa only [hiff] using hfirst
      have hall : IsFirst (fun i : NsiInfo => Matches C si.sNssai i.snssai) cfg.nsiInfoList _ :=
        hpart.flatMap hnsi
      show handleSliceInfoForPduSession C cfg si tai home features httpCode httpVersion auth =
        handleSliceInfoForPduSession C (part.slicesOf cfg) si tai home features httpCode
          httpVersion auth
      rw [(PduSessionDecides.granted hroam hta' hall).handle_eq,
        (PduSessionDecides.granted hroam hta hnsi).handle_eq]
  · intro hrefused part hpart
    obtain ⟨v, hv⟩ := exists_pduSessionDecides C (part.slicesOf cfg) si tai home
    suffices hall : PduSessionDecides C cfg si tai home v by
      show handleSliceInfoForPduSession C cfg si tai home features httpCode httpVersion auth =
        handleSliceInfoForPduSession C (part.slicesOf cfg) si tai home features httpCode
          httpVersion auth
      rw [hall.handle_eq, hv.handle_eq]
    cases hv with
    | notSupported hroam => exact .notSupported hroam
    | taNotAuthorised hroam hta => exact .taNotAuthorised hroam hta
    | noNsi hroam hta _ =>
      have hta' : TaAuthorised cfg tai := hta
      refine .noNsi hroam hta' ?_
      intro item hitem hmatches
      obtain ⟨part', hpart', hitem'⟩ := List.mem_flatMap.mp hitem
      exact hrefused part' hpart' ((hserved hroam hta' part').mp ⟨item, hitem', hmatches⟩)
    | granted hroam hta hnsi =>
      exact absurd ((hserved hroam hta part).mp ⟨_, hnsi.mem, hnsi.holds⟩) (hrefused part hpart)

end PduSession

/-! ## A sequence of loads -/

section Loads

variable {Node : Type} {Y : Yaml Node}

/-- The documents are loaded, and these are the lists that each of them gives. -/
def Give (Y : Yaml Node) (docs : List (Except LoadException Node)) (parts : List NssfConfig) :
    Prop :=
  List.Forall₂
    (fun loaded part => ∃ accepted, Config.parseConfig Y loaded {} = .ok (accepted, part)) docs
    parts

theorem loadAll_of_give {docs : List (Except LoadException Node)} (h : Give Y docs parts)
    (cfg : NssfConfig) :
    Config.loadAll Y docs cfg = .ok (cfg.append (NssfConfig.concat parts)) := by
  induction h generalizing cfg with
  | nil =>
    show Except.ok cfg = Except.ok (cfg.append {})
    rw [NssfConfig.append_empty]
  | cons hhead _ ih =>
    obtain ⟨accepted, hload⟩ := hhead
    rw [Config.loadAll, Config.parseConfig_append, hload, NssfConfig.append_concat_cons, ← ih]
    rfl

/-- After the load of any documents, all of whose loads return, a request is answered as the first
    document does that grants it when it has the tracking areas of all of them, and if none does,
    as each of them refuses it. A registration must not come with the status 200. -/
theorem documents_answer_in_turn (C : Common) {docs : List (Except LoadException Node)}
    (hdocs : Give Y docs parts) :
    ∃ cfg, Config.loadAll Y docs {} = .ok cfg ∧
      (∀ si tai home features httpCode httpVersion auth, httpCode ≠ HttpStatusCode.ok →
        AnswersInTurn (fun cfg =>
          handleSliceInfoForRegistration C cfg si tai home features httpCode httpVersion auth)
          cfg parts) ∧
      ∀ si tai home features httpCode httpVersion auth,
        AnswersInTurn (fun cfg =>
          handleSliceInfoForPduSession C cfg si tai home features httpCode httpVersion auth)
          cfg parts := by
  refine ⟨NssfConfig.concat parts, loadAll_of_give hdocs {}, ?_, ?_⟩
  · intro si tai home features httpCode httpVersion auth hcode
    exact registration_concat features httpVersion auth hcode
  · intro si tai home features httpCode httpVersion auth
    exact pduSession_concat features httpCode httpVersion auth

end Loads

/-- A document without instances, and one with an instance for the requested S-NSSAI. -/
theorem documents_answer_in_turn_sample :
    let second := Config.sampleSliceConfig [] ""
    let first := { second with nsiInfoList := [] }
    let docs : List (Except LoadException (Option Tree)) :=
      [.ok (some (Config.writeConfig first)), .ok (some (Config.writeConfig second))]
    ∃ cfg, Config.loadAll Config.treeYaml docs {} = .ok cfg ∧
      handleSliceInfoForPduSession sampleCommon cfg ⟨⟨222, some "123"⟩, .nonRoaming⟩ {} {} "" 0 1
          {} =
        ⟨true, HttpStatusCode.ok, { nsiInformation := some Config.sampleNsi.nsiInfo }⟩ := by
  intro second first docs
  have hsecond : second.IsInt32Sst := Config.sampleSliceConfig_isInt32Sst [] ""
  have hfirst : first.IsInt32Sst := ⟨by simp [first], hsecond.amf⟩
  have hdocs : Give Config.treeYaml docs [first.loaded, second.loaded] :=
    .cons ⟨true, Config.parseConfig_write Config.treeYaml_loads hfirst⟩
      (.cons ⟨true, Config.parseConfig_write Config.treeYaml_loads hsecond⟩ .nil)
  obtain ⟨cfg, hload, -, hsession⟩ := documents_answer_in_turn sampleCommon hdocs
  refine ⟨cfg, hload, ?_⟩
  have hcfg : cfg = NssfConfig.concat [first.loaded, second.loaded] := by
    rw [loadAll_of_give hdocs] at hload
    exact (Except.ok.inj hload).symm
  subst hcfg
  have hturn := hsession ⟨⟨222, some "123"⟩, .nonRoaming⟩ {} {} "" 0 1 {}
  have hanswer := hturn.granted second.loaded
    ⟨[first.loaded], [], rfl, by decide, by decide⟩
  exact hanswer.trans (by decide)

end OaiNssf
