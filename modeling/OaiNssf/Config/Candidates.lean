import OaiNssf.Config.RoundTrip
import OaiNssf.Selection.Grant

/-!
# AMFs with unreadable availability data

`parse_amf_list` drops the `bool` of `parse_nssai`, so an AMF whose availability data
could not be parsed is in the store, with what had been read of it. It is not offered:
the supported list is stored last and the record is fresh, so the list is empty, and
the request that reaches the AMF sets is not.

* `not_serves_of_failed`: availability data that failed to parse serves no request.
* `candidates_readable`: the candidate AMFs come from entries whose availability data
  was parsed and covers the request.
-/

namespace OaiNssf.Config

open Throwing SliceSelect Coverage

variable {Node : Type} (C : Common) (Y : Yaml Node)

/-- The availability data of the AMF is readable down to each supported S-NSSAI, it was parsed,
    and its supported list matches every requested S-NSSAI. -/
def AmfOffers (req : List Snssai) (amf : Node) : Prop :=
  ∃ conf data, Y.get amf "supportedNssaiAvailabilityData" = .ok conf ∧ NssaiReadable Y conf ∧
    parseNssai Y conf {} = (true, data) ∧ Covers (Supports C) req data.supportedSnssaiList

variable {C Y}

theorem not_covers_nil {req : List Snssai} (hreq : req ≠ []) : ¬Covers (Supports C) req [] := by
  obtain ⟨r, rest, rfl⟩ := List.exists_cons_of_ne_nil hreq
  intro h
  obtain ⟨e, he, -⟩ := h r List.mem_cons_self
  exact absurd he List.not_mem_nil

/-- Availability data that failed to parse has an empty supported list, which serves no
    request. -/
theorem not_serves_of_failed {conf : Node} {req : List Snssai} (hreq : req ≠ [])
    (hfailed : (parseNssai Y conf {}).1 = false) :
    ¬Covers (Supports C) req (parseNssai Y conf {}).2.supportedSnssaiList := by
  rw [parseNssai_snd_of_failed hfailed]
  exact not_covers_nil hreq

/-- The AMF that an entry became serves the request when the entry offers it. -/
theorem serves_iff_offers {amf : Node} {e : String × List SupportedNssaiAvailabilityData}
    {req : List Snssai} (hreq : req ≠ []) (hentry : amfEntry Y amf = .ok e) :
    ServesNssai C req e.2 ↔ AmfOffers C Y req amf := by
  obtain ⟨conf, nfId, hconf, -, rfl⟩ := amfEntry_eq_ok_iff.mp hentry
  have hsingle : ServesNssai C req [(parseNssai Y conf {}).2] ↔
      Covers (Supports C) req (parseNssai Y conf {}).2.supportedSnssaiList := by
    simp [ServesNssai, Serves]
  rw [hsingle]
  constructor
  · intro hcovers
    have hparsed : (parseNssai Y conf {}).1 = true := by
      by_contra hnot
      exact not_serves_of_failed hreq (Bool.eq_false_iff.mpr hnot) hcovers
    exact ⟨conf, _, hconf, (parseNssai_fst_iff conf {}).mp hparsed, Prod.ext hparsed rfl, hcovers⟩
  · rintro ⟨conf', data, hconf', -, hparsed, hcovers⟩
    rw [hconf] at hconf'
    cases hconf'
    rw [hparsed]
    exact hcovers

/-- The serving AMFs of a list that was read come, one by one and in order, from the
    entries that offer the request. -/
theorem exists_offering {amfs : List Node}
    {amfList : List (String × List SupportedNssaiAvailabilityData)} {req : List Snssai}
    (hreq : req ≠ []) (hread : Translates (amfEntry Y) amfs amfList) :
    ∃ offering, offering.Sublist amfs ∧ (∀ amf ∈ offering, AmfOffers C Y req amf) ∧
      List.Forall₂ (fun amf nfId => stringAt Y amf "nfId" = .ok nfId) offering
        ((amfList.filter fun e => anyValidAmf C req e.2).map Prod.fst) := by
  induction hread with
  | nil => exact ⟨[], List.Sublist.refl _, by simp, List.Forall₂.nil⟩
  | @cons amf e amfs amfList hentry _ ih =>
    obtain ⟨offering, hsub, hoffers, hids⟩ := ih
    rw [List.filter_cons]
    by_cases hserves : anyValidAmf C req e.2 = true
    · rw [if_pos hserves]
      have hoffer := (serves_iff_offers hreq hentry).mp (anyValidAmf_iff.mp hserves)
      obtain ⟨conf, nfId, -, hnfId, rfl⟩ := amfEntry_eq_ok_iff.mp hentry
      refine ⟨amf :: offering, hsub.cons_cons amf, ?_, List.Forall₂.cons hnfId hids⟩
      exact List.forall_mem_cons.mpr ⟨hoffer, hoffers⟩
    · rw [if_neg hserves]
      exact ⟨offering, hsub.cons amf, hoffers, hids⟩

/-- The candidate AMFs of a registration, on a configuration loaded from empty lists,
    come from entries of one AMF set of the document, each with availability data that
    was parsed and matches every requested S-NSSAI. -/
theorem candidates_readable {config : Node} {accepted : Bool} {cfg : NssfConfig}
    (hload : parseConfig Y (.ok config) {} = .ok (accepted, cfg)) (si : SliceInfoForRegistration)
    (tai : Tai) (home : PlmnId) (features : String) (httpCode : ℤ) (httpVersion : ℕ)
    {auth : AuthorizedNetworkSliceInfo} (hauth : auth.candidateAmfList = none)
    {candidates : List String}
    (hcand : (handleSliceInfoForRegistration C cfg si tai home features httpCode httpVersion
      auth).authSliceInfo.candidateAmfList = some candidates) :
    ∃ req amfSection amfSet amfs, si.requestedNssai = some req ∧
      configSection Y config "amfInfoList" = .ok amfSection ∧ amfSet ∈ Y.children amfSection ∧
      Y.get amfSet "amfList" = .ok amfs ∧
      ∃ offering, offering.Sublist (Y.children amfs) ∧
        (∀ amf ∈ offering, AmfOffers C Y req amf) ∧
        List.Forall₂ (fun amf nfId => stringAt Y amf "nfId" = .ok nfId) offering candidates := by
  obtain ⟨v, hv⟩ := exists_registrationDecides C cfg si tai home
  rw [hv.handle_eq] at hcand
  cases hv with
  | @granted _ _ req sub hreq _ hmatch set hset =>
    have hcandidates : servingAmfs C req set = candidates := Option.some.inj hcand
    have hne : req ≠ [] := by
      obtain ⟨r, hr, -⟩ := hmatch
      exact List.ne_nil_of_mem hr
    obtain hnil | ⟨amfSection, hsection, hlist⟩ := parseConfig_amfInfoList hload
    · have hmem := hset.mem
      rw [hnil] at hmem
      exact absurd hmem List.not_mem_nil
    have hmem : set ∈ goodPrefix (amfSetEntry Y) (Y.children amfSection) := by
      rw [← List.nil_append (goodPrefix _ _), ← hlist]
      exact hset.mem
    obtain ⟨amfSet, hamfSet, hentry⟩ := mem_goodPrefix hmem
    obtain ⟨-, -, -, amfs, hamfs, hall, hamfList⟩ := amfSetEntry_eq_ok_iff.mp hentry
    have hread : Translates (amfEntry Y) (Y.children amfs) set.amfList := by
      rw [hamfList]
      exact translates_goodPrefix hall
    refine ⟨req, amfSection, amfSet, amfs, hreq, hsection, hamfSet, hamfs, ?_⟩
    rw [← hcandidates]
    exact exists_offering hne hread
  | notSupported => exact absurd (hauth.symm.trans hcand) nofun
  | taNotAuthorised => exact absurd (hauth.symm.trans hcand) nofun
  | undecided => exact absurd (hauth.symm.trans hcand) nofun
  | notInPlmn => exact absurd (hauth.symm.trans hcand) nofun
  | noAmfSet => exact absurd (hauth.symm.trans hcand) nofun

/-- An AMF set of two AMFs; the first has a supported list that ends in an S-NSSAI without an
    SST. -/
def halfReadableSet : Tree :=
  .map [
    ("targetAmfSet", .str "set-1"), ("nrfAmfSet", .str "disc"), ("nrfAmfSetNfMgtUri", .str "nfm"),
    ("amfList", .seq [
      .map [
        ("nfId", .str "amf-1"),
        ("supportedNssaiAvailabilityData", .map [
          ("tai", writeTai ⟨⟨"208", "95"⟩, "33456"⟩),
          ("supportedSnssaiList", .seq [writeSnssai 222 none, writeSnssai 1 none, .map []])])],
      writeAmf ("amf-2", ⟨⟨⟨"208", "95"⟩, "33456"⟩, [⟨1, none⟩, ⟨222, none⟩]⟩)])]

/-- What it is loaded as. -/
def halfReadableConfig : NssfConfig where
  amfInfoList := [{
    targetAmfSet := "set-1", nrfAmfSet := "disc", nrfAmfSetMgt := "nfm"
    amfList := [
      ("amf-1", [{ tai := ⟨⟨"208", ""⟩, "33456"⟩ }]),
      ("amf-2", [⟨⟨⟨"208", ""⟩, "33456"⟩, [⟨1, none⟩, ⟨222, none⟩]⟩])] }]

/-- The second AMF alone is offered. -/
theorem candidates_readable_sample :
    ∃ amfSection amfSet amfs amf,
      configSection treeYaml (some (document [] [] [halfReadableSet])) "amfInfoList" =
        .ok amfSection ∧ amfSet ∈ treeYaml.children amfSection ∧
      treeYaml.get amfSet "amfList" = .ok amfs ∧ amf ∈ treeYaml.children amfs ∧
      AmfOffers sampleCommon treeYaml [⟨222, none⟩, ⟨1, none⟩] amf ∧
      stringAt treeYaml amf "nfId" = .ok "amf-2" := by
  have hload : parseConfig treeYaml (.ok (some (document [] [] [halfReadableSet]))) {} =
      .ok (true, halfReadableConfig) := rfl
  have hauth : ({} : AuthorizedNetworkSliceInfo).candidateAmfList = none := rfl
  have hcand : (handleSliceInfoForRegistration sampleCommon halfReadableConfig
      (registrationFor [⟨222, none⟩, ⟨1, none⟩] [⟨222, none⟩]) {} {} "" 0 1
      {}).authSliceInfo.candidateAmfList = some ["amf-2"] := by decide
  obtain ⟨req, amfSection, amfSet, amfs, hreq, hsection, hamfSet, hamfs, offering, hsub, hoffers,
    hids⟩ := candidates_readable hload
      (registrationFor [⟨222, none⟩, ⟨1, none⟩] [⟨222, none⟩]) {} {} "" 0 1 hauth hcand
  cases hreq
  cases hids with
  | @cons amf _ _ _ hid _ =>
    exact ⟨amfSection, amfSet, amfs, amf, hsection, hamfSet, hamfs, hsub.subset List.mem_cons_self,
      hoffers amf List.mem_cons_self, hid⟩

end OaiNssf.Config
