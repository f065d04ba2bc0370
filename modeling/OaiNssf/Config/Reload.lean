import OaiNssf.Config.Reading

/-!
# Loading more than once

The three lists are static and `parse_config` only appends to them. What a document adds does
not depend on what was loaded before, so a sequence of loads leaves what its documents add,
one after the other.

* `parseConfig_eq_true_iff`: which documents are accepted, and what they add.
* `parseConfig_append`: a load adds what it would add to empty lists.
* `loadAll`: a sequence of loads.
-/

namespace OaiNssf

/-- The lists of one configuration after those of another. -/
def NssfConfig.append (cfg more : NssfConfig) : NssfConfig where
  nsiInfoList := cfg.nsiInfoList ++ more.nsiInfoList
  taInfoList := cfg.taInfoList ++ more.taInfoList
  amfInfoList := cfg.amfInfoList ++ more.amfInfoList

@[simp] theorem NssfConfig.empty_append (cfg : NssfConfig) : NssfConfig.append {} cfg = cfg := rfl

@[simp] theorem NssfConfig.append_empty (cfg : NssfConfig) : cfg.append {} = cfg := by
  simp [append]

theorem NssfConfig.append_assoc (cfg more more' : NssfConfig) :
    (cfg.append more).append more' = cfg.append (more.append more') := by
  simp [append]

/-- All entries of one configuration are in another. -/
structure NssfConfig.Within (more cfg : NssfConfig) : Prop where
  nsi : more.nsiInfoList ⊆ cfg.nsiInfoList
  ta : more.taInfoList ⊆ cfg.taInfoList
  amf : more.amfInfoList ⊆ cfg.amfInfoList

theorem NssfConfig.Within.refl (cfg : NssfConfig) : cfg.Within cfg :=
  ⟨List.Subset.refl _, List.Subset.refl _, List.Subset.refl _⟩

theorem NssfConfig.Within.trans {more cfg cfg' : NssfConfig} (h : more.Within cfg)
    (h' : cfg.Within cfg') : more.Within cfg' where
  nsi := List.Subset.trans h.nsi h'.nsi
  ta := List.Subset.trans h.ta h'.ta
  amf := List.Subset.trans h.amf h'.amf

theorem NssfConfig.within_append (cfg more : NssfConfig) : cfg.Within (cfg.append more) where
  nsi := List.subset_append_left _ _
  ta := List.subset_append_left _ _
  amf := List.subset_append_left _ _

namespace Config

open Throwing

variable {Node : Type} {Y : Yaml Node}

/-! ## One load -/

/-- What the sections of a document add to the lists. -/
def added (Y : Yaml Node) (nsi ta amf : Node) : NssfConfig where
  nsiInfoList := goodPrefix (nsiEntry Y) (Y.children nsi)
  taInfoList := goodPrefix (taEntry Y) (Y.children ta)
  amfInfoList := goodPrefix (amfSetEntry Y) (Y.children amf)

/-- A document is accepted when it has the three sections. -/
theorem parseConfig_eq_true_iff {loaded : Except LoadException Node} {cfg cfg' : NssfConfig} :
    parseConfig Y loaded cfg = .ok (true, cfg') ↔
      ∃ config nsi ta amf, loaded = .ok config ∧ HasSections Y config nsi ta amf ∧
        cfg' = cfg.append (added Y nsi ta amf) := by
  constructor
  · intro h
    cases loaded with
    | error e => cases e <;> cases h
    | ok config =>
      have hparse := h
      unfold parseConfig at h
      simp only [Decoding.bind_eq_ok_iff] at h
      obtain ⟨nsi, hnsi, h⟩ := h
      split_ifs at h with hnsiDefined
      swap
      · cases h
      simp only [Decoding.bind_eq_ok_iff] at h
      obtain ⟨ta, hta, h⟩ := h
      split_ifs at h with htaDefined
      swap
      · cases h
      simp only [Decoding.bind_eq_ok_iff] at h
      obtain ⟨amf, hamf, h⟩ := h
      split_ifs at h with hamfDefined
      swap
      · cases h
      have hsections : HasSections Y config nsi ta amf :=
        ⟨hnsi, hnsiDefined, hta, htaDefined, hamf, hamfDefined⟩
      rw [parseConfig_eq hsections] at hparse
      refine ⟨config, nsi, ta, amf, rfl, hsections, ?_⟩
      exact (Prod.mk.inj (Except.ok.inj hparse)).2.symm
  · rintro ⟨config, nsi, ta, amf, rfl, hsections, rfl⟩
    exact parseConfig_eq hsections cfg

/-- A load adds what it would add to empty lists, and returns what it would return. -/
theorem parseConfig_append (loaded : Except LoadException Node) (cfg : NssfConfig) :
    parseConfig Y loaded cfg =
      (parseConfig Y loaded {}).map fun out => (out.1, cfg.append out.2) := by
  cases loaded with
  | error e =>
    cases e with
    | badFile what =>
      show Except.ok (false, cfg) = Except.ok (false, cfg.append {})
      rw [NssfConfig.append_empty]
    | other e => rfl
  | ok config =>
    unfold parseConfig
    dsimp only
    cases configSection Y config "nsiInfoList" with
    | error e => rfl
    | ok nsi =>
      simp only [ok_bind]
      split_ifs
      swap
      · show Except.ok (false, cfg) = Except.ok (false, cfg.append {})
        rw [NssfConfig.append_empty]
      cases configSection Y config "taInfoList" with
      | error e => rfl
      | ok ta =>
        simp only [ok_bind]
        split_ifs
        swap
        · show Except.ok (false, _) = Except.ok (false, cfg.append _)
          simp [NssfConfig.append, parseNsiInfo_snd]
        cases configSection Y config "amfInfoList" with
        | error e => rfl
        | ok amf =>
          simp only [ok_bind]
          split_ifs
          · show Except.ok (true, _) = Except.ok (true, cfg.append _)
            simp [NssfConfig.append, parseNsiInfo_snd, parseTaInfo_snd, parseAmfInfo_snd]
          · show Except.ok (false, _) = Except.ok (false, cfg.append _)
            simp [NssfConfig.append, parseNsiInfo_snd, parseTaInfo_snd]

/-! ## A sequence of loads -/

/-- `parse_config` on one file after the other. -/
def loadAll (Y : Yaml Node) :
    List (Except LoadException Node) → NssfConfig → Except StdException NssfConfig
  | [], cfg => .ok cfg
  | loaded :: rest, cfg => do
    let (_, cfg) ← parseConfig Y loaded cfg
    loadAll Y rest cfg

end Config

end OaiNssf
