import BundleConfig.Layer.Override
import BundleConfig.Proofs.Merge.RootKeys

/-!
# References of an override

An override loses the key of its references, and the settings it refers to are merged onto what
is left, in the order of their names (`withReferents_eq_ok`).  They are merged as they are, so
they can have the key themselves.  Then it is in the result again, and its names are not looked
up: this happens exactly when one of the settings brings the key in and those after it spare it
(`referentKey_mem_withReferents`).
-/

namespace BundleConfig

namespace Override

variable {fs : FileSystem} {tree settings r : Json} {context : Path} {entries : Table Json}
  {names : List String}

/-! ## What an override refers to -/

/-- The entries of an override refer to settings, in this order. -/
inductive RefersTo (fs : FileSystem) (tree : Json) (context : Path) (entries : Table Json) :
    List Json → Prop
  | nothing (absent : entries.get? referentKey = none) : RefersTo fs tree context entries []
  | named {written : Json} {names : List String} {referred : List Json}
      (present : entries.get? referentKey = some written) (listed : namesOf written = .ok names)
      (found : names.mapM (referent fs tree context) = .ok referred) :
      RefersTo fs tree context entries referred

/-- Names can be looked up and merged in turn if all of them are found and what they refer to can
be merged in turn. -/
theorem mergeReferents_eq_ok : mergeReferents fs tree context names settings = .ok r ↔
    ∃ referred, names.mapM (referent fs tree context) = .ok referred ∧
      Merge.mergeLayers settings referred = .ok r := by
  induction names generalizing settings with
  | nil =>
      constructor
      · exact fun h => ⟨[], rfl, h⟩
      · rintro ⟨referred, hreferred, h⟩
        cases hreferred
        exact h
  | cons name rest ih =>
      rw [mergeReferents, List.mapM_cons]
      constructor
      · intro h
        obtain ⟨first, hfirst, h⟩ := bind_eq_ok.mp h
        obtain ⟨next, hnext, h⟩ := bind_eq_ok.mp h
        obtain ⟨others, hothers, h⟩ := ih.mp h
        refine ⟨first :: others, ?_, bind_eq_ok.mpr ⟨next, hnext, h⟩⟩
        exact bind_eq_ok.mpr ⟨first, hfirst, bind_eq_ok.mpr ⟨others, hothers, rfl⟩⟩
      · rintro ⟨referred, hreferred, h⟩
        obtain ⟨first, hfirst, hreferred⟩ := bind_eq_ok.mp hreferred
        obtain ⟨others, hothers, heq⟩ := bind_eq_ok.mp hreferred
        cases heq
        obtain ⟨next, hnext, h⟩ := bind_eq_ok.mp h
        have hrest := ih.mpr ⟨others, hothers, h⟩
        exact bind_eq_ok.mpr ⟨first, hfirst, bind_eq_ok.mpr ⟨next, hnext, hrest⟩⟩

/-- The settings an override refers to are merged onto its other entries. -/
theorem withReferents_eq_ok : withReferents fs tree context (.object entries) = .ok r ↔
    ∃ referred, RefersTo fs tree context entries referred ∧
      Merge.mergeLayers (.object (entries.erase referentKey)) referred = .ok r := by
  cases hwritten : entries.get? referentKey with
  | none =>
      have hsame : entries.erase referentKey = entries :=
        Table.erase_of_not_mem (Table.get?_eq_none_iff.mp hwritten)
      have hpure : withReferents fs tree context (.object entries) = .ok (.object entries) := by
        simp only [withReferents, Json.entries?, Option.bind_some, hwritten]
        rfl
      rw [hpure, hsame]
      constructor
      · exact fun h => ⟨[], .nothing hwritten, h⟩
      · rintro ⟨referred, href, h⟩
        cases href with
        | nothing => exact h
        | named present => cases hwritten.symm.trans present
  | some written =>
      have hnamed : withReferents fs tree context (.object entries) =
          namesOf written >>= fun names =>
            mergeReferents fs tree context names (.object (entries.erase referentKey)) := by
        simp only [withReferents, Json.entries?, Option.bind_some, hwritten]
      rw [hnamed]
      constructor
      · intro h
        obtain ⟨names, hnames, h⟩ := bind_eq_ok.mp h
        obtain ⟨referred, hreferred, h⟩ := mergeReferents_eq_ok.mp h
        exact ⟨referred, .named hwritten hnames hreferred, h⟩
      · rintro ⟨referred, href, h⟩
        cases href with
        | nothing absent => cases hwritten.symm.trans absent
        | named present listed found =>
            cases hwritten.symm.trans present
            exact bind_eq_ok.mpr ⟨_, listed, mergeReferents_eq_ok.mpr ⟨referred, found, h⟩⟩

/-! ## The key of the references -/

/-- The key of the references is in the result exactly when the settings that are referred to
bring it in. -/
theorem referentKey_mem_withReferents (hd : (Json.object entries).Distinct)
    (h : withReferents fs tree context (.object entries) = .ok r) :
    ∃ referred, RefersTo fs tree context entries referred ∧
      Merge.mergeLayers (.object (entries.erase referentKey)) referred = .ok r ∧
      (referentKey ∈ r.rootKeys ↔ Merge.BroughtIn referentKey referred) := by
  obtain ⟨referred, href, hmerged⟩ := withReferents_eq_ok.mp h
  refine ⟨referred, href, hmerged, ?_⟩
  have hgone : referentKey ∉ (Json.object (entries.erase referentKey)).rootKeys := fun hmem =>
    ((Table.mem_keys_erase hd.1).mp hmem).2 rfl
  rw [Merge.mem_rootKeys_mergeLayers (by decide) (hd.erase referentKey) hmerged]
  exact or_iff_left fun hkept => hgone hkept.2

/-- Blocks that have the key, that remove it, and that put a mapping with it in place. -/
def referringTree : Json :=
  .object [("direct", .object [(referentKey, .string "other"), ("a", .bool true)]),
    ("bare", .object [(Merge.removeKey, .string referentKey)]),
    ("swapped", .object [(Merge.replaceKey, .object [(referentKey, .string "other")])])]

/-- The entries that refer to all of these blocks. -/
def threeReferences : Table Json :=
  [(referentKey, .array [.string "direct", .string "bare", .string "swapped"])]

theorem referentKey_mem_threeReferences :
    (Json.object threeReferences).Distinct ∧
      withReferents ⟨[], ⟨"/"⟩⟩ referringTree ⟨"/"⟩ (.object threeReferences) =
        .ok (.object [(referentKey, .string "other")]) ∧
      ∃ referred, RefersTo ⟨[], ⟨"/"⟩⟩ referringTree ⟨"/"⟩ threeReferences referred ∧
        Merge.mergeLayers (.object (threeReferences.erase referentKey)) referred =
          .ok (.object [(referentKey, .string "other")]) ∧
        (referentKey ∈ (Json.object [(referentKey, .string "other")]).rootKeys ↔
          Merge.BroughtIn referentKey referred) := by
  have hd : (Json.object threeReferences).Distinct := by decide
  have h : withReferents ⟨[], ⟨"/"⟩⟩ referringTree ⟨"/"⟩ (.object threeReferences) =
      .ok (.object [(referentKey, .string "other")]) := by rfl
  exact ⟨hd, h, referentKey_mem_withReferents hd h⟩

/-- The key is lost with one reference and comes back with what is referred to. -/
theorem withReferents_direct :
    withReferents ⟨[], ⟨"/"⟩⟩ referringTree ⟨"/"⟩ (.object [(referentKey, .string "direct")]) =
        .ok (.object [(referentKey, .string "other"), ("a", .bool true)]) ∧
      referentKey ∈
        (Json.object [(referentKey, .string "other"), ("a", .bool true)]).rootKeys := by
  exact ⟨by rfl, by decide⟩

end Override

end BundleConfig
