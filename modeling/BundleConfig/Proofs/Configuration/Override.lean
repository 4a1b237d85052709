import BundleConfig.Proofs.Configuration.Tree
import BundleConfig.Proofs.Evaluation.Soundness
import BundleConfig.Proofs.Merge.Paths

/-!
# The last layer

An override is merged last, and what it holds is in the composed tree.  Then the
expressions are evaluated, and a node below an expression node is lost.

An override brings in no expression node when it does not have the key of one.  But a
mapping of it is merged into the mapping below, and an expression node is a mapping.  It
stays one: the entries of the override stand beside the expression, until its value
takes the place of all.  So the scalars and arrays of an override win over everything
but an expression node above them.
-/

namespace BundleConfig

/-! ## Expression nodes on a path -/

namespace Evaluation

/-- A node is an expression node by its entry under `__evaluate__`. -/
theorem source?_get? (q : KeyPath) (v : Json) :
    (q.get? v).bind source? = ((q.child (.key expressionKey)).get? v).bind Json.text? := by
  rw [KeyPath.get?_child, Option.bind_assoc]
  refine congrArg _ (funext fun w => ?_)
  cases w <;> rfl

theorem source?_eq_none {v : Json} (h : expressionKey ∉ v.allKeys) (q : KeyPath) :
    (q.get? v).bind source? = none := by
  rw [source?_get?, KeyPath.get?_child_of_not_mem h]
  rfl

/-- There is no expression node above the node of the path. -/
def NoneAbove (p : KeyPath) (v : Json) : Prop :=
  ∀ q : KeyPath, q <+: p → q ≠ p → (q.get? v).bind source? = none

theorem noneAbove_iff_take {p : KeyPath} {v : Json} :
    NoneAbove p v ↔ ∀ n < p.length, (KeyPath.get? (p.take n) v).bind source? = none := by
  constructor
  · intro h n hn
    refine h _ (List.take_prefix n p) fun heq => ?_
    have hlength := List.length_take_of_le (Nat.le_of_lt hn)
    exact Nat.ne_of_lt hn (hlength.symm.trans (congrArg List.length heq))
  · intro h q hq hne
    rw [List.prefix_iff_eq_take.mp hq]
    exact h _ (Nat.lt_of_le_of_ne hq.length_le fun hlength => hne (hq.eq_of_length hlength))

instance (p : KeyPath) (v : Json) : Decidable (NoneAbove p v) :=
  decidable_of_iff _ noneAbove_iff_take.symm

/-- A node without `__evaluate__` at it or below it stays as it is, unless it is below an
expression node. -/
theorem get?_evaluate {c : Context} {tree result v : Json} {p : KeyPath} (hd : tree.Distinct)
    (h : evaluate c tree = .ok result) (hv : p.get? tree = some v)
    (hplain : expressionKey ∉ v.allKeys) (habove : NoneAbove p tree) :
    p.get? result = some v := by
  obtain ⟨done, hsolved, -⟩ := solved_of_settleInOrder (nodes_collect hd) (List.Subset.refl _) h
  rw [← hv]
  refine hsolved.get?_of_unrelated fun n hn hrelated => ?_
  obtain ⟨_, rfl, htop⟩ := (mem_collect tree hd).mp (hsolved.subset hn)
  have hsource := htop.1
  have hbelow : ∀ below : KeyPath, ((p ++ below).get? tree).bind source? = none := fun below => by
    rw [KeyPath.get?_append, hv, Option.bind_some, source?_eq_none hplain]
  have hnone : (n.get? tree).bind source? = none := by
    rcases hrelated with hbefore | ⟨below, rfl⟩
    · by_cases heq : n = p
      · rw [heq, ← hbelow [], List.append_nil]
      · exact habove n hbefore heq
    · exact hbelow below
  rw [hnone] at hsource
  cases hsource

end Evaluation

/-! ## Merging an override -/

namespace Override

/-- Whether a key has a meaning of its own in an override or in the composed tree. -/
def isReserved (key : String) : Bool :=
  Merge.isDirective key || key == referentKey || key == Merge.commentKey
    || key == Evaluation.expressionKey

/-- No key of the settings, at whatever depth, has a meaning of its own. -/
def Plain (settings : Json) : Prop := ∀ key ∈ settings.allKeys, isReserved key = false

instance (settings : Json) : Decidable (Plain settings) :=
  inferInstanceAs (Decidable (∀ key ∈ settings.allKeys, isReserved key = false))

variable {settings lower merged v : Json} {p : KeyPath}

theorem Plain.directiveFree (h : Plain settings) : Merge.DirectiveFree settings := by
  intro key hkey
  have hreserved := h key hkey
  simp only [isReserved, Bool.or_eq_false_iff] at hreserved
  exact hreserved.1.1.1

theorem Plain.not_mem (h : Plain settings) {key : String} (hkey : isReserved key = true) :
    key ∉ settings.allKeys := by
  intro hmem
  rw [h key hmem] at hkey
  cases hkey

theorem Plain.plainAlong (h : Plain settings) (p : KeyPath) : Merge.PlainAlong p settings where
  above := fun _ _ _ _ hentries key hkey => h.directiveFree key.1
    (KeyPath.mem_allKeys_of_get? hentries (Or.inr (Json.mem_allKeysOfEntries.mpr
      ⟨key, hkey, Or.inl rfl⟩)))
  below := fun _ hv key hkey => h.directiveFree key (KeyPath.mem_allKeys_of_get? hv (Or.inr hkey))

/-- What is read from a text is distinct. -/
theorem parse_distinct {text : String} (h : parse text = .ok settings) : settings.Distinct := by
  unfold parse at h
  split at h
  · cases h
  next hread =>
    cases h
    exact Json.read_distinct hread
  · cases h

/-- Settings without references are merged as they are. -/
theorem withReferents_plain {fs : FileSystem} {tree completed : Json} {context : Path}
    (h : Plain settings) (hc : withReferents fs tree context settings = .ok completed) :
    completed = settings := by
  unfold withReferents at hc
  split at hc
  next names entries hnames =>
    have hkey : referentKey ∉ (Json.object entries).allKeys := h.not_mem (by decide)
    have hstep : KeyPath.step? (.object entries) (.key referentKey) = some names := hnames
    cases (KeyPath.get?_cons_of_step hstep []).symm.trans (KeyPath.get?_child_of_not_mem hkey [])
  next =>
    cases hc
    rfl

/-- On the way to a node of an override the expression nodes are those of the layers
below. -/
theorem noneAbove_merged (hplain : Plain settings) (hd : settings.Distinct)
    (h : Merge.mergeLayer lower settings = .ok merged) (hp : p.get? settings = some v)
    (habove : Evaluation.NoneAbove p lower) : Evaluation.NoneAbove p merged := by
  intro q hq hne
  obtain ⟨below, rfl⟩ := hq
  obtain ⟨w, hw, hbelow⟩ := Option.bind_eq_some_iff.mp (KeyPath.get?_append q below settings ▸ hp)
  cases w with
  | object entries =>
      have hnone : (q.child (.key Evaluation.expressionKey)).get? settings = none :=
        KeyPath.get?_child_of_not_mem (hplain.not_mem (by decide)) q
      rw [Evaluation.source?_get?,
        Merge.mergeLayer_absent hd (hplain.plainAlong _) h hw hnone]
      split
      · rw [← Evaluation.source?_get?]
        exact habove q (List.prefix_append q below) hne
      · rfl
  | array items =>
      rw [Merge.mergeLayer_value hd (hplain.plainAlong q) h hw rfl]
      rfl
  | _ =>
      cases below with
      | nil => exact absurd (List.append_nil q) (Ne.symm hne)
      | cons s rest => cases s <;> cases hbelow

end Override

/-! ## The loaded tree -/

namespace Configuration

section

variable {fs : FileSystem} {project : Project} {debug : Bool} {tree r : Json}
  {manifests : List Path} {key : String} {rest : KeyPath}

/-- A node under another key than those of the facts loses its comments. -/
theorem get?_withFacts (hd : tree.Distinct)
    (h : withFacts fs project debug tree = .ok (r, manifests)) (hkey : key ∉ factKeys)
    (hcomment : .key Merge.commentKey ∉ Segment.key key :: rest) :
    KeyPath.get? (.key key :: rest) r =
      (KeyPath.get? (.key key :: rest) tree).map Merge.removeComments := by
  rw [← Merge.get?_removeComments hcomment]
  exact congrArg (·.bind (KeyPath.get? rest)) ((withFacts_eq_ok hd h).2 key hkey)

/-- The facts bring no expression node above it. -/
theorem noneAbove_withFacts (hd : tree.Distinct)
    (h : withFacts fs project debug tree = .ok (r, manifests)) (hkey : key ∉ factKeys)
    (hcomment : .key Merge.commentKey ∉ Segment.key key :: rest)
    (habove : Evaluation.NoneAbove (.key key :: rest) tree) :
    Evaluation.NoneAbove (.key key :: rest) r := by
  have htext : ∀ w, (Merge.removeComments w).text? = w.text? := by
    intro w
    cases w <;> rfl
  intro q hq hne
  have hnone := habove q hq hne
  rw [Evaluation.source?_get?] at hnone ⊢
  have hsame : (q.child (.key Evaluation.expressionKey)).get? r =
      ((q.child (.key Evaluation.expressionKey)).get? tree).map Merge.removeComments := by
    rcases List.prefix_cons_iff.mp hq with rfl | ⟨below, rfl, hbelow⟩
    · exact get?_withFacts hd h (by decide) (by decide)
    · have hchild : KeyPath.child (.key key :: below) (.key Evaluation.expressionKey) =
          .key key :: KeyPath.child below (.key Evaluation.expressionKey) := rfl
      rw [hchild]
      refine get?_withFacts hd h hkey fun hmem => ?_
      have hmem : .key Merge.commentKey ∈
          (Segment.key key :: below) ++ [.key Evaluation.expressionKey] := hmem
      rcases List.mem_append.mp hmem with hmem | hlast
      · exact hcomment (hq.subset hmem)
      · exact absurd (List.mem_singleton.mp hlast) (by decide)
  rw [hsame, Option.bind_map]
  simpa only [Function.comp_def, htext] using hnone

end

/-- The first keys under which a load writes itself. -/
def writtenKeys : List String := factKeys ++ lookupKeys

variable {fs after : FileSystem} {o : Purpose} {c : Configuration} {g : Ground}
  {text key : String} {settings v : Json} {rest : KeyPath}

/-- A scalar or an array of an override stands in the loaded tree, whatever the other
layers hold at its place or above it, as long as they have no expression node above
it. -/
theorem load_override (h : load fs o = (after, .ok c)) (hg : Ground.ofLoad fs o = .ok g)
    (htext : g.override? = some text) (hsettings : Override.parse text = .ok settings)
    (hplain : Override.Plain settings)
    (hv : KeyPath.get? (.key key :: rest) settings = some v) (ho : v.isObject = false)
    (hkey : key ∉ writtenKeys)
    (habove : ∀ lower, g.compose none = .ok lower →
      Evaluation.NoneAbove (.key key :: rest) lower.tree) :
    KeyPath.get? (.key key :: rest) c.tree = some v := by
  obtain ⟨g', hg', -, ⟨s⟩⟩ := exists_stages h
  obtain rfl : g = g' := Except.ok.inj (hg.symm.trans hg')
  obtain ⟨hfact, hlookup⟩ := not_or.mp (List.mem_append.not.mp hkey)
  have hcomposed := s.composed
  rw [htext] at hcomposed
  obtain ⟨lower, parsed, completed, hlower, hparsed, hcompleted, hmerge⟩ :=
    Composition.ofLayers_override (r := ⟨g.task, g.debug, none⟩) hcomposed
  obtain rfl : settings = parsed := Except.ok.inj (hsettings.symm.trans hparsed)
  obtain rfl := Override.withReferents_plain hplain hcompleted
  have hd := Override.parse_distinct hsettings
  have hmerged := Merge.mergeLayer_value hd (hplain.plainAlong _) hmerge hv ho
  have hnone := Override.noneAbove_merged hplain hd hmerge hv (habove lower hlower)
  have hdistinct := Composition.ofLayers_distinct s.composed
  have hcomment : .key Merge.commentKey ∉ Segment.key key :: rest := fun hmem =>
    hplain.not_mem (by decide) (KeyPath.mem_allKeys_of_get? hv (Or.inl hmem))
  have hbelow : ∀ {name : String}, Override.isReserved name = true → name ∉ v.allKeys :=
    fun hname hmem => hplain.not_mem hname (KeyPath.mem_allKeys_of_get? hv (Or.inr hmem))
  have hfactual : KeyPath.get? (.key key :: rest) s.factual = some v := by
    rw [get?_withFacts hdistinct s.hasFacts hfact hcomment, hmerged, Option.map_some,
      Merge.removeComments_eq_self v (hbelow (by decide))]
  have hstill := noneAbove_withFacts hdistinct s.hasFacts hfact hcomment hnone
  rw [s.get?_evaluated hlookup]
  exact Evaluation.get?_evaluate (withFacts_eq_ok hdistinct s.hasFacts).1 s.isEvaluated hfactual
    (hbelow (by decide)) hstill

/-! ## A mapping in the place of a text, and one in the place of an expression -/

/-- A directory without a project. -/
def noFiles : FileSystem := ⟨[], ⟨"/"⟩⟩

/-- The options that override a text and an expression of the packaged settings. -/
def digestAndSchedule : Purpose :=
  { override := some ("\x7b\"injection\":\x7b\"entry\":[]\x7d,"
      ++ "\"hashAlgorithm\":\x7b\"name\":\"sha1\"\x7d,\"offline\":\x7b\"weekly\":true\x7d\x7d")
    now := ⟨0⟩ }

def digestPath : KeyPath := [.key "hashAlgorithm", .key "name"]

def schedulePath : KeyPath := [.key "offline", .key "weekly"]

/-- What is looked at of the override. -/
def givesBoth (settings : Json) : Bool :=
  Override.Plain settings && (digestPath.get? settings).bind Json.text? == some "sha1" &&
    (schedulePath.get? settings).bind Json.flag? == some true

theorem exists_digestAndSchedule : ∃ g text settings,
    Ground.ofLoad noFiles digestAndSchedule = .ok g ∧ g.override? = some text ∧
    Override.parse text = .ok settings ∧ givesBoth settings = true ∧
    ∀ lower, g.compose none = .ok lower → Evaluation.NoneAbove digestPath lower.tree := by
  have hground : (Ground.ofLoad noFiles digestAndSchedule).toOption.any (fun g =>
      (g.override?.any fun text => (Override.parse text).toOption.any givesBoth) &&
        (g.compose none).toOption.all fun lower =>
          decide (Evaluation.NoneAbove digestPath lower.tree)) = true := by
    decide +kernel
  obtain ⟨g, hg, hchecks⟩ := (Option.any_eq_true _ _).mp hground
  obtain ⟨hoverride, hlower⟩ := Bool.and_eq_true_iff.mp hchecks
  obtain ⟨text, htext, hparsed⟩ := (Option.any_eq_true _ _).mp hoverride
  obtain ⟨settings, hsettings, hboth⟩ := (Option.any_eq_true _ _).mp hparsed
  refine ⟨g, text, settings, toOption_eq_some_iff.mp hg, htext, toOption_eq_some_iff.mp hsettings,
    hboth, fun lower hcompose => ?_⟩
  rw [hcompose] at hlower
  exact of_decide_eq_true hlower

theorem exists_loaded_digestAndSchedule : ∃ after c,
    load noFiles digestAndSchedule = (after, .ok c) ∧ schedulePath.get? c.tree = none := by
  have hloaded : (loaded? noFiles digestAndSchedule).any (fun left =>
      (schedulePath.get? left.2.tree).isNone) = true := by
    decide +kernel
  obtain ⟨after, c, h, hcheck⟩ := exists_of_any hloaded
  exact ⟨after, c, h, Option.isNone_iff_eq_none.mp hcheck⟩

/-- The mapping takes the place of the text. -/
theorem load_override_digest : ∃ after c, load noFiles digestAndSchedule = (after, .ok c) ∧
    digestPath.get? c.tree = some (.string "sha1") := by
  obtain ⟨after, c, h, -⟩ := exists_loaded_digestAndSchedule
  obtain ⟨g, text, settings, hg, htext, hsettings, hboth, habove⟩ := exists_digestAndSchedule
  simp only [givesBoth, Bool.and_eq_true, decide_eq_true_eq, beq_iff_eq] at hboth
  obtain ⟨⟨hplain, hdigest⟩, -⟩ := hboth
  obtain ⟨v, hv, hvalue⟩ := Option.bind_eq_some_iff.mp hdigest
  obtain rfl : v = .string "sha1" := by
    cases v <;> cases hvalue
    rfl
  exact ⟨after, c, h,
    load_override h hg htext hsettings hplain hv rfl (by decide) habove⟩

/-- The other mapping is lost. -/
theorem load_override_schedule : ∃ after c g text settings,
    load noFiles digestAndSchedule = (after, .ok c) ∧
    Ground.ofLoad noFiles digestAndSchedule = .ok g ∧ g.override? = some text ∧
    Override.parse text = .ok settings ∧ Override.Plain settings ∧
    schedulePath.get? settings = some (.bool true) ∧ "offline" ∉ writtenKeys ∧
    schedulePath.get? c.tree = none := by
  obtain ⟨after, c, h, hlost⟩ := exists_loaded_digestAndSchedule
  obtain ⟨g, text, settings, hg, htext, hsettings, hboth, -⟩ := exists_digestAndSchedule
  simp only [givesBoth, Bool.and_eq_true, decide_eq_true_eq, beq_iff_eq] at hboth
  obtain ⟨⟨hplain, -⟩, hschedule⟩ := hboth
  obtain ⟨v, hv, hvalue⟩ := Option.bind_eq_some_iff.mp hschedule
  obtain rfl : v = .bool true := by
    cases v <;> cases hvalue
    rfl
  exact ⟨after, c, g, text, settings, h, hg, htext, hsettings, hplain, hv, by decide, hlost⟩

end Configuration

end BundleConfig
