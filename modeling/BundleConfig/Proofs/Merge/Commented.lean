import BundleConfig.Proofs.Merge.Stripping

/-!
# Layers with comments

Two theorems on merging layers as they are written and without their comments.

Without directives a merge that succeeds gives the same both ways, up to the comments
(`mergeLayers_removeComments`).

With directives a merge that succeeds without comments need not succeed as it is written
(`breaks_commentedRuns`).  It does so exactly where no comment blocks it, and then it gives
the same, provided that no comment misleads it (`mergeLayers_commented`).  Layers that are
`isUnambiguous` have no comment that misleads, whatever they are merged onto.
-/

namespace BundleConfig

namespace Merge

/-! ## Layers without misleading comments -/

/-- A property of layers that holds of what is inside of them too. -/
structure Hereditary (Q : Json → Prop) : Prop where
  items : ∀ items, Q (.array items) → ∀ v ∈ items, Q v
  entries : ∀ entries, Q (.object entries) → ∀ e ∈ entries, Q e.2

variable {Q : Json → Prop} {P : Site → Prop}

theorem Hereditary.operandItems (hQ : Hereditary Q) {v : Json} (hv : Q v) :
    ∀ item ∈ operandItems v, Q item := by
  cases v with
  | array items => exact hQ.items items hv
  | _ => exact List.forall_mem_singleton.mpr hv

theorem Hereditary.part (hQ : Hereditary Q) {s part : Site} (h : Part s part) (hs : Q s.layer) :
    Q part.layer := by
  have hvalue : ∀ {entries : List (String × Json)} {key : String} {v : Json},
      Q (.object entries) → Table.get? entries key = some v → Q v :=
    fun hs hv => hQ.entries _ hs _ (Table.mem_of_get? hv)
  cases h with
  | item hi => exact hQ.items _ hs _ (List.mem_of_getElem? hi)
  | replaced operand => exact hvalue hs operand
  | added adding operand listed => exact hQ.operandItems (hvalue hs operand) _ listed
  | entry site ordinary =>
      obtain ⟨entries, hobject, hmem⟩ := site.mem
      rw [hobject] at hs
      exact hQ.entries entries hs _ hmem

/-- What no merge of such a layer has does not occur when such layers are merged. -/
theorem Hereditary.not_occurs (hQ : Hereditary Q) (hP : ∀ s, Q s.layer → ¬ P s)
    {target : Json} {layers : List Json} (h : ∀ layer ∈ layers, Q layer) :
    ¬ Occurs P target layers := by
  intro hoccurs
  induction hoccurs with
  | here hwithin hs =>
      refine hP _ (hwithin.preserves (fun s part hs hpart => hQ.part hpart hs) ?_) hs
      exact h _ List.mem_cons_self
  | later _ _ ih => exact ih fun layer hlayer => h layer (List.mem_cons_of_mem _ hlayer)

theorem hereditary_directiveFree : Hereditary DirectiveFree where
  items := fun _ h => directiveFree_array.mp h
  entries := fun _ h e he => (directiveFree_object.mp h e he).2

/-- A directive is kept beside a comment. -/
theorem exists_directive {entries : List (String × Json)} (hbare : Bare entries)
    (h : removeEntryComments entries ≠ []) : ∃ e ∈ entries, isDirective e.1 = true := by
  by_contra hnone
  apply h
  have hcomments : ∀ e ∈ entries, e.1 = commentKey := by
    intro e he
    by_contra hne
    exact hnone ⟨e, he, hbare.others e he hne⟩
  clear hbare h hnone
  induction entries with
  | nil => rfl
  | cons entry rest ih =>
      obtain ⟨hfirst, hrest⟩ := List.forall_mem_cons.mp hcomments
      rw [removeEntryComments, if_pos hfirst]
      exact ih hrest

theorem not_misleads_of_directiveFree {s : Site} (h : DirectiveFree s.layer) : ¬ Misleads s := by
  intro hmisleads
  cases hmisleads with
  | removal replaced array listed operand differs =>
      rw [get?_of_noDirective rfl h.noDirective] at operand
      cases operand
  | mapping bare directive directives noMapping taken =>
      obtain ⟨e, he, hdirective⟩ := exists_directive bare directive
      rw [h.noDirective e he] at hdirective
      cases hdirective

/-- Comments have no influence on what layers without directives give. -/
theorem mergeLayers_removeComments {target r : Json} {layers : List Json}
    (hlayers : ∀ layer ∈ layers, DirectiveFree layer) (h : mergeLayers target layers = .ok r) :
    mergeLayers (removeComments target) (layers.map removeComments) = .ok (removeComments r) :=
  (mergeLayers_mirrors (hereditary_directiveFree.not_occurs
    (fun _ => not_misleads_of_directiveFree) hlayers)).forth r h

/-- Layers with comments beside entries, alone, in an array and onto another comment. -/
def commentedLayers : List Json :=
  [.object [("#", .string "top"), ("a", .object [("#", .string "why"), ("x", .null)]),
      ("b", .array [.object [("#", .null)], .object [("y", .bool true), ("#", .null)]])],
    .object [("c", .object [("#", .array [])]), ("a", .object [("#", .array [])]),
      ("#", .string "again")]]

theorem mergeLayers_commentedLayers :
    (∀ layer ∈ commentedLayers, DirectiveFree layer) ∧
      mergeLayers (.object [("c", .array [])]) commentedLayers =
        .ok (.object [("c", .object [("#", .array [])]), ("#", .string "again"),
          ("a", .object [("#", .array []), ("x", .null)]),
          ("b", .array [.object [("#", .null)], .object [("y", .bool true), ("#", .null)]])]) ∧
      mergeLayers (removeComments (.object [("c", .array [])]))
          (commentedLayers.map removeComments) =
        .ok (.object [("c", .object []), ("a", .object [("x", .null)]),
          ("b", .array [.object [], .object [("y", .bool true)]])]) := by
  have hlayers : ∀ layer ∈ commentedLayers, DirectiveFree layer := by decide
  have hr : mergeLayers (.object [("c", .array [])]) commentedLayers =
      .ok (.object [("c", .object [("#", .array [])]), ("#", .string "again"),
        ("a", .object [("#", .array []), ("x", .null)]),
        ("b", .array [.object [("#", .null)], .object [("y", .bool true), ("#", .null)]])]) := by
    rfl
  exact ⟨hlayers, hr, mergeLayers_removeComments hlayers hr⟩

/-! ## Layers with directives -/

/-- Whether the node is no array and no mapping. -/
def isScalar (v : Json) : Bool := !v.isObject && !v.isArray

/-- Whether no comment among entries can mislead.  A removal lists scalars, and beside comments
and directives there is another entry. -/
def hasClearComments (entries : List (String × Json)) : Bool :=
  (Table.get? entries removeKey).all (fun operand => (operandItems operand).all isScalar) &&
    (!entries.any (fun e => isDirective e.1) ||
      !entries.any (fun e => e.1 == commentKey) ||
      entries.any fun e => !isDirective e.1 && e.1 != commentKey)

mutual

/-- Whether no comment of the tree can mislead. -/
def isUnambiguous : Json → Bool
  | .array items => areUnambiguousItems items
  | .object entries => hasClearComments entries && areUnambiguousEntries entries
  | _ => true
termination_by structural v => v

/-- Whether no comment of the items can mislead. -/
def areUnambiguousItems : List Json → Bool
  | [] => true
  | v :: rest => isUnambiguous v && areUnambiguousItems rest
termination_by structural items => items

/-- Whether no comment in the values of the entries can mislead. -/
def areUnambiguousEntries : List (String × Json) → Bool
  | [] => true
  | (_, v) :: rest => isUnambiguous v && areUnambiguousEntries rest
termination_by structural entries => entries

end

theorem areUnambiguousItems_eq_all (items : List Json) :
    areUnambiguousItems items = items.all isUnambiguous := by
  induction items with
  | nil => rfl
  | cons v rest ih => rw [areUnambiguousItems, ih, List.all_cons]

theorem areUnambiguousEntries_eq_all (entries : List (String × Json)) :
    areUnambiguousEntries entries = entries.all fun e => isUnambiguous e.2 := by
  induction entries with
  | nil => rfl
  | cons e rest ih => rw [areUnambiguousEntries, ih, List.all_cons]

theorem hereditary_isUnambiguous : Hereditary fun v => isUnambiguous v = true where
  items := by
    intro items h
    rw [isUnambiguous, areUnambiguousItems_eq_all] at h
    exact List.all_eq_true.mp h
  entries := by
    intro entries h
    rw [isUnambiguous, Bool.and_eq_true, areUnambiguousEntries_eq_all] at h
    exact List.all_eq_true.mp h.2

/-- A scalar equals what it equals without comments. -/
theorem equal_scalar {removal : Json} (h : isScalar removal = true) (item : Json) :
    Json.equal (removeComments item) (removeComments removal) = Json.equal item removal := by
  cases removal with
  | array items => cases h
  | object entries => cases h
  | _ => cases item <;> rfl

theorem not_misleads_of_isUnambiguous {s : Site} (h : isUnambiguous s.layer = true) :
    ¬ Misleads s := by
  intro hmisleads
  cases hmisleads with
  | removal replaced array listed operand differs =>
      rw [isUnambiguous, Bool.and_eq_true, hasClearComments, Bool.and_eq_true] at h
      have hscalars := h.1.1
      rw [operand, Option.all_some, List.all_eq_true] at hscalars
      apply differs
      rw [operandItems_removeComments, List.any_map, Bool.eq_iff_iff, List.any_eq_true,
        List.any_eq_true]
      refine exists_congr fun removal => and_congr_right fun hremoval => ?_
      exact Bool.eq_iff_iff.mp (equal_scalar (hscalars removal hremoval) _).symm
  | mapping bare directive directives noMapping taken =>
      rw [isUnambiguous, Bool.and_eq_true, hasClearComments, Bool.and_eq_true, Bool.or_eq_true,
        Bool.or_eq_true] at h
      obtain ⟨⟨-, (hnoDirective | hnoComment) | hother⟩, -⟩ := h
      · obtain ⟨e, he, hdirective⟩ := exists_directive bare directive
        rw [Bool.not_eq_true', List.any_eq_false] at hnoDirective
        exact hnoDirective e he hdirective
      · obtain ⟨e, he, hcomment⟩ := List.mem_map.mp bare.comment
        rw [Bool.not_eq_true', List.any_eq_false] at hnoComment
        exact hnoComment e he (beq_iff_eq.mpr hcomment)
      · obtain ⟨e, he, hordinary⟩ := List.any_eq_true.mp hother
        rw [Bool.and_eq_true, bne_iff_ne] at hordinary
        rw [bare.others e he hordinary.2] at hordinary
        cases hordinary.1

/-! ## Comments that break a merge -/

/-- When layers can be merged without their comments and no comment misleads, they can be merged
as they are written exactly where no comment blocks them.  They give the same then, up to the
comments. -/
theorem mergeLayers_commented {target r : Json} {layers : List Json}
    (htarget : commentKey ∉ target.allKeys) (hmisleads : ¬ Occurs Misleads target layers)
    (h : mergeLayers target (layers.map removeComments) = .ok r) :
    ((∃ written, mergeLayers target layers = .ok written) ↔ ¬ Occurs Blocks target layers) ∧
      ∀ written, mergeLayers target layers = .ok written → removeComments written = r := by
  have hmirrors := mergeLayers_mirrors hmisleads
  rw [removeComments_eq_self target htarget] at hmirrors
  refine ⟨⟨?_, fun hblocks => hmirrors.back hblocks r h⟩, ?_⟩
  · rintro ⟨written, hwritten⟩
    exact not_occurs_of_mergeLayers (fun _ => Blocks.not_succeeds) hwritten
  · intro written hwritten
    exact Except.ok.inj ((hmirrors.forth written hwritten).symm.trans h)

/-- Layers with a comment beside a directive and another entry, and with one that is replaced. -/
def directedLayers : List Json :=
  [.object [("ignore", .object [("#", .string "why"), ("__replace__", .null),
      ("paths", .object [("__append__", .string "c")])])],
    .object [("ignore", .object [("#", .string "again"),
      ("paths", .object [("__remove__", .string "c"), ("__prepend__", .string "a")])])]]

theorem mergeLayers_directedLayers :
    commentKey ∉ (Json.object [("ignore", .array [.string "b"])]).allKeys ∧
      ¬ Occurs Misleads (.object [("ignore", .array [.string "b"])]) directedLayers ∧
      mergeLayers (.object [("ignore", .array [.string "b"])])
          (directedLayers.map removeComments) =
        .ok (.object [("ignore", .object [("paths", .array [.string "a"])])]) ∧
      ((∃ written, mergeLayers (.object [("ignore", .array [.string "b"])]) directedLayers =
          .ok written) ↔
        ¬ Occurs Blocks (.object [("ignore", .array [.string "b"])]) directedLayers) ∧
      mergeLayers (.object [("ignore", .array [.string "b"])]) directedLayers =
        .ok (.object [("ignore", .object [("#", .string "again"),
          ("paths", .array [.string "a"])])]) := by
  have htarget : commentKey ∉ (Json.object [("ignore", .array [.string "b"])]).allKeys := by decide
  have hmisleads : ¬ Occurs Misleads (.object [("ignore", .array [.string "b"])]) directedLayers :=
    hereditary_isUnambiguous.not_occurs (fun _ => not_misleads_of_isUnambiguous) (by decide)
  have h : mergeLayers (.object [("ignore", .array [.string "b"])])
      (directedLayers.map removeComments) =
      .ok (.object [("ignore", .object [("paths", .array [.string "a"])])]) := by rfl
  exact ⟨htarget, hmisleads, h, (mergeLayers_commented htarget hmisleads h).1, by rfl⟩

/-- Layers can be merged onto a target without comments when they have lost their own, and
cannot be merged as they are written. -/
def Breaks (target : Json) (layers : List Json) : Prop :=
  commentKey ∉ target.allKeys ∧ (∃ r, mergeLayers target (layers.map removeComments) = .ok r) ∧
    ¬ ∃ r, mergeLayers target layers = .ok r

theorem breaks_iff {target : Json} {layers : List Json} :
    Breaks target layers ↔ commentKey ∉ target.allKeys ∧
      (fault? (mergeLayers target (layers.map removeComments))).isNone = true ∧
      (fault? (mergeLayers target layers)).isNone = false := by
  rw [Breaks, ← fault?_eq_none_iff, ← fault?_eq_none_iff, ← Option.isNone_iff_eq_none,
    ← Option.isNone_iff_eq_none, Bool.not_eq_true]

/-- Comments break merges: beside a directive for an array, in a mapping that an array replaces,
and onto a comment of another shape.  A comment that misleads breaks a later one: where the
directives beside it leave no mapping, and in an item that is to be removed. -/
theorem breaks_commentedRuns :
    Breaks (.object [("ignore", .array [.string "b"])])
        [.object [("ignore", .object [("#", .string "why"), ("__append__", .string "c")])]] ∧
      Breaks .emptyObject
        [.object [("a", .object [("#", .string "why")])], .object [("a", .array [])]] ∧
      Breaks .emptyObject
        [.object [("#", .array [.null])], .object [("#", .object [("x", .null)])]] ∧
      Breaks .emptyObject
        [.object [("a", .object [("#", .string "why"), ("__replace__", .null)])],
          .object [("a", .object [("__append__", .string "x")])]] ∧
      Breaks (.object [("a", .array [])])
        [.object [("a", .array [.object [("#", .string "why")]])],
          .object [("a", .object [("__remove__", .array [.emptyObject])])],
          .object [("a", .object [("x", .null)])]] := by
  simp only [breaks_iff]
  decide

end Merge

end BundleConfig
