import BundleConfig.Proofs.Configuration.Tree
import BundleConfig.Proofs.Evaluation.Nodes
import BundleConfig.Proofs.Project.Paths

/-!
# Expression nodes in a section of paths

Making a section absolute does not look into expression nodes.  It keeps them wherever they
stand, but for the places that it writes itself: the context, and the base of every group.
A base that is an expression node, or has one in it, is taken for a missing one and lost
(`resolveAll_expressions`).

`Overwritten` says which paths lead to a base that is written, or below one.  The names on the
way are those of groups, and `ToGroup` follows them as the recursion on the members does.  So
a node is kept or lost by an induction on its path, or on the names to the base.
-/

namespace BundleConfig

namespace ProjectPaths

open Evaluation (source? sourceOfEntries? expressionKey collect)

variable {fs : FileSystem} {base context : Path} {entries : Table Json} {p : KeyPath} {v : Json}

/-! ## Nodes at paths -/

/-- The expression node at a path, if there is one. -/
def expressionAt (p : KeyPath) (v : Json) : Option Json :=
  (p.get? v).filter fun w => (source? w).isSome

theorem isSome_expressionAt : (expressionAt p v).isSome = ((p.get? v).bind source?).isSome := by
  rw [expressionAt]
  cases p.get? v with
  | none => rfl
  | some w =>
      rw [Option.bind_some, Option.filter_some]
      cases source? w <;> rfl

theorem expressionAt_nil_eq_none (h : source? v = none) : expressionAt [] v = none := by
  rw [expressionAt, KeyPath.get?_nil, Option.filter_some, h]
  rfl

theorem expressionAt_cons (s : Segment) :
    expressionAt (s :: p) v = (KeyPath.step? v s).bind (expressionAt p) := by
  rw [expressionAt, KeyPath.get?_cons]
  cases KeyPath.step? v s <;> rfl

/-- There is no expression node in a text. -/
theorem expressionAt_string (text : String) : expressionAt p (.string text) = none := by
  cases p with
  | nil => rfl
  | cons s p =>
      rw [expressionAt_cons]
      cases s <;> rfl

/-- What evaluation collects are the expression nodes with none above them. -/
theorem mem_collect_iff (hd : v.Distinct) :
    p ∈ collect [] v ↔ (expressionAt p v).isSome = true ∧
      ∀ q : KeyPath, q <+: p → q ≠ p → expressionAt q v = none := by
  have hnone (q : KeyPath) : expressionAt q v = none ↔ (q.get? v).bind source? = none := by
    rw [← Option.isNone_iff_eq_none, ← Option.isNone_iff_eq_none, ← Option.not_isSome,
      isSome_expressionAt, Option.not_isSome]
  simp only [Evaluation.mem_collect v hd, List.nil_append, exists_eq_left', Evaluation.Topmost,
    isSome_expressionAt, hnone]

/-! ## Members -/

/-- The names lead from a member through groups to a group. -/
inductive ToGroup : Json → List String → Prop
  | group {entries : Table Json} (hplain : sourceOfEntries? entries = none) :
      ToGroup (.object entries) []
  | member {entries : Table Json} {name : String} {v : Json} {names : List String}
      (hplain : sourceOfEntries? entries = none) (hname : isLiteralKey name = false)
      (hv : entries.get? name = some v) (hgroup : ToGroup v names) :
      ToGroup (.object entries) (name :: names)

theorem ToGroup.isObject {names : List String} (h : ToGroup v names) : v.isObject = true := by
  cases h <;> rfl

/-- The path leads from a member to the base of a group, or below one. -/
def OverwrittenIn (v : Json) (p : KeyPath) : Prop :=
  ∃ names, ToGroup v names ∧ along (names ++ ["base"]) <+: p

theorem expressionAt_nil_resolveMember (v : Json) :
    expressionAt [] (resolveMember fs base v) = expressionAt [] v := by
  cases v with
  | object entries =>
      cases hsource : sourceOfEntries? entries with
      | some source => rw [resolveMember_expression hsource]
      | none =>
          have hgroup : source? (resolveMember fs base (.object entries)) = none := by
            rw [resolveMember_group hsource]
            exact sourceOfEntries?_group hsource _
          have hbefore : source? (.object entries) = none := hsource
          rw [expressionAt_nil_eq_none hgroup, expressionAt_nil_eq_none hbefore]
  | string text => rw [resolveMember, spelled, expressionAt_string, expressionAt_string]
  | _ => rfl

/-- A member made absolute has the expression nodes that no base is written over. -/
theorem expressionAt_resolveMember (h : ¬ OverwrittenIn v p) :
    expressionAt p (resolveMember fs base v) = expressionAt p v := by
  induction p generalizing v base with
  | nil => exact expressionAt_nil_resolveMember v
  | cons s p ih =>
      cases v with
      | string text => rw [resolveMember, spelled, expressionAt_string, expressionAt_string]
      | object entries =>
          cases hsource : sourceOfEntries? entries with
          | some source => rw [resolveMember_expression hsource]
          | none =>
              rw [expressionAt_cons, expressionAt_cons]
              cases s with
              | index position =>
                  rw [resolveMember_group hsource]
                  rfl
              | key name =>
                  have hne : name ≠ "base" := by
                    rintro rfl
                    exact h ⟨[], .group hsource, List.cons_prefix_cons.mpr ⟨rfl, List.nil_prefix⟩⟩
                  show ((resolveMember fs base (.object entries)).get? name).bind _ =
                    (Table.get? entries name).bind _
                  rw [get?_resolveMember_of_ne hsource hne]
                  cases hv : Table.get? entries name with
                  | none => rfl
                  | some v =>
                      rw [Option.map_some, Option.bind_some, Option.bind_some]
                      split
                      next => rfl
                      next hpublic =>
                        refine ih fun ⟨names, hgroup, hbefore⟩ => h ⟨name :: names, ?_, ?_⟩
                        · have hname : isLiteralKey name = false := by
                            simp [isLiteralKey, hne, hpublic]
                          exact .member hsource hname hv hgroup
                        · exact List.cons_prefix_cons.mpr ⟨rfl, hbefore⟩
      | _ => rfl

/-- Where a base is written there is no expression node. -/
theorem expressionAt_of_overwrittenIn (h : OverwrittenIn v p) :
    expressionAt p (resolveMember fs base v) = none := by
  obtain ⟨names, hgroup, rest, rfl⟩ := h
  induction hgroup generalizing base with
  | @group entries hplain =>
      show expressionAt (.key "base" :: rest) _ = none
      rw [expressionAt_cons]
      show ((resolveMember fs base (.object entries)).get? "base").bind _ = none
      rw [get?_resolveMember_base hplain, Option.bind_some, spelled]
      exact expressionAt_string _
  | @member entries name v names hplain hname hv hgroup ih =>
      have hnames : name ≠ "base" ∧ name ≠ "public" := by simpa [isLiteralKey] using hname
      show expressionAt (.key name :: (along (names ++ ["base"]) ++ rest)) _ = none
      rw [expressionAt_cons]
      show ((resolveMember fs base (.object entries)).get? name).bind _ = none
      rw [get?_resolveMember_of_ne hplain hnames.1, hv, Option.map_some, Option.bind_some,
        if_neg hnames.2]
      exact ih

/-! ## The section -/

/-- The section as it is made absolute. -/
def madeAbsolute (fs : FileSystem) (context : Path) (entries : Table Json) : Json :=
  .object (relocated fs (fs.resolve context ⟨textAt entries "base"⟩) (placed fs context entries))

theorem resolveAll_eq (fs : FileSystem) (context : Path) (entries : Table Json) :
    resolveAll fs context (.object entries) = .ok (madeAbsolute fs context entries) :=
  resolveAll_object entries

/-- The path leads to the base of the section or of a group in it, or below one.  The context
and the configurations of the section are no groups. -/
def Overwritten (entries : Table Json) (p : KeyPath) : Prop :=
  along ["base"] <+: p ∨
    ∃ name v names, name ∉ ["base", "context", "configuration"] ∧ entries.get? name = some v ∧
      ToGroup v names ∧ along (name :: names ++ ["base"]) <+: p

theorem Overwritten.mono {q : KeyPath} (h : Overwritten entries q) (hbefore : q <+: p) :
    Overwritten entries p := by
  obtain hbase | ⟨name, v, names, hname, hv, hgroup, hbase⟩ := h
  · exact .inl (hbase.trans hbefore)
  · exact .inr ⟨name, v, names, hname, hv, hgroup, hbase.trans hbefore⟩

/-- The path leads to something that is written when the section is made absolute. -/
def Written (entries : Table Json) (p : KeyPath) : Prop :=
  along ["context"] <+: p ∨ Overwritten entries p

theorem Written.mono {q : KeyPath} (h : Written entries q) (hbefore : q <+: p) :
    Written entries p :=
  h.imp (·.trans hbefore) (·.mono hbefore)

/-- What becomes of the expression nodes of a section that is made absolute. -/
structure ExpressionsKept (fs : FileSystem) (context : Path) (entries : Table Json) (r : Json) :
    Prop where
  /-- Below the section a node that is not written over is at its place and unchanged. -/
  kept : ∀ p, p ≠ [] → ¬ Written entries p → expressionAt p r = expressionAt p (.object entries)
  /-- Where something is written there is no expression node. -/
  lost : ∀ p, Written entries p → expressionAt p r = none
  /-- The expression of a section that is an expression node itself is taken for a path. -/
  itself : source? r = (sourceOfEntries? entries).map fun source =>
    (fs.resolve (fs.resolve context ⟨textAt entries "base"⟩) ⟨source⟩).withSlash
  /-- In another section evaluation finds what it would find before, but for what is written
  over. -/
  collected : sourceOfEntries? entries = none → (Json.object entries).Distinct →
    ∀ p, p ∈ collect [] r ↔ p ∈ collect [] (.object entries) ∧ ¬ Written entries p

theorem step?_madeAbsolute {name : String} (hbase : name ≠ "base") (hcontext : name ≠ "context") :
    KeyPath.step? (madeAbsolute fs context entries) (.key name) =
      (entries.get? name).map fun v =>
        if name = "configuration" ∧ v.isObject = true then v
        else resolveMember fs (fs.resolve context ⟨textAt entries "base"⟩) v := by
  refine (get?_relocated _ name).trans ?_
  rw [get?_placed_of_ne entries hbase hcontext]
  simp [isFixed, hbase, hcontext]

theorem expressionAt_madeAbsolute (hne : p ≠ []) (h : ¬ Written entries p) :
    expressionAt p (madeAbsolute fs context entries) = expressionAt p (.object entries) := by
  obtain ⟨hcontext, hover⟩ := not_or.mp h
  obtain ⟨hbase, hgroups⟩ := not_or.mp hover
  cases p with
  | nil => exact absurd rfl hne
  | cons s p =>
      rw [expressionAt_cons, expressionAt_cons]
      cases s with
      | index position => rfl
      | key name =>
          have hfirst {other : String} (hnot : ¬ along [other] <+: .key name :: p) :
              name ≠ other := by
            rintro rfl
            exact hnot (List.cons_prefix_cons.mpr ⟨rfl, List.nil_prefix⟩)
          rw [step?_madeAbsolute (hfirst hbase) (hfirst hcontext)]
          show _ = (Table.get? entries name).bind _
          cases hv : Table.get? entries name with
          | none => rfl
          | some v =>
              rw [Option.map_some, Option.bind_some, Option.bind_some]
              split
              next => rfl
              next hnot =>
                refine expressionAt_resolveMember fun ⟨names, hgroup, hbefore⟩ => ?_
                have hconfiguration : name ≠ "configuration" := fun heq =>
                  hnot ⟨heq, hgroup.isObject⟩
                refine hgroups ⟨name, v, names, ?_, hv, hgroup, ?_⟩
                · simp [hfirst hbase, hfirst hcontext, hconfiguration]
                · exact List.cons_prefix_cons.mpr ⟨rfl, hbefore⟩

theorem expressionAt_of_written (h : Written entries p) :
    expressionAt p (madeAbsolute fs context entries) = none := by
  have htext {name text : String}
      (hget : (madeAbsolute fs context entries).get? name = some (.string text))
      (hbefore : along [name] <+: p) : expressionAt p (madeAbsolute fs context entries) = none := by
    obtain ⟨rest, rfl⟩ := hbefore
    show expressionAt (.key name :: rest) _ = none
    rw [expressionAt_cons]
    show ((madeAbsolute fs context entries).get? name).bind _ = none
    rw [hget]
    exact expressionAt_string text
  obtain hcontext | hbase | ⟨name, v, names, hname, hv, hgroup, rest, rfl⟩ := h
  · have hget : (madeAbsolute fs context entries).get? "context" = some (spelled context) := by
      refine (get?_relocated _ _).trans ?_
      rw [get?_placed_context]
      rfl
    exact htext hget hcontext
  · have hget : (madeAbsolute fs context entries).get? "base" =
        some (spelled (fs.resolve context ⟨textAt entries "base"⟩)) := by
      refine (get?_relocated _ _).trans ?_
      rw [get?_placed_base]
      rfl
    exact htext hget hbase
  · obtain ⟨hbase, hcontext, hconfiguration⟩ :
        name ≠ "base" ∧ name ≠ "context" ∧ name ≠ "configuration" := by simpa using hname
    show expressionAt (.key name :: (along (names ++ ["base"]) ++ rest)) _ = none
    rw [expressionAt_cons, step?_madeAbsolute hbase hcontext, hv, Option.map_some,
      Option.bind_some, if_neg fun hfixed => hconfiguration hfixed.1]
    exact expressionAt_of_overwrittenIn ⟨names, hgroup, rest, rfl⟩

theorem text?_resolveMember (v : Json) :
    (resolveMember fs base v).text? = v.text?.map fun text =>
      (fs.resolve base ⟨text⟩).withSlash := by
  cases v with
  | object entries =>
      rw [resolveMember]
      split <;> rfl
  | _ => rfl

theorem source?_madeAbsolute :
    source? (madeAbsolute fs context entries) = (sourceOfEntries? entries).map fun source =>
      (fs.resolve (fs.resolve context ⟨textAt entries "base"⟩) ⟨source⟩).withSlash := by
  show (KeyPath.step? (madeAbsolute fs context entries) (.key expressionKey)).bind Json.text? = _
  rw [step?_madeAbsolute (by decide) (by decide), sourceOfEntries?]
  cases entries.get? expressionKey with
  | none => rfl
  | some v =>
      rw [Option.map_some, Option.bind_some, Option.bind_some,
        if_neg (fun h => absurd h.1 (by decide))]
      exact text?_resolveMember v

/-- Evaluation finds the expression nodes that are not written over. -/
theorem mem_collect_madeAbsolute (hplain : sourceOfEntries? entries = none)
    (hd : (Json.object entries).Distinct) :
    p ∈ collect [] (madeAbsolute fs context entries) ↔
      p ∈ collect [] (.object entries) ∧ ¬ Written entries p := by
  have hroot : expressionAt [] (madeAbsolute fs context entries) = none := by
    refine expressionAt_nil_eq_none ?_
    rw [source?_madeAbsolute, hplain]
    rfl
  have hroot' : expressionAt [] (.object entries) = none := expressionAt_nil_eq_none hplain
  rw [mem_collect_iff (resolveAll_distinct hd (resolveAll_eq fs context entries)),
    mem_collect_iff hd]
  constructor
  · rintro ⟨hsome, habove⟩
    have hne : p ≠ [] := by
      rintro rfl
      rw [hroot] at hsome
      cases hsome
    have hwritten : ¬ Written entries p := by
      intro h
      rw [expressionAt_of_written h] at hsome
      cases hsome
    rw [expressionAt_madeAbsolute hne hwritten] at hsome
    refine ⟨⟨hsome, fun q hbefore hq => ?_⟩, hwritten⟩
    by_cases hnil : q = []
    · rw [hnil, hroot']
    · rw [← expressionAt_madeAbsolute hnil fun h => hwritten (h.mono hbefore)]
      exact habove q hbefore hq
  · rintro ⟨⟨hsome, habove⟩, hwritten⟩
    have hne : p ≠ [] := by
      rintro rfl
      rw [hroot'] at hsome
      cases hsome
    refine ⟨by rwa [expressionAt_madeAbsolute hne hwritten], fun q hbefore hq => ?_⟩
    by_cases hnil : q = []
    · rw [hnil, hroot]
    · rw [expressionAt_madeAbsolute hnil fun h => hwritten (h.mono hbefore)]
      exact habove q hbefore hq

/-- A section that is made absolute keeps its expression nodes, but for those in the place of a
context or a base that is written. -/
theorem resolveAll_expressions (fs : FileSystem) (context : Path) (entries : Table Json) :
    ∃ r, resolveAll fs context (.object entries) = .ok r ∧
      ExpressionsKept fs context entries r := by
  refine ⟨madeAbsolute fs context entries, resolveAll_eq fs context entries, ?_⟩
  constructor
  case kept => exact fun _ => expressionAt_madeAbsolute
  case lost => exact fun _ => expressionAt_of_written
  case itself => exact source?_madeAbsolute
  case collected => exact fun hplain hd _ => mem_collect_madeAbsolute hplain hd

/-- A section with a group whose base is an expression node. -/
def boundBase : Table Json :=
  [("source", .object [("base", .object [("__evaluate__", .string "'src'")])])]

/-- The base of the group is taken for a missing one and written over. -/
theorem resolveAll_boundBase :
    ((along ["source", "base"]).get? (.object boundBase)).bind source? = some "'src'" ∧
      ∃ r, resolveAll ⟨[], ⟨"/"⟩⟩ ⟨"/project"⟩ (.object boundBase) = .ok r ∧
        ((along ["source", "base"]).get? r).bind Json.text? = some "/project/" := by
  refine ⟨by decide, _, rfl, ?_⟩
  decide +kernel

end ProjectPaths

end BundleConfig
