import BundleConfig.Project.Paths
import BundleConfig.Proofs.KeyPath.Writing
import BundleConfig.Proofs.Path.Rendering
import BundleConfig.Proofs.Table

/-!
# The section of paths, made absolute

A path that is resolved against an absolute base is one of names.  Spelled as a directory it
is the renderings of its names, each followed by a slash.  Such a spelling resolves to what the
rendering of the path is read back as, whatever the base is (`FileSystem.resolve_withSlash`).

*Groups.*  The base of a group is seen from the base of the group around it.  `baseAt` is the
base of the group that some names lead to, and `SpelledFrom` says what text a name of this
group has in the end.  A group that is made absolute has all its texts so, by an induction on
the names that lead to them (`spelledFrom_iff`).  It needs to know of the group only what one
name of it becomes, so the outermost group, which has rules of its own, goes through the same
induction.

*Once more.*  Making absolute what is absolute changes nothing.  A base may be another
directory when it is read back from its rendering.  But each text of the section is an absolute
path by then, so it does not matter which directory it is seen from, and a rendering is rendered
as it is.
-/

namespace BundleConfig

open RawText (slash)

/-! ## Spellings of directories -/

namespace Text

/-- Before a separator the joined pieces are the pieces with a separator after each. -/
theorem join_concat {separator : Char} : ∀ {pieces : List (List Char)}, pieces ≠ [] →
    join separator pieces ++ [separator] = pieces.flatMap (· ++ [separator])
  | [piece], _ => (List.append_nil _).symm
  | piece :: next :: pieces, _ => by
      rw [join_cons_cons, List.append_assoc, List.cons_append,
        join_concat (List.cons_ne_nil next pieces), List.flatMap_cons]
      exact List.append_cons piece separator _

end Text

namespace Path

/-- The text spells an absolute directory: a slash, and then names, each with one slash after
it. -/
def SpellsDirectory (text : String) : Prop :=
  ∃ names : List String, (∀ name ∈ names, IsName (.ofText name)) ∧
    text.toList = '/' :: names.flatMap fun name => name.toList ++ ['/']

variable {names : List RawText}

/-- Only the spelling of the root has a slash at its end already. -/
theorem withSlash_ofNames (hne : names ≠ []) (h : ∀ name ∈ names, IsName name) :
    (ofNames names).withSlash = (ofNames names).text ++ "/" := by
  have hpieces : ∀ piece ∈ names.map (fun name => name.text.toList),
      piece ≠ [] ∧ '/' ∉ piece := by
    intro piece hpiece
    obtain ⟨name, hname, rfl⟩ := List.mem_map.mp hpiece
    obtain ⟨hempty, -, -, hslash⟩ := isName_ofText_iff.mp (h name hname).ofText_text
    exact ⟨fun hnil => hempty (String.toList_eq_nil_iff.mp hnil), hslash⟩
  have hjoin : Text.join '/' (names.map fun name => name.text.toList) ≠ [] :=
    Text.join_ne_nil (fun hnil => hne (List.map_eq_nil_iff.mp hnil)) fun piece hpiece =>
      (hpieces piece hpiece).1
  refine if_neg ?_
  rw [toList_text_ofNames, List.getLast?_cons_of_ne_nil hjoin]
  exact Text.getLast?_join hpieces

theorem toList_withSlash (h : ∀ name ∈ names, IsName name) : (ofNames names).withSlash.toList =
    '/' :: names.flatMap fun name => name.text.toList ++ ['/'] := by
  cases names with
  | nil => decide
  | cons name rest =>
      rw [withSlash_ofNames (List.cons_ne_nil name rest) h, String.toList_append,
        toList_text_ofNames, List.cons_append]
      refine congrArg ('/' :: ·) ?_
      show Text.join '/' ((name :: rest).map fun name => name.text.toList) ++ ['/'] = _
      rw [Text.join_concat, List.flatMap_map]
      exact List.cons_ne_nil _ _

theorem isAbsolute_withSlash (h : ∀ name ∈ names, IsName name) :
    (⟨(ofNames names).withSlash⟩ : Path).isAbsolute = true := by
  rw [isAbsolute_eq, text_mk, toList_withSlash h]
  rfl

/-- The slash at the end of a spelling says nothing. -/
theorem clean_withSlash (h : ∀ name ∈ names, IsName name) :
    (⟨(ofNames names).withSlash⟩ : Path).clean = ⟨(ofNames names).text⟩ := by
  have hnames := isName_of_mem_rendered h
  rw [mk_text_ofNames]
  cases names with
  | nil => decide
  | cons name rest =>
      have hbytes : (⟨(ofNames (name :: rest)).withSlash⟩ : Path).bytes =
          slash :: (Text.join slash ((rendered (name :: rest)).map RawText.bytes) ++ [slash]) := by
        rw [withSlash_ofNames (List.cons_ne_nil name rest) h, bytes_mk, RawText.bytes_ofText,
          String.toList_append, RawText.encode_append, ← RawText.bytes_ofText]
        show (⟨(ofNames (name :: rest)).text⟩ : Path).bytes ++ [slash] = _
        rw [mk_text_ofNames, bytes_ofNames, List.cons_append]
      refine clean_of_components ?_
      rw [components_of_bytes hbytes, Component.ofBytes_append, ofBytes_join_names hnames]
      exact congrArg (Component.root :: ·) (List.append_nil _)

/-- A spelling tells no more of a path than its rendering. -/
theorem withSlash_mk_text (p : Path) : (⟨p.text⟩ : Path).withSlash = p.withSlash := by
  rw [withSlash, withSlash, text_mk]

theorem spellsDirectory_withSlash (h : ∀ name ∈ names, IsName name) :
    SpellsDirectory (ofNames names).withSlash := by
  refine ⟨names.map RawText.text, fun name hname => ?_, ?_⟩
  · obtain ⟨raw, hraw, rfl⟩ := List.mem_map.mp hname
    exact (h raw hraw).ofText_text
  · rw [toList_withSlash h, List.flatMap_map]

end Path

namespace FileSystem

variable {fs : FileSystem} {base : Path}

/-- What is resolved against an absolute base is a path of names. -/
theorem exists_resolve_eq_ofNames (h : base.isAbsolute = true) (p : Path) :
    ∃ names, (∀ name ∈ names, IsName name) ∧ fs.resolve base p = .ofNames names :=
  Path.exists_resolve_eq_ofNames h p fs.workingDirectory

theorem isAbsolute_resolve (h : base.isAbsolute = true) (p : Path) :
    (fs.resolve base p).isAbsolute = true :=
  Path.isAbsolute_resolve h p fs.workingDirectory

theorem spellsDirectory_resolve (h : base.isAbsolute = true) (p : Path) :
    Path.SpellsDirectory (fs.resolve base p).withSlash := by
  obtain ⟨names, hnames, heq⟩ := @exists_resolve_eq_ofNames fs base h p
  rw [heq]
  exact Path.spellsDirectory_withSlash hnames

/-- The spelling of a resolved path resolves to what its rendering is read back as, from any
base. -/
theorem resolve_withSlash (h : base.isAbsolute = true) (p other : Path) :
    fs.resolve other ⟨(fs.resolve base p).withSlash⟩ = ⟨(fs.resolve base p).text⟩ := by
  obtain ⟨names, hnames, heq⟩ := @exists_resolve_eq_ofNames fs base h p
  rw [heq, resolve, Path.resolve, if_pos (Path.isAbsolute_withSlash hnames),
    Path.clean_withSlash hnames]

end FileSystem

namespace ProjectPaths

variable {fs : FileSystem} {base outer context : Path}

theorem spelled_mk_text (p : Path) : spelled ⟨p.text⟩ = spelled p :=
  congrArg Json.string (Path.withSlash_mk_text p)

theorem textAt_of_get? {entries : Table Json} {key : String} {p : Path}
    (h : entries.get? key = some (spelled p)) : textAt entries key = p.withSlash := by
  rw [textAt, h]
  rfl

/-! ## One group -/

theorem get?_resolveMembers (entries : Table Json) (key : String) :
    Table.get? (resolveMembers fs base entries) key =
      (entries.get? key).map fun v => if isLiteralKey key then v else resolveMember fs base v := by
  induction entries with
  | nil => rfl
  | cons entry rest ih =>
      obtain ⟨k, v⟩ := entry
      rw [resolveMembers, Table.get?_cons, Table.get?_cons, ih]
      split
      next heq => rw [heq, Option.map_some]
      next => rfl

theorem resolveMember_group {entries : Table Json}
    (h : Evaluation.sourceOfEntries? entries = none) :
    resolveMember fs outer (.object entries) =
      .object (Table.insert
        (resolveMembers fs (fs.resolve outer ⟨textAt entries "base"⟩) entries) "base"
        (spelled (fs.resolve outer ⟨textAt entries "base"⟩))) := by
  rw [resolveMember, h]
  rfl

theorem resolveMember_expression {entries : Table Json} {source : String}
    (h : Evaluation.sourceOfEntries? entries = some source) :
    resolveMember fs outer (.object entries) = .object entries := by
  rw [resolveMember, h]
  rfl

/-- A member that is no group and no text stays as it is. -/
theorem resolveMember_of_other {v : Json} (hobject : v.isObject = false)
    (hstring : v.isString = false) : resolveMember fs base v = v := by
  cases v with
  | string text => cases hstring
  | object entries => cases hobject
  | _ => simp [resolveMember]

@[simp] theorem isObject_resolveMember (v : Json) :
    (resolveMember fs base v).isObject = v.isObject := by
  cases v with
  | string text => simp [resolveMember, spelled, Json.isObject, Json.entries?]
  | object entries =>
      rw [resolveMember]
      split <;> simp [Json.isObject, Json.entries?]
  | _ => rw [resolveMember_of_other rfl rfl]

/-- The base of a group becomes the spelling of its directory. -/
theorem get?_resolveMember_base {entries : Table Json}
    (h : Evaluation.sourceOfEntries? entries = none) :
    (resolveMember fs outer (.object entries)).get? "base" =
      some (spelled (fs.resolve outer ⟨textAt entries "base"⟩)) := by
  rw [resolveMember_group h]
  exact Table.get?_insert_self _ _ _

/-- Every other name of a group is a member, but for the public one. -/
theorem get?_resolveMember_of_ne {entries : Table Json} {name : String}
    (h : Evaluation.sourceOfEntries? entries = none) (hne : name ≠ "base") :
    (resolveMember fs outer (.object entries)).get? name =
      (entries.get? name).map fun v =>
        if name = "public" then v
        else resolveMember fs (fs.resolve outer ⟨textAt entries "base"⟩) v := by
  rw [resolveMember_group h]
  refine (Table.get?_insert_of_ne _ _ hne).trans ?_
  rw [get?_resolveMembers]
  simp [isLiteralKey, hne]

theorem resolveMember_eq_string_iff {v : Json} {text : String} :
    resolveMember fs base v = .string text ↔
      ∃ original, v = .string original ∧ text = (fs.resolve base ⟨original⟩).withSlash := by
  cases v with
  | string original =>
      rw [resolveMember, spelled]
      simp [eq_comm]
  | object entries =>
      have hobject : (resolveMember fs base (.object entries)).isObject = true :=
        isObject_resolveMember (.object entries)
      constructor
      · intro h
        rw [h] at hobject
        cases hobject
      · rintro ⟨_, h, -⟩
        cases h
  | _ => simp [resolveMember]

/-! ## Texts below a block -/

/-- The path that leads through mappings along some names. -/
def along (names : List String) : KeyPath := names.map .key

/-- The text of the base of a group.  It is empty where the group has none. -/
def baseText (group : Json) : String := ((group.get? "base").bind Json.text?).getD ""

/-- The base of the group that names lead to in a block, which itself is seen from `outer`. -/
def baseAt (fs : FileSystem) (outer : Path) (block : Json) : List String → Path
  | [] => fs.resolve outer ⟨baseText block⟩
  | name :: rest =>
      baseAt fs (fs.resolve outer ⟨baseText block⟩) ((block.get? name).getD .null) rest

/-- The text that a name has when the block is made absolute: the base of the group above it,
or what the text of the block names, seen from there.  Below a base there is nothing. -/
def SpelledFrom (fs : FileSystem) (outer : Path) (block : Json) (above : List String)
    (name text : String) : Prop :=
  "base" ∉ above ∧
    if name = "base" then
      (∃ entries, (along above).get? block = some (.object entries)) ∧
        text = (baseAt fs outer block above).withSlash
    else
      ∃ original, (along (above ++ [name])).get? block = some (.string original) ∧
        text = (fs.resolve (baseAt fs outer block above) ⟨original⟩).withSlash

theorem get?_along_cons (name : String) (rest : List String) (v : Json) :
    (along (name :: rest)).get? v = (v.get? name).bind (along rest).get? :=
  rfl

/-- There is nothing below a node that is no mapping. -/
theorem get?_along_of_not_object {names : List String} (hne : names ≠ []) {v : Json}
    (h : v.isObject = false) : (along names).get? v = none := by
  cases names with
  | nil => exact absurd rfl hne
  | cons name rest =>
      cases v with
      | object entries => cases h
      | _ => rfl

theorem not_spelledFrom_of_not_object {above : List String} {name text : String} {v : Json}
    (h : v.isObject = false) : ¬ SpelledFrom fs outer v above name text := by
  rintro ⟨-, hspelled⟩
  split at hspelled
  · obtain ⟨⟨entries, hentries⟩, -⟩ := hspelled
    cases above with
    | nil =>
        cases hentries
        cases h
    | cons first rest =>
        rw [get?_along_of_not_object (List.cons_ne_nil first rest) h] at hentries
        cases hentries
  · obtain ⟨original, horiginal, -⟩ := hspelled
    rw [get?_along_of_not_object (List.append_ne_nil_of_right_ne_nil above (List.cons_ne_nil _ _))
      h] at horiginal
    cases horiginal

/-- Below a member a text is spelled as seen from the base of the member's group. -/
theorem spelledFrom_cons {entries : Table Json} {first : String} (hfirst : first ≠ "base")
    {above : List String} {name text : String} :
    SpelledFrom fs outer (.object entries) (first :: above) name text ↔
      ∃ v, entries.get? first = some v ∧
        SpelledFrom fs (fs.resolve outer ⟨textAt entries "base"⟩) v above name text := by
  have hget : (Json.object entries).get? first = entries.get? first := rfl
  have hmem : "base" ∉ first :: above ↔ "base" ∉ above := by simp [Ne.symm hfirst]
  rw [SpelledFrom, hmem, List.cons_append, get?_along_cons, get?_along_cons, baseAt, hget]
  cases entries.get? first with
  | none => simp
  | some v =>
      have hsame : ∀ w, some v = some w ↔ w = v := fun w => by rw [Option.some.injEq, eq_comm]
      simp only [hsame, exists_eq_left, Option.bind_some, Option.getD_some]
      rfl

/-- The texts of a group are spelled from its base, if its first names become what the names
of a group do. -/
theorem spelledFrom_iff {above : List String} {name text : String} {entries : Table Json}
    {r : Json} (hpublic : "public" ∉ (above ++ [name]).tail)
    (hplain : ∀ names, names ≠ [] → names <+: above → ∀ v,
      (along names).get? (.object entries) = some v → Evaluation.source? v = none)
    (hfirst : ∀ first ∈ (above ++ [name]).head?, r.get? first =
      if first = "base" then some (spelled (fs.resolve outer ⟨textAt entries "base"⟩))
      else (entries.get? first).map
        (resolveMember fs (fs.resolve outer ⟨textAt entries "base"⟩))) :
    (along (above ++ [name])).get? r = some (.string text) ↔
      SpelledFrom fs outer (.object entries) above name text := by
  induction above generalizing outer entries r with
  | nil =>
      have hname : (along ([] ++ [name])).get? r = r.get? name :=
        Option.bind_fun_some (r.get? name)
      have hgroup : (along []).get? (.object entries) = some (.object entries) := rfl
      have horiginal : (along ([] ++ [name])).get? (.object entries) = entries.get? name :=
        Option.bind_fun_some (entries.get? name)
      rw [hname, hfirst name rfl, SpelledFrom, hgroup, horiginal]
      split
      · simp [spelled, baseAt, baseText, textAt, Json.get?, Json.entries?, eq_comm]
      · cases entries.get? name with
        | none => simp
        | some v =>
            rw [Option.map_some, Option.some.injEq, resolveMember_eq_string_iff]
            simp [baseAt, baseText, textAt, Json.get?, Json.entries?]
  | cons first rest ih =>
      rw [List.cons_append, get?_along_cons, hfirst first rfl]
      by_cases hbase : first = "base"
      · rw [if_pos hbase, Option.bind_some, spelled,
          get?_along_of_not_object (List.append_ne_nil_of_right_ne_nil rest (List.cons_ne_nil _ _))
            rfl]
        constructor
        · intro h
          cases h
        · rintro ⟨hnot, -⟩
          exact absurd (List.mem_cons.mpr (Or.inl hbase.symm)) hnot
      · rw [if_neg hbase, spelledFrom_cons hbase]
        cases hv : entries.get? first with
        | none => simp
        | some v =>
            have hsome : ∀ w, some v = some w ↔ w = v := fun w => by
              rw [Option.some.injEq, eq_comm]
            simp only [hsome, exists_eq_left, Option.map_some, Option.bind_some]
            have hstep : (Json.object entries).get? first = some v := hv
            by_cases ho : v.isObject = true
            · cases v with
              | object es =>
                  have hsource : Evaluation.sourceOfEntries? es = none := by
                    refine hplain [first] (List.cons_ne_nil _ _) ?_ (.object es) ?_
                    · exact List.cons_prefix_cons.mpr ⟨rfl, List.nil_prefix⟩
                    · rw [get?_along_cons, hstep]
                      rfl
                  have hnext : "public" ∉ rest ++ [name] := hpublic
                  refine ih (fun hmem => hnext (List.mem_of_mem_tail hmem)) ?_ ?_
                  · intro names hne hbefore w hw
                    refine hplain (first :: names) (List.cons_ne_nil _ _)
                      (List.cons_prefix_cons.mpr ⟨rfl, hbefore⟩) w ?_
                    rw [get?_along_cons, hstep]
                    exact hw
                  · intro next hnext'
                    have hpublic' : next ≠ "public" := by
                      rintro rfl
                      exact hnext (List.mem_of_mem_head? hnext')
                    split
                    next heq =>
                      rw [heq]
                      exact get?_resolveMember_base hsource
                    next hne =>
                      rw [get?_resolveMember_of_ne hsource hne]
                      simp [hpublic']
              | _ => cases ho
            · have hnot : v.isObject = false := by simpa using ho
              have hchild : ∀ base, (resolveMember fs base v).isObject = false := fun base => by
                rw [isObject_resolveMember, hnot]
              rw [get?_along_of_not_object
                (List.append_ne_nil_of_right_ne_nil rest (List.cons_ne_nil name [])) (hchild _)]
              exact iff_of_false nofun (not_spelledFrom_of_not_object hnot)

/-- The directory of a group is one that was resolved against an absolute one. -/
theorem exists_baseAt_eq_resolve (h : outer.isAbsolute = true) (block : Json)
    (above : List String) :
    ∃ base p, base.isAbsolute = true ∧ baseAt fs outer block above = fs.resolve base p := by
  induction above generalizing outer block with
  | nil => exact ⟨outer, _, h, rfl⟩
  | cons first rest ih =>
      have hnext := @FileSystem.isAbsolute_resolve fs outer h ⟨baseText block⟩
      exact ih hnext _

theorem SpelledFrom.spellsDirectory (h : outer.isAbsolute = true) {block : Json}
    {above : List String} {name text : String}
    (hspelled : SpelledFrom fs outer block above name text) : Path.SpellsDirectory text := by
  obtain ⟨base, p, hbase, hat⟩ := @exists_baseAt_eq_resolve fs outer h block above
  obtain ⟨-, hspelled⟩ := hspelled
  split at hspelled
  · rw [hspelled.2, hat]
    exact FileSystem.spellsDirectory_resolve hbase p
  · obtain ⟨original, -, rfl⟩ := hspelled
    have habsolute : (baseAt fs outer block above).isAbsolute = true := by
      rw [hat]
      exact FileSystem.isAbsolute_resolve hbase p
    exact FileSystem.spellsDirectory_resolve habsolute ⟨original⟩

/-! ## What is no text and no group -/

/-- Outside of bases a member keeps its arrays and its scalars that are no texts. -/
theorem get?_along_resolveMember_iff {names : List String} (hnames : "base" ∉ names) {v w : Json}
    (hgroup : w.isObject = false) (htext : w.isString = false) :
    (along names).get? (resolveMember fs base v) = some w ↔ (along names).get? v = some w := by
  induction names generalizing base v with
  | nil =>
      have hself : ∀ u, (along []).get? u = some w ↔ u = w := fun u => Option.some_inj
      rw [hself, hself]
      cases v with
      | string original =>
          constructor
          · rintro rfl
            cases htext
          · rintro rfl
            cases htext
      | object entries =>
          have hmember : (resolveMember fs base (.object entries)).isObject = true :=
            isObject_resolveMember (.object entries)
          constructor
          · rintro rfl
            rw [hmember] at hgroup
            cases hgroup
          · rintro rfl
            cases hgroup
      | _ => rw [resolveMember_of_other rfl rfl]
  | cons first rest ih =>
      obtain ⟨hfirst, hrest⟩ := not_or.mp fun h => hnames (List.mem_cons.mpr h)
      cases v with
      | object entries =>
          cases hsource : Evaluation.sourceOfEntries? entries with
          | some source => rw [resolveMember_expression hsource]
          | none =>
              rw [get?_along_cons, get?_along_cons,
                get?_resolveMember_of_ne hsource (Ne.symm hfirst)]
              show _ ↔ (Table.get? entries first).bind _ = _
              cases Table.get? entries first with
              | none => exact Iff.rfl
              | some u =>
                  rw [Option.map_some, Option.bind_some, Option.bind_some]
                  split
                  · exact Iff.rfl
                  · exact ih hrest
      | string text =>
          have hmember : (resolveMember fs base (.string text)).isObject = false :=
            isObject_resolveMember (.string text)
          rw [get?_along_of_not_object (List.cons_ne_nil first rest) hmember,
            get?_along_of_not_object (List.cons_ne_nil first rest) rfl]
      | _ => rw [resolveMember_of_other rfl rfl]

/-! ## Twice -/

theorem isString_resolveMember (v : Json) : (resolveMember fs base v).isString = v.isString := by
  cases v with
  | string text => simp [resolveMember, spelled, Json.isString, Json.text?]
  | object entries =>
      rw [resolveMember]
      split <;> simp [Json.isString, Json.text?]
  | _ => rw [resolveMember_of_other rfl rfl]

/-- No group becomes an expression node. -/
theorem sourceOfEntries?_group {entries : Table Json}
    (h : Evaluation.sourceOfEntries? entries = none) (w : Json) :
    Evaluation.sourceOfEntries? (Table.insert (resolveMembers fs base entries) "base" w) =
      none := by
  have hkey : isLiteralKey Evaluation.expressionKey = false := by decide
  have hne : Evaluation.expressionKey ≠ "base" := by decide
  rw [Evaluation.sourceOfEntries?, Table.get?_insert_of_ne _ _ hne, get?_resolveMembers, hkey]
  rw [Evaluation.sourceOfEntries?] at h
  cases hv : entries.get? Evaluation.expressionKey with
  | none => rfl
  | some v =>
      rw [hv] at h
      have hstring : (resolveMember fs base v).isString = false := by
        rw [isString_resolveMember, Json.isString]
        exact congrArg Option.isSome h
      exact Option.isSome_eq_false_iff.mp hstring |> Option.isNone_iff_eq_none.mp

/-- A name that is never seen from the base can be written before and after. -/
theorem resolveMembers_insert {key : String} (h : isLiteralKey key = true) (w : Json)
    (entries : Table Json) :
    resolveMembers fs base (entries.insert key w) =
      Table.insert (resolveMembers fs base entries) key w := by
  induction entries with
  | nil => simp [Table.insert, resolveMembers, h]
  | cons entry rest ih =>
      obtain ⟨k, v⟩ := entry
      rw [Table.insert, resolveMembers, Table.insert]
      split
      next heq => rw [resolveMembers, heq, if_pos h]
      next => rw [resolveMembers, ih]

mutual

/-- What a member became is what it becomes, seen from any base. -/
theorem resolveMember_twice {base : Path} (h : base.isAbsolute = true) (other : Path) : ∀ v : Json,
    resolveMember fs other (resolveMember fs base v) = resolveMember fs base v
  | .null | .bool _ | .number _ | .array _ => by
      rw [@resolveMember_of_other fs base _ rfl rfl, resolveMember_of_other rfl rfl]
  | .string text => by
      rw [resolveMember, spelled, resolveMember, FileSystem.resolve_withSlash h,
        spelled_mk_text, spelled]
  | .object entries => by
      cases hsource : Evaluation.sourceOfEntries? entries with
      | some source => rw [resolveMember_expression hsource, resolveMember_expression hsource]
      | none =>
          have hinner := @FileSystem.isAbsolute_resolve fs base h ⟨textAt entries "base"⟩
          rw [resolveMember_group hsource, resolveMember_group (sourceOfEntries?_group hsource _)]
          have hbase : textAt (Table.insert
              (resolveMembers fs (fs.resolve base ⟨textAt entries "base"⟩) entries) "base"
              (spelled (fs.resolve base ⟨textAt entries "base"⟩))) "base" =
              (fs.resolve base ⟨textAt entries "base"⟩).withSlash := by
            exact textAt_of_get? (Table.get?_insert_self _ _ _)
          rw [hbase, FileSystem.resolve_withSlash h, resolveMembers_insert rfl,
            resolveMembers_twice hinner _ entries, Table.insert_insert_self, spelled_mk_text]

theorem resolveMembers_twice {base : Path} (h : base.isAbsolute = true) (other : Path) :
    ∀ entries : List (String × Json),
      resolveMembers fs other (resolveMembers fs base entries) = resolveMembers fs base entries
  | [] => rfl
  | (key, v) :: rest => by
      rw [resolveMembers, resolveMembers, resolveMembers_twice h other rest]
      split
      · rfl
      · rw [resolveMember_twice h other v]

end

/-! ## The section -/

/-- The entries of the section with its context and its base written. -/
def placed (fs : FileSystem) (context : Path) (entries : Table Json) : Table Json :=
  (Table.insert entries "context" (spelled context)).insert "base"
    (spelled (fs.resolve context ⟨textAt entries "base"⟩))

/-- The entries of the section seen from its base. -/
def relocated (fs : FileSystem) (base : Path) (entries : Table Json) : Table Json :=
  entries.map fun (key, v) => (key, if isFixed key v then v else resolveMember fs base v)

theorem resolveAll_object (entries : Table Json) :
    resolveAll fs context (.object entries) =
      .ok (.object (relocated fs (fs.resolve context ⟨textAt entries "base"⟩)
        (placed fs context entries))) :=
  rfl

theorem get?_relocated (entries : Table Json) (key : String) :
    (relocated fs base entries).get? key =
      (entries.get? key).map fun v => if isFixed key v then v else resolveMember fs base v := by
  induction entries with
  | nil => rfl
  | cons entry rest ih =>
      obtain ⟨k, v⟩ := entry
      rw [relocated, List.map_cons, Table.get?_cons, Table.get?_cons, ← relocated, ih]
      split
      next heq => rw [heq, Option.map_some]
      next => rfl

theorem get?_placed_base (entries : Table Json) :
    (placed fs context entries).get? "base" =
      some (spelled (fs.resolve context ⟨textAt entries "base"⟩)) :=
  Table.get?_insert_self _ _ _

theorem get?_placed_context (entries : Table Json) :
    (placed fs context entries).get? "context" = some (spelled context) := by
  rw [placed, Table.get?_insert_of_ne _ _ (by decide), Table.get?_insert_self]

theorem get?_placed_of_ne (entries : Table Json) {name : String} (hbase : name ≠ "base")
    (hcontext : name ≠ "context") :
    (placed fs context entries).get? name = entries.get? name := by
  rw [placed, Table.get?_insert_of_ne _ _ hbase, Table.get?_insert_of_ne _ _ hcontext]

/-- What was seen from a base is seen from any base as it is. -/
theorem relocated_twice (h : base.isAbsolute = true) (other : Path) (entries : Table Json) :
    relocated fs other (relocated fs base entries) = relocated fs base entries := by
  rw [relocated, relocated, List.map_map]
  refine List.map_congr_left fun entry _ => ?_
  obtain ⟨key, v⟩ := entry
  refine congrArg (Prod.mk key) ?_
  cases hfixed : isFixed key v with
  | true => simp [hfixed]
  | false =>
      have hagain : isFixed key (resolveMember fs base v) = false := by
        rw [isFixed, isObject_resolveMember]
        exact hfixed
      simp [hagain, resolveMember_twice h other]

theorem placed_of_get? {entries : Table Json}
    (hcontext : entries.get? "context" = some (spelled context))
    (hbase : entries.get? "base" = some (spelled (fs.resolve context ⟨textAt entries "base"⟩))) :
    placed fs context entries = entries := by
  rw [placed, Table.insert_of_get? hcontext, Table.insert_of_get? hbase]

/-- The names from the top of a section to one of its texts.  The context is no text of a
project, the outermost mapping of configurations has none, and neither has what is public in a
group or lies in an expression node. -/
structure Leads (block : Json) (above : List String) (name : String) : Prop where
  notContext : (above ++ [name]).head? ≠ some "context"
  notConfiguration : (above ++ [name]).head? = some "configuration" →
    ∀ v, block.get? "configuration" = some v → v.isObject = false
  notPublic : "public" ∉ (above ++ [name]).tail
  noExpression : ∀ names, names ≠ [] → names <+: above → ∀ v,
    (along names).get? block = some v → Evaluation.source? v = none

/-- What a section is when it is made absolute. -/
structure MadeAbsolute (fs : FileSystem) (context : Path) (block r : Json) : Prop where
  /-- The context is written into it. -/
  placed : r.get? "context" = some (spelled context)
  /-- Its texts are those of the section, each seen from the base of its group. -/
  texts : ∀ above name, Leads block above name → ∀ text,
    (along (above ++ [name])).get? r = some (.string text) ↔
      SpelledFrom fs context block above name text
  /-- They spell absolute directories. -/
  spells : ∀ above name, Leads block above name → ∀ text,
    (along (above ++ [name])).get? r = some (.string text) → Path.SpellsDirectory text
  /-- Everything else that is no group is kept. -/
  kept : ∀ names, "base" ∉ names → names.head? ≠ some "context" → ∀ w,
    w.isObject = false → w.isString = false →
      ((along names).get? r = some w ↔ (along names).get? block = some w)
  /-- It stays as it is when it is made absolute again. -/
  again : resolveAll fs context r = .ok r

/-- A text of the section is spelled from the base of its group. -/
theorem get?_relocated_iff (entries : Table Json) {above : List String} {name text : String}
    (h : Leads (.object entries) above name) :
    (along (above ++ [name])).get? (.object (relocated fs
        (fs.resolve context ⟨textAt entries "base"⟩) (placed fs context entries))) =
        some (.string text) ↔
      SpelledFrom fs context (.object entries) above name text := by
  refine spelledFrom_iff h.notPublic h.noExpression fun first hfirst => ?_
  refine (get?_relocated _ first).trans ?_
  split
  next heq =>
    rw [heq, get?_placed_base]
    rfl
  next hbase =>
    have hcontext : first ≠ "context" := by
      rintro rfl
      exact h.notContext hfirst
    rw [get?_placed_of_ne entries hbase hcontext]
    refine Option.map_congr fun v hv => if_neg ?_
    intro hfixed
    obtain ⟨rfl, hobject⟩ : first = "configuration" ∧ v.isObject = true := by
      simpa [isFixed, hbase, hcontext] using hfixed
    rw [h.notConfiguration hfirst v hv] at hobject
    cases hobject

/-- A member of the section is kept as a member of a group is. -/
theorem get?_relocated_kept (entries : Table Json) {names : List String}
    (hbase : "base" ∉ names) (hcontext : names.head? ≠ some "context") {w : Json}
    (hgroup : w.isObject = false) (htext : w.isString = false) :
    (along names).get? (.object (relocated fs (fs.resolve context ⟨textAt entries "base"⟩)
        (placed fs context entries))) = some w ↔
      (along names).get? (.object entries) = some w := by
  cases names with
  | nil =>
      constructor
      · rintro ⟨⟩
        cases hgroup
      · rintro ⟨⟩
        cases hgroup
  | cons first rest =>
      obtain ⟨hfirst, hrest⟩ := not_or.mp fun h => hbase (List.mem_cons.mpr h)
      have hne : first ≠ "context" := fun heq => hcontext (congrArg some heq)
      rw [get?_along_cons, get?_along_cons]
      show (Table.get? _ first).bind _ = _ ↔ (Table.get? entries first).bind _ = _
      rw [get?_relocated, get?_placed_of_ne entries (Ne.symm hfirst) hne]
      cases Table.get? entries first with
      | none => exact Iff.rfl
      | some v =>
          rw [Option.map_some, Option.bind_some, Option.bind_some]
          split
          · exact Iff.rfl
          · exact get?_along_resolveMember_iff hrest hgroup htext

/-- The section made absolute reads its own context and base. -/
theorem resolveAll_again (h : context.isAbsolute = true) (entries : Table Json) :
    resolveAll fs context (.object (relocated fs (fs.resolve context ⟨textAt entries "base"⟩)
        (placed fs context entries))) =
      .ok (.object (relocated fs (fs.resolve context ⟨textAt entries "base"⟩)
        (placed fs context entries))) := by
  have hbase : (relocated fs (fs.resolve context ⟨textAt entries "base"⟩)
      (placed fs context entries)).get? "base" =
      some (spelled (fs.resolve context ⟨textAt entries "base"⟩)) := by
    rw [get?_relocated, get?_placed_base]
    rfl
  have hcontext : (relocated fs (fs.resolve context ⟨textAt entries "base"⟩)
      (placed fs context entries)).get? "context" = some (spelled context) := by
    rw [get?_relocated, get?_placed_context]
    rfl
  have hsame : fs.resolve context ⟨textAt (relocated fs
      (fs.resolve context ⟨textAt entries "base"⟩) (placed fs context entries)) "base"⟩ =
      ⟨(fs.resolve context ⟨textAt entries "base"⟩).text⟩ := by
    rw [textAt_of_get? hbase, FileSystem.resolve_withSlash h]
  have hplaced := placed_of_get? hcontext (by rw [hsame, spelled_mk_text, hbase])
  rw [resolveAll_object, hsame, hplaced, relocated_twice (FileSystem.isAbsolute_resolve h _)]

/-- Every section that is a mapping is made absolute, seen from an absolute context. -/
theorem resolveAll_madeAbsolute (fs : FileSystem) {context : Path}
    (h : context.isAbsolute = true) (entries : Table Json) :
    ∃ r, resolveAll fs context (.object entries) = .ok r ∧
      MadeAbsolute fs context (.object entries) r := by
  refine ⟨_, resolveAll_object entries, ?_⟩
  constructor
  case placed =>
    refine (get?_relocated _ _).trans ?_
    rw [get?_placed_context]
    rfl
  case texts => exact fun _ _ hleads _ => get?_relocated_iff entries hleads
  case spells =>
    intro above name hleads text htext
    exact ((get?_relocated_iff entries hleads).mp htext).spellsDirectory h
  case kept => exact fun _ hbase hhead _ => get?_relocated_kept entries hbase hhead
  case again => exact resolveAll_again h entries

/-- A section with a group in a group, a public entry, an expression node and configurations. -/
def nestedGroups : Table Json :=
  [("base", .string "../shared"),
    ("ignore", .array [.string ".git"]),
    ("configuration", .object [("javaScript", .string "webpack.js")]),
    ("source", .object
      [("base", .string "source"),
        ("asset", .object [("javaScript", .string "./javaScript//x/..")])]),
    ("target", .object [("public", .string "/static"), ("manifest", .string "/tmp/manifest")]),
    ("computed", .object [("__evaluate__", .string "now"), ("name", .string "now.js")])]

theorem resolveAll_nestedGroups :
    (⟨"/project/app"⟩ : Path).isAbsolute = true ∧
      ∃ r, resolveAll ⟨[], ⟨"/"⟩⟩ ⟨"/project/app"⟩ (.object nestedGroups) = .ok r ∧
        MadeAbsolute ⟨[], ⟨"/"⟩⟩ ⟨"/project/app"⟩ (.object nestedGroups) r ∧
        ([["base"], ["source", "asset", "javaScript"], ["target", "manifest"],
          ["target", "public"], ["computed", "name"]].map fun names =>
            ((along names).get? r).bind Json.text?) =
          [some "/project/shared/", some "/project/shared/source/javaScript/",
            some "/tmp/manifest/", some "/static", some "now.js"] := by
  have habsolute : (⟨"/project/app"⟩ : Path).isAbsolute = true := by decide
  obtain ⟨r, hr, hmade⟩ := resolveAll_madeAbsolute ⟨[], ⟨"/"⟩⟩ habsolute nestedGroups
  refine ⟨habsolute, r, hr, hmade, ?_⟩
  cases hr
  decide +kernel

end ProjectPaths

end BundleConfig
