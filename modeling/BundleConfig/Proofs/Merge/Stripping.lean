import BundleConfig.Proofs.Merge.Comments
import BundleConfig.Proofs.Merge.Parts

/-!
# Merging without the comments

A comment is an ordinary entry while layers are merged, and it is removed afterwards.  The same
comes out when the comments are removed before: the merge without comments *mirrors* the merge
as written (`mergeLayers_mirrors`).  The proof goes through the functions of merging one by one,
and each of them mirrors itself if what it calls does.

Two things stand in the way of it.  A comment may *mislead* a merge, which then gives something
else.  A removal compares items with their comments.  A comment beside directives asks for a
mapping where the directives leave none.  Without directives nothing misleads
(`not_misleads_of_directiveFree`).

A comment may *block* a merge that succeeds without it.  It makes an empty mapping a mapping
with entries, which an array does not take and which no array replaces.  It may not be merged
onto the comment in its place either.  A merge is blocked by nothing else.
-/

namespace BundleConfig

namespace Merge

variable {depth : Nat} {path : KeyPath}

/-! ## Trees and tables -/

theorem ne_commentKey {key : String} (h : isDirective key = true) : key ≠ commentKey := by
  rintro rfl
  cases h

@[simp] theorem isObject_removeComments (v : Json) : (removeComments v).isObject = v.isObject := by
  cases v <;> rfl

theorem not_full_removeComments {v : Json} (h : ¬ Full v) : ¬ Full (removeComments v) := by
  cases v with
  | object entries =>
      cases entries with
      | nil => exact h
      | cons e rest => exact absurd trivial h
  | _ => exact h

theorem operandItems_removeComments (v : Json) :
    operandItems (removeComments v) = (operandItems v).map removeComments := by
  cases v with
  | array items => exact removeItemComments_eq_map items
  | _ => rfl

theorem removeEntryComments_cons_comment (v : Json) (rest : List (String × Json)) :
    removeEntryComments ((commentKey, v) :: rest) = removeEntryComments rest := by
  rw [removeEntryComments, if_pos rfl]

theorem removeEntryComments_cons {key : String} (h : key ≠ commentKey) (v : Json)
    (rest : List (String × Json)) :
    removeEntryComments ((key, v) :: rest) =
      (key, removeComments v) :: removeEntryComments rest := by
  rw [removeEntryComments, if_neg h]

theorem removeEntryComments_insert {key : String} (h : key ≠ commentKey) (v : Json)
    (fields : Table Json) :
    removeEntryComments (fields.insert key v) =
      Table.insert (removeEntryComments fields) key (removeComments v) := by
  induction fields with
  | nil => exact removeEntryComments_cons h v []
  | cons entry rest ih =>
      obtain ⟨k, u⟩ := entry
      rw [Table.insert]
      by_cases hk : k = key
      · subst hk
        rw [if_pos rfl, removeEntryComments_cons h, removeEntryComments_cons h, Table.insert,
          if_pos rfl]
      · rw [if_neg hk]
        by_cases hcomment : k = commentKey
        · subst hcomment
          rw [removeEntryComments_cons_comment, removeEntryComments_cons_comment, ih]
        · rw [removeEntryComments_cons hcomment, removeEntryComments_cons hcomment, ih,
            Table.insert, if_neg hk]

theorem removeEntryComments_insert_comment (v : Json) (fields : Table Json) :
    removeEntryComments (fields.insert commentKey v) = removeEntryComments fields := by
  induction fields with
  | nil => exact removeEntryComments_cons_comment v []
  | cons entry rest ih =>
      obtain ⟨k, u⟩ := entry
      rw [Table.insert]
      by_cases hk : k = commentKey
      · subst hk
        rw [if_pos rfl, removeEntryComments_cons_comment, removeEntryComments_cons_comment]
      · rw [if_neg hk, removeEntryComments_cons hk, removeEntryComments_cons hk, ih]

theorem commentKey_not_mem_removeEntryComments (fields : Table Json) :
    commentKey ∉ Table.keys (removeEntryComments fields) := by
  induction fields with
  | nil => exact List.not_mem_nil
  | cons entry rest ih =>
      obtain ⟨k, u⟩ := entry
      rw [removeEntryComments]
      split
      · exact ih
      next hk => exact List.not_mem_cons_of_ne_of_not_mem (Ne.symm hk) ih

theorem removeEntryComments_erase (key : String) (fields : Table Json) :
    removeEntryComments (fields.erase key) = Table.erase (removeEntryComments fields) key := by
  induction fields with
  | nil => rfl
  | cons entry rest ih =>
      obtain ⟨k, u⟩ := entry
      rw [Table.erase]
      by_cases hcomment : k = commentKey
      · subst hcomment
        rw [removeEntryComments_cons_comment]
        split
        next heq =>
          subst heq
          exact (Table.erase_of_not_mem (commentKey_not_mem_removeEntryComments rest)).symm
        next => rw [removeEntryComments_cons_comment, ih]
      · rw [removeEntryComments_cons hcomment, Table.erase]
        split
        · rfl
        · rw [removeEntryComments_cons hcomment, ih]

/-! ## What a comment can do -/

/-- Beside a comment the entries are directives, if there are any. -/
structure Bare (entries : List (String × Json)) : Prop where
  comment : commentKey ∈ Table.keys entries
  others : ∀ e ∈ entries, e.1 ≠ commentKey → isDirective e.1 = true

/-- A comment changes what is merged. -/
inductive Misleads : Site → Prop
  /-- An item is removed as it is written and not without comments, or the other way round. -/
  | removal {depth : Nat} {path : KeyPath} {target removed item : Json} {o : Option Json}
      {entries : List (String × Json)} {items : List Json}
      (replaced : replacement (depth + 1) path entries = .ok o)
      (array : o.getD target = .array items) (listed : item ∈ items)
      (operand : Table.get? entries removeKey = some removed)
      (differs : ((operandItems removed).any fun removal => Json.equal item removal) ≠
        (operandItems (removeComments removed)).any fun removal =>
          Json.equal (removeComments item) removal) :
      Misleads ⟨depth, path, target, .object entries⟩
  /-- A comment beside directives is merged into a mapping, but they leave none. -/
  | mapping {depth : Nat} {path : KeyPath} {target rest : Json} {fields : Table Json}
      {entries : List (String × Json)} (bare : Bare entries)
      (directive : removeEntryComments entries ≠ [])
      (directives : directed depth path target entries = .ok rest)
      (noMapping : rest.isObject = false) (taken : mappingTarget path rest = .ok fields) :
      Misleads ⟨depth, path, target, .object entries⟩

/-- A comment makes a merge fail. -/
inductive Blocks : Site → Prop
  /-- Nothing but a comment is merged into an array that has items. -/
  | mapping {depth : Nat} {path : KeyPath} {target item : Json} {items : List Json}
      {entries : List (String × Json)} (bare : Bare entries)
      (directives : directed depth path target entries = .ok (.array (item :: items))) :
      Blocks ⟨depth, path, target, .object entries⟩
  /-- An array meets a mapping of nothing but comments. -/
  | array {depth : Nat} {path : KeyPath} {fields : Table Json} {items : List Json}
      (comment : fields ≠ []) (others : removeEntryComments fields = []) :
      Blocks ⟨depth, path, .object fields, .array items⟩
  /-- A comment cannot be merged onto what stands in its place. -/
  | comment {s part : Site} (site : EntrySite s commentKey part) (fails : ¬ part.Succeeds) :
      Blocks s

theorem Blocks.not_succeeds {s : Site} (h : Blocks s) : ¬ s.Succeeds := by
  intro hs
  cases h with
  | mapping bare directives =>
      obtain ⟨r, hr⟩ := hs
      obtain ⟨rest, hrest, ⟨hall, -⟩ | ⟨-, fields, merged, hfields, -⟩⟩ := mergeOnto_object hr
      · obtain ⟨e, he, hcomment⟩ := List.mem_map.mp bare.comment
        have hdirective := List.all_eq_true.mp hall e he
        rw [hcomment] at hdirective
        cases hdirective
      · have hsame := directives.symm.trans hrest
        cases hsame
        cases hfields
  | array comment others =>
      obtain ⟨r, hr⟩ := hs
      obtain ⟨-, hfull, -⟩ := mergeOnto_array_iff.mp hr
      obtain ⟨e, rest, rfl⟩ := List.exists_cons_of_ne_nil comment
      exact hfull trivial
  | comment site fails => exact fails (site.succeeds hs)

/-! ## Directives -/

variable {safe : Prop}

/-- The merge of a node onto a target mirrors itself when the comments are removed. -/
def MirrorsAt (safe : Prop) (depth : Nat) (path : KeyPath) (target layer : Json) : Prop :=
  Mirrors removeComments safe (mergeOnto depth path target layer)
    (mergeOnto depth path (removeComments target) (removeComments layer))

theorem cleanItems_mirrors {items : List Json} {position : Nat}
    (h : ∀ i item, items[i]? = some item →
      MirrorsAt safe depth (path.child (.index (position + i))) .null item) :
    Mirrors removeItemComments safe (cleanItems depth path position items)
      (cleanItems depth path position (removeItemComments items)) := by
  induction items generalizing position with
  | nil => exact .ok []
  | cons item rest ih =>
      rw [removeItemComments, cleanItems, cleanItems]
      refine (h 0 item rfl).bind fun v _ => ?_
      refine Mirrors.bind (ih fun i item hi => ?_) fun others _ => .ok (v :: others)
      have hitem := h (i + 1) item hi
      rwa [Nat.add_comm i 1, ← Nat.add_assoc] at hitem

theorem cleanAdditions_mirrors {items : List Json}
    (h : ∀ item ∈ items, MirrorsAt safe depth path .null item) :
    Mirrors removeItemComments safe (cleanAdditions depth path items)
      (cleanAdditions depth path (removeItemComments items)) := by
  induction items with
  | nil => exact .ok []
  | cons item rest ih =>
      obtain ⟨hitem, hrest⟩ := List.forall_mem_cons.mp h
      rw [removeItemComments, cleanAdditions, cleanAdditions]
      exact hitem.bind fun v _ => (ih hrest).bind fun others _ => .ok (v :: others)

theorem addedBy_mirrors {operand : Json}
    (h : ∀ item ∈ operandItems operand, MirrorsAt safe depth path .null item) :
    Mirrors removeItemComments safe (addedBy depth path operand)
      (addedBy depth path (removeComments operand)) := by
  cases operand with
  | array items => exact cleanAdditions_mirrors h
  | _ => exact (h _ (List.mem_singleton.mpr rfl)).map fun _ => rfl

theorem removeItemComments_append (items others : List Json) :
    removeItemComments (items ++ others) =
      removeItemComments items ++ removeItemComments others := by
  simp only [removeItemComments_eq_map, List.map_append]

theorem addTo_mirrors {directive : String} {atStart : Bool} (target : Json)
    {added added' : Option (Except ConfigError (List Json))}
    (h : Option.Rel (Mirrors removeItemComments safe) added added') :
    Mirrors removeComments safe (addTo directive atStart path target added)
      (addTo directive atStart path (removeComments target) added') := by
  cases h with
  | none => exact .ok target
  | some h =>
      cases target with
      | null => exact h.map fun _ => rfl
      | array items =>
          refine h.map fun added => congrArg Json.array ?_
          cases atStart
          · exact (removeItemComments_append items added).symm
          · exact (removeItemComments_append added items).symm
      | _ => exact .error _ _

/-- A removal takes the same with and without comments. -/
theorem removeFrom_removeComments {removals : List Json} {target : Json}
    (h : ∀ items, target = .array items → ∀ item ∈ items,
      (removals.any fun removal => Json.equal item removal) =
        (removals.map removeComments).any fun removal =>
          Json.equal (removeComments item) removal) :
    removeFrom (removals.map removeComments) (removeComments target) =
      removeComments (removeFrom removals target) := by
  cases target with
  | array items =>
      have hitems := h items rfl
      refine congrArg Json.array ?_
      rw [removeItemComments_eq_map, removeItemComments_eq_map, List.filter_map]
      refine congrArg (List.map removeComments) (List.filter_congr fun item hitem => ?_)
      exact congrArg Bool.not (hitems item hitem).symm
  | object entries =>
      refine congrArg Json.object ?_
      clear h
      induction removals generalizing entries with
      | nil => rfl
      | cons removal rest ih =>
          cases removal with
          | string key =>
              rw [List.map_cons, List.foldl_cons, List.foldl_cons, ← ih (Table.erase entries key),
                removeEntryComments_erase]
              rfl
          | _ => exact ih entries
  | _ => rfl

theorem all_removeEntryComments {entries : List (String × Json)} :
    ((removeEntryComments entries).all fun e => isDirective e.1) = true ↔
      ∀ e ∈ entries, e.1 ≠ commentKey → isDirective e.1 = true := by
  induction entries with
  | nil => simp [removeEntryComments]
  | cons entry rest ih =>
      obtain ⟨k, v⟩ := entry
      rw [List.forall_mem_cons, ← ih]
      by_cases hk : k = commentKey
      · subst hk
        simp [removeEntryComments_cons_comment]
      · simp [removeEntryComments_cons hk, hk]

/-- What a removal leaves, if there is one. -/
def removedBy : Option Json → Json → Json
  | none, target => target
  | some operand, target => removeFrom (operandItems operand) target

theorem directed_eq (target : Json) (entries : List (String × Json)) :
    directed depth path target entries =
      replacement (depth + 1) path entries >>= fun o =>
        addTo prependKey true path (removedBy (Table.get? entries removeKey) (o.getD target))
          (additions prependKey (depth + 1) path entries) >>= fun t =>
        addTo appendKey false path t (additions appendKey (depth + 1) path entries) := by
  rw [directed, applyDirectives]
  cases Table.get? entries removeKey <;> rfl

/-- The directives of a mapping mirror themselves if their operands do. -/
theorem directed_mirrors {target : Json} {entries : List (String × Json)}
    (hreplaced : ∀ v, Table.get? entries replaceKey = some v →
      MirrorsAt safe (depth + 1) path .null v)
    (hadded : ∀ directive, directive = prependKey ∨ directive = appendKey → ∀ operand,
      Table.get? entries directive = some operand → ∀ item ∈ operandItems operand,
        MirrorsAt safe (depth + 1) path .null item)
    (hmisleads : ¬ Misleads ⟨depth, path, target, .object entries⟩) :
    Mirrors removeComments safe (directed depth path target entries)
      (directed depth path (removeComments target) (removeEntryComments entries)) := by
  have hoperand : ∀ key, isDirective key = true →
      Table.get? (removeEntryComments entries) key =
        (Table.get? entries key).map removeComments :=
    fun key hkey => get?_removeEntryComments (ne_commentKey hkey)
  have hadditions : ∀ directive, directive = prependKey ∨ directive = appendKey →
      isDirective directive = true → Option.Rel (Mirrors removeItemComments safe)
        (additions directive (depth + 1) path entries)
        (additions directive (depth + 1) path (removeEntryComments entries)) := by
    intro directive hdirective hkey
    rw [additions_eq, additions_eq, hoperand directive hkey]
    cases hv : Table.get? entries directive with
    | none => exact .none
    | some operand => exact .some (addedBy_mirrors (hadded directive hdirective operand hv))
  have hreplacement : Mirrors (Option.map removeComments) safe
      (replacement (depth + 1) path entries)
      (replacement (depth + 1) path (removeEntryComments entries)) := by
    rw [replacement_eq, replacement_eq, hoperand replaceKey rfl]
    cases hv : Table.get? entries replaceKey with
    | none => exact .ok none
    | some v => exact (hreplaced v hv).map fun _ => rfl
  rw [directed_eq, directed_eq]
  refine hreplacement.bind fun o ho => ?_
  have htarget : (o.map removeComments).getD (removeComments target) =
      removeComments (o.getD target) := by
    cases o <;> rfl
  have hremoved : removedBy (Table.get? (removeEntryComments entries) removeKey)
        (removeComments (o.getD target)) =
      removeComments (removedBy (Table.get? entries removeKey) (o.getD target)) := by
    rw [hoperand removeKey rfl]
    cases hv : Table.get? entries removeKey with
    | none => rfl
    | some operand =>
        rw [Option.map_some, removedBy, removedBy, operandItems_removeComments]
        refine removeFrom_removeComments fun items hitems item hitem => ?_
        by_contra hdiffers
        rw [← operandItems_removeComments] at hdiffers
        exact hmisleads (.removal ho hitems hitem hv hdiffers)
  rw [htarget, hremoved]
  refine (addTo_mirrors _ (hadditions prependKey (.inl rfl) rfl)).bind fun t _ => ?_
  exact addTo_mirrors t (hadditions appendKey (.inr rfl) rfl)

/-! ## Entries -/

/-- Entries mirror themselves if each of them does that is no comment.  A comment is passed
over in the mirror. -/
theorem mergeEntries_mirrors {fields : Table Json} {entries : List (String × Json)}
    (h : ∀ before key v after now, entries = before ++ (key, v) :: after →
      isDirective key = false → mergeEntries depth path fields before = .ok now →
        if key = commentKey then
          safe → ∃ r, mergeOnto depth (path.child (.key key)) ((now.get? key).getD .null) v = .ok r
        else MirrorsAt safe depth (path.child (.key key)) ((now.get? key).getD .null) v) :
    Mirrors removeEntryComments safe (mergeEntries depth path fields entries)
      (mergeEntries depth path (removeEntryComments fields) (removeEntryComments entries)) := by
  induction entries generalizing fields with
  | nil => exact .ok fields
  | cons entry rest ih =>
      obtain ⟨key, v⟩ := entry
      have hfirst := h [] key v rest fields rfl
      cases hk : isDirective key with
      | true =>
          rw [removeEntryComments_cons (ne_commentKey hk), mergeEntries_directive hk,
            mergeEntries_directive hk]
          refine ih fun before key' v' after now hsplit hordinary hnow => ?_
          refine h ((key, v) :: before) key' v' after now (by rw [hsplit]; rfl) hordinary ?_
          rw [mergeEntries_directive hk]
          exact hnow
      | false =>
          have hlater : ∀ new,
              mergeOnto depth (path.child (.key key)) ((fields.get? key).getD .null) v = .ok new →
              Mirrors removeEntryComments safe
                (mergeEntries depth path (fields.insert key new) rest)
                (mergeEntries depth path (removeEntryComments (fields.insert key new))
                  (removeEntryComments rest)) := by
            intro new hnew
            refine ih fun before key' v' after now hsplit hordinary hnow => ?_
            refine h ((key, v) :: before) key' v' after now (by rw [hsplit]; rfl) hordinary ?_
            exact (mergeEntries_cons_iff hk).mpr ⟨new, hnew, hnow⟩
          specialize hfirst hk rfl
          rw [mergeEntries_cons hk]
          split at hfirst
          next hcomment =>
            subst hcomment
            simp only [removeEntryComments_insert_comment] at hlater
            rw [removeEntryComments_cons_comment]
            constructor
            · intro merged hmerged
              obtain ⟨new, hnew, hmerged⟩ := bind_eq_ok.mp hmerged
              exact (hlater new hnew).forth merged hmerged
            · intro hsafe merged hmerged
              obtain ⟨new, hnew⟩ := hfirst hsafe
              obtain ⟨written, hwritten⟩ := (hlater new hnew).back hsafe merged hmerged
              exact ⟨written, bind_eq_ok.mpr ⟨new, hnew, hwritten⟩⟩
          next hne =>
            have hold : ((Table.get? (removeEntryComments fields) key).getD .null) =
                removeComments ((fields.get? key).getD .null) := by
              rw [get?_removeEntryComments hne]
              cases fields.get? key <;> rfl
            rw [removeEntryComments_cons hne, mergeEntries_cons hk, hold]
            refine hfirst.bind fun new hnew => ?_
            rw [← removeEntryComments_insert hne]
            exact hlater new hnew

theorem mappingTarget_mirrors (target : Json) :
    Mirrors removeEntryComments safe (mappingTarget path target)
      (mappingTarget path (removeComments target)) := by
  cases target with
  | object entries => exact .ok entries
  | array items =>
      cases items with
      | nil => exact .ok []
      | cons item rest => exact .error _ _
  | _ => exact .ok []

/-- Where comments are merged into what directives leave, the mirror has what they leave. -/
theorem bare_mirrors {target rest : Json} {entries : List (String × Json)}
    (hrest : directed depth path target entries = .ok rest) (hbare : Bare entries)
    (hentries : ∀ fields, mappingTarget path rest = .ok fields →
      Mirrors removeEntryComments safe (mergeEntries (depth + 1) path fields entries)
        (mergeEntries (depth + 1) path (removeEntryComments fields) (removeEntryComments entries)))
    (hmisleads : ¬ Misleads ⟨depth, path, target, .object entries⟩)
    (hblocks : safe → ¬ Blocks ⟨depth, path, target, .object entries⟩) :
    Mirrors removeComments safe
      (mappingTarget path rest >>= fun fields =>
        mergeEntries (depth + 1) path fields entries >>= fun merged => pure (.object merged))
      (.ok (if (removeEntryComments entries).isEmpty && !(removeComments rest).isObject then
        Json.emptyObject else removeComments rest)) := by
  have hnothing : ∀ fields, mergeEntries (depth + 1) path (removeEntryComments fields)
      (removeEntryComments entries) = .ok (removeEntryComments fields) :=
    fun fields => mergeEntries_of_all (all_removeEntryComments.mpr hbare.others)
  constructor
  case forth =>
    intro r hr
    obtain ⟨fields, hfields, hr⟩ := bind_eq_ok.mp hr
    obtain ⟨merged, hmerged, hr⟩ := bind_eq_ok.mp hr
    cases hr
    have hsame := (hentries fields hfields).forth merged hmerged
    rw [hnothing fields] at hsame
    have hstripped : removeComments (.object merged) = .object (removeEntryComments fields) :=
      congrArg Json.object (Except.ok.inj hsame).symm
    rw [hstripped, isObject_removeComments]
    cases hobject : rest.isObject with
    | true =>
        cases rest with
        | object old =>
            cases hfields
            rw [Bool.not_true, Bool.and_false]
            rfl
        | _ => cases hobject
    | false =>
        have hdone : removeEntryComments entries = [] := by
          by_contra hdirective
          exact hmisleads (.mapping hbare hdirective hrest hobject hfields)
        have hnone : fields = [] := by
          rw [mappingTarget_eq hfields]
          cases rest with
          | object old => cases hobject
          | _ => rfl
        rw [hdone, hnone]
        rfl
  case back =>
    intro hsafe r _
    have htaken : ∃ fields, mappingTarget path rest = .ok fields := by
      cases rest with
      | array items =>
          cases items with
          | nil => exact ⟨[], rfl⟩
          | cons item others => exact absurd (.mapping hbare hrest) (hblocks hsafe)
      | object old => exact ⟨old, rfl⟩
      | _ => exact ⟨[], rfl⟩
    obtain ⟨fields, hfields⟩ := htaken
    obtain ⟨merged, hmerged⟩ := (hentries fields hfields).back hsafe _ (hnothing fields)
    exact ⟨.object merged, bind_eq_ok.mpr ⟨fields, hfields, bind_eq_ok.mpr ⟨merged, hmerged, rfl⟩⟩⟩

/-- What becomes of a mapping after its directives mirrors itself if its entries do. -/
theorem finished_mirrors {target rest : Json} {entries : List (String × Json)}
    (hrest : directed depth path target entries = .ok rest)
    (hentries : ∀ fields, mappingTarget path rest = .ok fields →
      Mirrors removeEntryComments safe (mergeEntries (depth + 1) path fields entries)
        (mergeEntries (depth + 1) path (removeEntryComments fields) (removeEntryComments entries)))
    (hmisleads : ¬ Misleads ⟨depth, path, target, .object entries⟩)
    (hblocks : safe → ¬ Blocks ⟨depth, path, target, .object entries⟩) :
    Mirrors removeComments safe (finished depth path entries rest)
      (finished depth path (removeEntryComments entries) (removeComments rest)) := by
  unfold finished
  cases hwritten : entries.all fun e => isDirective e.1 with
  | true =>
      have hplain : ∀ e ∈ entries, isDirective e.1 = true := List.all_eq_true.mp hwritten
      have hstripped : ((removeEntryComments entries).all fun e => isDirective e.1) = true :=
        all_removeEntryComments.mpr fun e he _ => hplain e he
      have hempty : (removeEntryComments entries).isEmpty = entries.isEmpty := by
        cases entries with
        | nil => rfl
        | cons e others =>
            rw [removeEntryComments_cons (ne_commentKey (hplain e List.mem_cons_self))]
            rfl
      rw [hstripped, hempty, isObject_removeComments, if_pos rfl, if_pos rfl]
      split
      · exact .ok Json.emptyObject
      · exact .ok rest
  | false =>
      rw [if_neg (by decide)]
      cases hstripped : (removeEntryComments entries).all fun e => isDirective e.1 with
      | false =>
          rw [if_neg (by decide)]
          refine (mappingTarget_mirrors rest).bind fun fields hfields => ?_
          exact (hentries fields hfields).bind fun merged _ => .ok (Json.object merged)
      | true =>
          rw [if_pos rfl]
          have hothers := all_removeEntryComments.mp hstripped
          have hbare : Bare entries := by
            refine ⟨?_, hothers⟩
            obtain ⟨e, he, hordinary⟩ := List.all_eq_false.mp hwritten
            by_cases hcomment : e.1 = commentKey
            · exact List.mem_map.mpr ⟨e, he, hcomment⟩
            · exact absurd (hothers e he hcomment) hordinary
          exact bare_mirrors hrest hbare hentries hmisleads hblocks

/-! ## Whole layers -/

/-- The merge of a node mirrors itself where no comment misleads, and backwards where none
blocks. -/
def Stripped (layer : Json) : Prop :=
  ∀ depth path target, Clear Misleads ⟨depth, path, target, layer⟩ →
    MirrorsAt (Clear Blocks ⟨depth, path, target, layer⟩) depth path target layer

theorem MirrorsAt.of_part {s : Site} {depth : Nat} {path : KeyPath} {target layer : Json}
    (hlayer : Stripped layer) (hpart : Part s ⟨depth, path, target, layer⟩)
    (hmisleads : Clear Misleads s) : MirrorsAt (Clear Blocks s) depth path target layer :=
  (hlayer depth path target (hmisleads.part hpart)).mono fun hblocks => hblocks.part hpart

theorem stripped_scalar {layer : Json} (ho : layer.isObject = false) (ha : layer.isArray = false) :
    Stripped layer := by
  intro depth path target _
  have hsame : removeComments layer = layer := by
    cases layer with
    | array items => cases ha
    | object entries => cases ho
    | _ => rfl
  rw [MirrorsAt, hsame, mergeOnto_scalar_congr ho ha (removeComments target) target]
  constructor
  · intro r hr
    obtain rfl := mergeOnto_scalar ho ha hr
    rw [hsame]
    exact hr
  · exact fun _ r hr => ⟨r, hr⟩

theorem stripped_array {items : List Json} (hitems : ∀ item ∈ items, Stripped item) :
    Stripped (.array items) := by
  intro depth path target hmisleads
  have hclean : Mirrors removeItemComments (Clear Blocks ⟨depth, path, target, .array items⟩)
      (cleanItems (depth + 1) path 0 items)
      (cleanItems (depth + 1) path 0 (removeItemComments items)) := by
    refine cleanItems_mirrors fun i item hi => ?_
    rw [Nat.zero_add]
    exact .of_part (hitems item (List.mem_of_getElem? hi)) (.item hi) hmisleads
  constructor
  · intro r hr
    obtain ⟨hdepth, hfull, vs, hvs, rfl⟩ := mergeOnto_array_iff.mp hr
    exact mergeOnto_array_iff.mpr
      ⟨hdepth, not_full_removeComments hfull, _, hclean.forth vs hvs, rfl⟩
  · intro hblocks r hr
    obtain ⟨hdepth, hfull, vs, hvs, -⟩ := mergeOnto_array_iff.mp hr
    obtain ⟨ws, hws⟩ := hclean.back hblocks vs hvs
    have htarget : ¬ Full target := by
      intro htarget
      cases target with
      | object fields =>
          cases fields with
          | nil => exact htarget
          | cons e rest =>
              refine hblocks.not_self (.array (List.cons_ne_nil e rest) ?_)
              by_contra hne
              obtain ⟨e', rest', hcons⟩ := List.exists_cons_of_ne_nil hne
              rw [removeComments, hcons] at hfull
              exact hfull trivial
      | _ => exact htarget
    exact ⟨.array ws, mergeOnto_array_iff.mpr ⟨hdepth, htarget, ws, hws, rfl⟩⟩

/-- A mapping's entries and the items of its operands make it mirror itself. -/
theorem stripped_object {entries : List (String × Json)}
    (hentries : ∀ e ∈ entries, Stripped e.2 ∧ ∀ item ∈ operandItems e.2, Stripped item) :
    Stripped (.object entries) := by
  intro depth path target hmisleads
  have hvalue : ∀ key v, Table.get? entries key = some v →
      Stripped v ∧ ∀ item ∈ operandItems v, Stripped item :=
    fun key v hv => hentries (key, v) (Table.mem_of_get? hv)
  rw [MirrorsAt, removeComments, mergeOnto_object_eq, mergeOnto_object_eq]
  split
  · exact .error _ _
  · refine Mirrors.bind (directed_mirrors ?_ ?_ hmisleads.not_self) fun rest hrest => ?_
    · exact fun v hv => .of_part (hvalue _ v hv).1 (.replaced hv) hmisleads
    · intro directive hdirective operand hoperand item hitem
      exact .of_part ((hvalue _ operand hoperand).2 item hitem)
        (.added hdirective hoperand hitem) hmisleads
    · refine finished_mirrors hrest (fun fields hfields => mergeEntries_mirrors ?_)
        hmisleads.not_self Clear.not_self
      intro before key v after now hsplit hordinary hnow
      have hsite : EntrySite ⟨depth, path, target, .object entries⟩ key
          ⟨depth + 1, path.child (.key key), (now.get? key).getD .null, v⟩ :=
        .intro hrest hfields hsplit hordinary hnow
      split
      next hcomment =>
        intro hblocks
        subst hcomment
        by_contra hfails
        exact hblocks.not_self (.comment hsite hfails)
      next hne =>
        have hmem : (key, v) ∈ entries := by
          rw [hsplit]
          exact List.mem_append_right _ List.mem_cons_self
        exact .of_part (hentries _ hmem).1 (.entry hsite hne) hmisleads

/-- Every tree mirrors itself, and so do the items of every operand. -/
theorem inductive_stripped :
    Json.Inductive fun v => Stripped v ∧ ∀ item ∈ operandItems v, Stripped item where
  scalar := by
    intro v ho ha
    refine ⟨stripped_scalar ho ha, ?_⟩
    cases v with
    | array items => cases ha
    | _ => exact List.forall_mem_singleton.mpr (stripped_scalar ho ha)
  array := by
    intro items h
    have hitems : ∀ item ∈ items, Stripped item := fun item hitem => (h item hitem).1
    exact ⟨stripped_array hitems, hitems⟩
  object := by
    intro entries h
    exact ⟨stripped_object h, List.forall_mem_singleton.mpr (stripped_object h)⟩

/-- The merge of layers mirrors itself where no comment misleads it, and backwards where none
blocks it. -/
theorem mergeLayers_mirrors {target : Json} {layers : List Json}
    (h : ¬ Occurs Misleads target layers) :
    Mirrors removeComments (¬ Occurs Blocks target layers) (mergeLayers target layers)
      (mergeLayers (removeComments target) (layers.map removeComments)) := by
  induction layers generalizing target with
  | nil => exact .ok target
  | cons layer rest ih =>
      obtain ⟨hfirst, hrest⟩ := not_occurs_cons h
      have hlayer := (inductive_stripped.holds layer).1 0 [] target hfirst
      refine Mirrors.bind (hlayer.mono fun hblocks => (not_occurs_cons hblocks).1) ?_
      intro next hnext
      exact (ih (hrest next hnext)).mono fun hblocks => (not_occurs_cons hblocks).2 next hnext

end Merge

end BundleConfig
