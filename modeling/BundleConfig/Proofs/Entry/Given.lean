import BundleConfig.Entry.Given
import BundleConfig.Proofs.Json.Keys
import BundleConfig.Proofs.Json.Order
import BundleConfig.Proofs.Result
import BundleConfig.Proofs.Table

/-!
# Reading given entries

Entries are given as a tree, and a node of the tree is *misplaced* when it is none that
may stand at its path.  The root is no truth value and no number, an item of a list is a
text, and a chunk is a text, a list or null.  What is below a misplaced node does not
matter.

Reading fails exactly when a node is misplaced, and the error names the first one in
document order (`GivenEntries.ofJson_eq_error_iff`).  When it succeeds, the entries are
the tree, but for the spelling of chunks: written back they give the tree with all
specifiers in lists, and that tree is read as the same entries.

`GivenEntries.ofJson_exactly` puts this together and says what the normal form of the
entries is.
-/

namespace BundleConfig

namespace GivenEntries

/-! ## Misplaced nodes -/

/-- Whether a tree may stand at a path below an item of a list. -/
def fitsItem : KeyPath → Json → Bool
  | [], v => v.isString
  | _ :: _, _ => true

/-- Whether a tree may stand at a path below a chunk. -/
def fitsChunk : KeyPath → Json → Bool
  | [], v => v.isString || v.isArray || v.isNull
  | .index _ :: p, v => fitsItem p v
  | .key _ :: _, _ => true

/-- Whether a tree may stand at a path in given entries. -/
def fits : KeyPath → Json → Bool
  | [], .bool _ => false
  | [], .number _ => false
  | [], _ => true
  | .index _ :: p, v => fitsItem p v
  | .key _ :: p, v => fitsChunk p v

/-- The node at the path may not stand there. -/
def Misplaced (v : Json) (p : KeyPath) : Prop := ∃ w, p.get? v = some w ∧ fits p w = false

/-- The fault of the node at `p` of a tree at `path`, by what may stand where. -/
def faultAt (fits : KeyPath → Json → Bool) (path : KeyPath) (v : Json) (p : KeyPath) :
    Option ConfigError :=
  (p.get? v).bind fun w =>
    if fits p w then none else some (.shape (path ++ p) (.notSpecifiers w))

section

variable {fits : KeyPath → Json → Bool} {path : KeyPath} {v w : Json}

theorem faultAt_cons {s : Segment} (h : KeyPath.step? v s = some w) (p : KeyPath) :
    faultAt fits path v (s :: p) = faultAt (fun p => fits (s :: p)) (path.child s) w p := by
  rw [faultAt, KeyPath.get?_cons_of_step h, ← KeyPath.child_append]
  rfl

/-- The faults below a child are faults of the child. -/
theorem findSome?_child {s : Segment} (h : KeyPath.step? v s = some w) :
    (w.paths.map (s :: ·)).findSome? (faultAt fits path v) =
      w.paths.findSome? (faultAt (fun p => fits (s :: p)) (path.child s) w) := by
  rw [List.findSome?_map]
  congr 1
  funext p
  exact faultAt_cons h p

/-- If everything may stand below a tree, only the tree itself can have a fault. -/
theorem findSome?_paths (h : ∀ s p u, fits (s :: p) u = true) (v : Json) :
    v.paths.findSome? (faultAt fits path v) =
      if fits [] v then none else some (.shape path (.notSpecifiers v)) := by
  have hroot : faultAt fits path v [] =
      if fits [] v then none else some (.shape path (.notSpecifiers v)) := by
    rw [faultAt, List.append_nil]
    rfl
  have hbelow : ∀ s p, faultAt fits path v (s :: p) = none := by
    intro s p
    rw [faultAt, Option.bind_eq_none_iff]
    intro u _
    rw [h s p u]
    rfl
  have hpaths : ∃ rest, v.paths = [] :: rest := by cases v <;> exact ⟨_, rfl⟩
  obtain ⟨rest, hpaths⟩ := hpaths
  rw [hpaths, List.findSome?_cons, ← hroot]
  cases hfault : faultAt fits path v [] with
  | some e => rfl
  | none =>
      refine List.findSome?_eq_none_iff.mpr fun p _ => ?_
      cases p with
      | nil => exact hfault
      | cons s p => exact hbelow s p

end

/-! ## How reading fails -/

/-- A list of specifiers fails with its first fault. -/
theorem fault?_specifiers {path : KeyPath} {all items : List Json} {position : Nat}
    {fits : KeyPath → Json → Bool} (hfits : ∀ i, (fun p => fits (.index i :: p)) = fitsItem)
    (hall : all.drop position = items) :
    fault? (specifiers path position items) =
      (Json.pathsOfItems position items).findSome? (faultAt fits path (.array all)) := by
  induction items generalizing position with
  | nil => rfl
  | cons v rest ih =>
      obtain ⟨hstep, hdrop⟩ := Json.step?_of_drop hall
      rw [Json.pathsOfItems, List.findSome?_append, findSome?_child hstep, hfits position,
        findSome?_paths (fun _ _ _ => rfl), ← ih hdrop]
      cases v with
      | string specifier =>
          show fault? (specifiers path (position + 1) rest >>= fun texts =>
            pure (specifier :: texts)) = _
          cases specifiers path (position + 1) rest <;> rfl
      | _ => rfl

/-- A chunk fails with its first fault. -/
theorem fault?_chunkSpecifiers (path : KeyPath) (v : Json) :
    fault? (chunkSpecifiers path v) = v.paths.findSome? (faultAt fitsChunk path v) := by
  cases v with
  | array items =>
      have hroot : faultAt fitsChunk path (.array items) [] = none := rfl
      rw [Json.paths, List.findSome?_cons, hroot]
      exact fault?_specifiers (fun _ => rfl) List.drop_zero
  | object entries =>
      have hroot : faultAt fitsChunk path (.object entries) [] =
          some (.shape path (.notSpecifiers (.object entries))) := by
        rw [faultAt, List.append_nil]
        rfl
      rw [Json.paths, List.findSome?_cons, hroot]
      rfl
  | _ =>
      rw [Json.paths_scalar rfl rfl, List.findSome?_singleton, faultAt, List.append_nil]
      rfl

/-- Chunks fail with the first fault of one of them. -/
theorem findSome?_pathsOfEntries {path : KeyPath} {all entries : List (String × Json)}
    (h : ∀ e ∈ entries, KeyPath.step? (.object all) (.key e.1) = some e.2) :
    (Json.pathsOfEntries entries).findSome? (faultAt fits path (.object all)) =
      entries.findSome? fun e => fault? (chunkSpecifiers (path.child (.key e.1)) e.2) := by
  induction entries with
  | nil => rfl
  | cons e rest ih =>
      obtain ⟨hstep, hrest⟩ := List.forall_mem_cons.mp h
      have hchunk : (fun p => fits (.key e.1 :: p)) = fitsChunk := rfl
      rw [Json.pathsOfEntries, List.findSome?_append, findSome?_child hstep, hchunk, ih hrest,
        List.findSome?_cons, fault?_chunkSpecifiers]
      cases e.2.paths.findSome? (faultAt fitsChunk (path.child (.key e.1)) e.2) <;> rfl

/-- Reading entries fails with the first fault in document order. -/
theorem fault?_ofJson {v : Json} (hd : v.Distinct) :
    fault? (ofJson v) = v.paths.findSome? (faultAt fits configurationPath v) := by
  cases v with
  | array items =>
      have hroot : faultAt fits configurationPath (.array items) [] = none := rfl
      rw [Json.paths, List.findSome?_cons, hroot, ofJson, fault?_map]
      exact fault?_specifiers (fun _ => rfl) List.drop_zero
  | object entries =>
      have hroot : faultAt fits configurationPath (.object entries) [] = none := rfl
      have hstep : ∀ e ∈ entries, KeyPath.step? (.object entries) (.key e.1) = some e.2 :=
        fun e he => (Table.get?_eq_some_iff hd.1).mpr he
      rw [Json.paths, List.findSome?_cons, hroot, ofJson, fault?_map, fault?_mapM]
      simp only [fault?_map]
      exact (findSome?_pathsOfEntries hstep).symm
  | _ =>
      rw [Json.paths_scalar rfl rfl, List.findSome?_singleton, faultAt, List.append_nil]
      rfl

theorem faultAt_eq_none_iff {path : KeyPath} {v : Json} {p : KeyPath} :
    faultAt fits path v p = none ↔ ¬ Misplaced v p := by
  rw [faultAt, Option.bind_eq_none_iff]
  constructor
  · rintro h ⟨w, hw, hfits⟩
    have hnone := h w hw
    rw [hfits] at hnone
    cases hnone
  · intro h w hw
    exact if_pos (Bool.of_not_eq_false fun hfits => h ⟨w, hw, hfits⟩)

theorem faultAt_eq_some_iff {path : KeyPath} {v : Json} {p : KeyPath} {e : ConfigError} :
    faultAt fits path v p = some e ↔
      ∃ w, p.get? v = some w ∧ fits p w = false ∧ e = .shape (path ++ p) (.notSpecifiers w) := by
  rw [faultAt, Option.bind_eq_some_iff]
  refine exists_congr fun w => and_congr_right fun _ => ?_
  cases fits p w <;> simp [eq_comm]

/-- Reading fails with the first misplaced node in document order. -/
theorem ofJson_eq_error_iff {v : Json} (hd : v.Distinct) {e : ConfigError} :
    ofJson v = .error e ↔ ∃ p w, v.FirstPath (Misplaced v) p ∧ p.get? v = some w ∧
      e = .shape (configurationPath ++ p) (.notSpecifiers w) := by
  rw [← fault?_eq_some_iff, fault?_ofJson hd, List.findSome?_eq_some_iff]
  constructor
  · rintro ⟨before, p, after, hpaths, hp, hbefore⟩
    obtain ⟨w, hw, hfits, rfl⟩ := faultAt_eq_some_iff.mp hp
    exact ⟨p, w, ⟨⟨w, hw, hfits⟩, before, after, hpaths,
      fun q hq => faultAt_eq_none_iff.mp (hbefore q hq)⟩, hw, rfl⟩
  · rintro ⟨p, w, ⟨⟨u, hu, hfits⟩, before, after, hpaths, hbefore⟩, hw, rfl⟩
    rw [hw] at hu
    cases hu
    exact ⟨before, p, after, hpaths, faultAt_eq_some_iff.mpr ⟨w, hw, hfits, rfl⟩,
      fun q hq => faultAt_eq_none_iff.mpr (hbefore q hq)⟩

/-- Reading fails if a node is misplaced. -/
theorem exists_error_of_misplaced {v : Json} (hd : v.Distinct) {p : KeyPath}
    (h : Misplaced v p) : ∃ e, ofJson v = .error e := by
  obtain ⟨w, hw, -⟩ := id h
  have hfault : fault? (ofJson v) ≠ none := by
    rw [fault?_ofJson hd]
    intro hnone
    exact faultAt_eq_none_iff.mp
      (List.findSome?_eq_none_iff.mp hnone p (Json.mem_paths hw)) h
  cases hread : ofJson v with
  | ok g => exact absurd (by rw [hread]; rfl) hfault
  | error e => exact ⟨e, rfl⟩

/-! ## What is read -/

/-- A chunk with its specifiers in a list. -/
def listed : Json → Json
  | .string specifier => .ofTexts [specifier]
  | .null => .ofTexts []
  | v => v

/-- A tree with the specifiers of every chunk in a list. -/
def spelledOut : Json → Json
  | .null => .ofTexts []
  | .object entries => .object (Table.mapValues listed entries)
  | v => v

theorem ofTexts_inj {texts others : List String} :
    Json.ofTexts texts = Json.ofTexts others ↔ texts = others := by
  constructor
  · intro h
    exact List.map_injective_iff.mpr (fun _ _ => Json.string.inj) (Json.array.inj h)
  · rintro rfl
    rfl

/-- A list of specifiers is read if its items are texts. -/
theorem specifiers_eq_ok {path : KeyPath} {position : Nat} {items : List Json}
    {texts : List String} :
    specifiers path position items = .ok texts ↔ items = texts.map .string := by
  induction items generalizing position texts with
  | nil => cases texts <;> simp [specifiers, pure, Except.pure]
  | cons v rest ih =>
      cases v with
      | string specifier =>
          rw [specifiers, bind_eq_ok]
          constructor
          · rintro ⟨others, hothers, heq⟩
            cases heq
            rw [ih.mp hothers, List.map_cons]
          · intro heq
            cases texts with
            | nil => cases heq
            | cons text others =>
                obtain ⟨hfirst, hothers⟩ := List.cons.inj heq
                cases hfirst
                exact ⟨others, ih.mpr hothers, rfl⟩
      | _ => cases texts <;> simp [specifiers, throw, throwThe, MonadExceptOf.throw]

/-- A chunk is read if it lists texts. -/
theorem chunkSpecifiers_eq_ok {path : KeyPath} {v : Json} {texts : List String} :
    chunkSpecifiers path v = .ok texts ↔ listed v = .ofTexts texts := by
  cases v with
  | array items => simp [chunkSpecifiers, specifiers_eq_ok, listed, Json.ofTexts]
  | string specifier => simp [chunkSpecifiers, pure, Except.pure, listed, ofTexts_inj]
  | null => simp [chunkSpecifiers, pure, Except.pure, listed, ofTexts_inj]
  | _ => simp [chunkSpecifiers, listed, Json.ofTexts, throw, throwThe, MonadExceptOf.throw]

theorem ofJson_string (text : String) :
    ofJson (.string text) = .ok (if text = discoveryMark then discovered else single text) := rfl

theorem ofJson_ofTexts (texts : List String) : ofJson (.ofTexts texts) = .ok (list texts) :=
  map_eq_ok.mpr ⟨texts, specifiers_eq_ok.mpr rfl, rfl⟩

/-- Chunks that are written are read again. -/
theorem ofJson_chunks (table : Chunks) : ofJson table.toJson = .ok (chunks table) := by
  refine map_eq_ok.mpr ⟨table, ?_, rfl⟩
  induction table with
  | nil => rfl
  | cons chunk rest ih =>
      obtain ⟨name, texts⟩ := chunk
      have hchunk : chunkSpecifiers (configurationPath.child (.key name)) (.ofTexts texts) =
          .ok texts := chunkSpecifiers_eq_ok.mpr rfl
      rw [Table.mapValues, List.map_cons, List.mapM_cons, bind_eq_ok]
      refine ⟨(name, texts), map_eq_ok.mpr ⟨texts, hchunk, rfl⟩, ?_⟩
      exact bind_eq_ok.mpr ⟨rest, ih, rfl⟩

/-- What is read writes the tree back, with all specifiers in lists. -/
theorem toJson_of_ofJson {v : Json} {g : GivenEntries} (h : ofJson v = .ok g) :
    g.toJson = spelledOut v := by
  cases v with
  | null =>
      cases h
      rfl
  | string text =>
      rw [ofJson_string] at h
      cases h
      split
      next hmark => rw [hmark]; rfl
      next => rfl
  | array items =>
      obtain ⟨texts, htexts, rfl⟩ := map_eq_ok.mp h
      rw [specifiers_eq_ok.mp htexts]
      rfl
  | object entries =>
      obtain ⟨table, htable, rfl⟩ := map_eq_ok.mp h
      refine congrArg Json.object (map_eq_map_of_mapM ?_ htable)
      rintro ⟨name, v⟩ chunk hchunk
      obtain ⟨texts, htexts, rfl⟩ := map_eq_ok.mp hchunk
      exact congrArg (Prod.mk name) (chunkSpecifiers_eq_ok.mp htexts).symm
  | _ => cases h

/-- What is read is read again from what it writes. -/
theorem ofJson_toJson {v : Json} {g : GivenEntries} (h : ofJson v = .ok g) :
    ofJson g.toJson = .ok g := by
  cases v with
  | null =>
      cases h
      rfl
  | string text =>
      rw [ofJson_string] at h
      cases h
      split
      next => rfl
      next hmark => rw [toJson, ofJson_string, if_neg hmark]
  | array items =>
      obtain ⟨texts, -, rfl⟩ := map_eq_ok.mp h
      exact ofJson_ofTexts texts
  | object entries =>
      obtain ⟨table, -, rfl⟩ := map_eq_ok.mp h
      exact ofJson_chunks table
  | _ => cases h

/-- Only the mark leaves the entries to discovery. -/
theorem isDiscovered_iff {v : Json} {g : GivenEntries} (h : ofJson v = .ok g) :
    g.isDiscovered = true ↔ v = .string discoveryMark := by
  cases v with
  | null =>
      cases h
      simp [isDiscovered]
  | string text =>
      rw [ofJson_string] at h
      cases h
      split
      next hmark => simp [isDiscovered, hmark]
      next hmark => simp [isDiscovered, hmark]
  | array items =>
      obtain ⟨texts, -, rfl⟩ := map_eq_ok.mp h
      simp [isDiscovered]
  | object entries =>
      obtain ⟨table, -, rfl⟩ := map_eq_ok.mp h
      simp [isDiscovered]
  | _ => cases h

/-! ## The normal form -/

/-- The chunks as they are given, with the empty ones. -/
def allChunks : GivenEntries → Chunks
  | discovered => []
  | single specifier => [(Chunks.defaultName, [specifier])]
  | list specifiers => [(Chunks.defaultName, specifiers)]
  | chunks table => table
  | computed _ value => value.allChunks

/-- The given chunks that have specifiers. -/
def fullChunks (g : GivenEntries) : Chunks := g.allChunks.filter fun chunk => chunk.2 ≠ []

theorem normalize_of_isDiscovered {g : GivenEntries} (h : g.isDiscovered = true) :
    g.normalize = [] := by
  induction g with
  | discovered => rfl
  | computed _ value ih => exact ih h
  | _ => cases h

/-- The normal form has the full chunks, or the empty default chunk. -/
theorem normalize_of_given {g : GivenEntries} (h : g.isDiscovered = false) :
    (g.fullChunks ≠ [] → g.normalize = g.fullChunks) ∧
      (g.fullChunks = [] → g.normalize = [(Chunks.defaultName, [])]) := by
  induction g with
  | discovered => cases h
  | single specifier => exact ⟨fun _ => rfl, nofun⟩
  | list specifiers => cases specifiers <;> simp [fullChunks, allChunks, normalize]
  | chunks table =>
      have hfilter : (chunks table).fullChunks =
          List.filter (fun chunk => !List.isEmpty chunk.2) table := by
        refine List.filter_congr fun chunk _ => ?_
        cases chunk.2 <;> rfl
      rw [normalize, Chunks.dropEmpty, hfilter]
      constructor
      · intro hfull
        split
        next hnil => exact absurd hnil hfull
        next => rfl
      · intro hnil
        rw [hnil]
  | computed _ value ih => exact ih h

/-! ## Reading, writing and the normal form -/

/-- Entries are read exactly.  Reading fails when a node is misplaced, with an error at the
first one.  Otherwise what is read writes the tree back with all specifiers in lists, is read
again from that, and has as its normal form the chunks that have specifiers, or the empty
default chunk if there are none.  Entries left to discovery have no chunks in normal form. -/
theorem ofJson_exactly {v : Json} (hd : v.Distinct) :
    ((∃ e, ofJson v = .error e) ↔ ∃ p, Misplaced v p) ∧
    (∀ e, ofJson v = .error e → ∃ p w, v.FirstPath (Misplaced v) p ∧ p.get? v = some w ∧
      e = .shape (configurationPath ++ p) (.notSpecifiers w)) ∧
    ∀ g, ofJson v = .ok g →
      g.toJson = spelledOut v ∧ ofJson g.toJson = .ok g ∧
      (g.isDiscovered = true ↔ v = .string discoveryMark) ∧
      (g.isDiscovered = true → g.normalize = []) ∧
      (g.isDiscovered = false →
        (g.fullChunks ≠ [] → g.normalize = g.fullChunks) ∧
        (g.fullChunks = [] → g.normalize = [(Chunks.defaultName, [])])) := by
  refine ⟨⟨?_, ?_⟩, fun e he => (ofJson_eq_error_iff hd).mp he, ?_⟩
  · rintro ⟨e, he⟩
    obtain ⟨p, w, hfirst, -⟩ := (ofJson_eq_error_iff hd).mp he
    exact ⟨p, hfirst.1⟩
  · rintro ⟨p, hp⟩
    exact exists_error_of_misplaced hd hp
  · intro g hg
    exact ⟨toJson_of_ofJson hg, ofJson_toJson hg, isDiscovered_iff hg,
      normalize_of_isDiscovered, normalize_of_given⟩

/-- Entries with two misplaced nodes, the first of them an item. -/
def misplacedEntries : Json :=
  .object [("vendor", .null), ("main", .array [.string "a", .ofNat 1]), ("admin", .bool true)]

/-- Entries in all spellings of a chunk. -/
def spelledEntries : Json :=
  .object [("vendor", .null), ("main", .array [.string "b", .string "a"]), ("admin", .string "c")]

theorem ofJson_misplacedAndSpelled :
    misplacedEntries.Distinct ∧
      ofJson misplacedEntries = .error (.shape
        [.key "injection", .key "entry", .key "main", .index 1] (.notSpecifiers (.ofNat 1))) ∧
      misplacedEntries.FirstPath (Misplaced misplacedEntries) [.key "main", .index 1] ∧
      spelledEntries.Distinct ∧ ∃ g, ofJson spelledEntries = .ok g ∧ ofJson g.toJson = .ok g ∧
        g.normalize = [("main", ["b", "a"]), ("admin", ["c"])] := by
  have hwrong : misplacedEntries.Distinct := by decide
  have hright : spelledEntries.Distinct := by decide
  have herror : ofJson misplacedEntries = .error (.shape
      [.key "injection", .key "entry", .key "main", .index 1] (.notSpecifiers (.ofNat 1))) := rfl
  obtain ⟨p, w, hfirst, -, hshape⟩ := (ofJson_exactly hwrong).2.1 _ herror
  cases hshape
  have hread : ofJson spelledEntries =
      .ok (.chunks [("vendor", []), ("main", ["b", "a"]), ("admin", ["c"])]) := rfl
  obtain ⟨-, hagain, -, -, hnormal⟩ := (ofJson_exactly hright).2.2 _ hread
  exact ⟨hwrong, herror, hfirst, hright, _, hread, hagain, (hnormal rfl).1 (by decide)⟩

end GivenEntries

end BundleConfig
