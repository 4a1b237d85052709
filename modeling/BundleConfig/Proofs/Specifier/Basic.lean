import BundleConfig.Specifier.Basic
import Mathlib.Data.List.Induction
import Mathlib.Data.List.Infix
import Mathlib.Data.List.Nodup
import Mathlib.Data.List.TakeWhile

/-!
# Parts of specifiers

A text is cut before the first occurrence of a character or after its last one.  What the two
parts hold tells the cut (`Text.cutBefore_iff`, `Text.cutAfterLast_eq_iff`).  So a specifier has
one splitting into loaders, request and query (`Specifier.splits_iff`).

The bare request is cut again, before a layer marker and before the first question mark that is
left then.  Both cuts leave a start of the request, and there is nothing to cut where no closing
bracket ends the specifier (`Specifier.ofText_splitsUniquely`).

A list of specifiers holds each of them once, where it comes first.  `Specifier.distinct` makes a
list such, and it is described by what one more text does to it (`Specifier.distinct_concat`).
-/

namespace BundleConfig

namespace Text

variable {c : Char} {cs before after : List Char}

/-! ## Cuts at a character -/

/-- A text is cut before the first occurrence of a character in one way. -/
theorem cutBefore_iff : cs.takeWhile (· != c) = before ∧ cs.dropWhile (· != c) = after ↔
    before ++ after = cs ∧ c ∉ before ∧ (after = [] ∨ after.head? = some c) := by
  constructor
  · rintro ⟨rfl, rfl⟩
    refine ⟨List.takeWhile_append_dropWhile, fun hmem => ?_, ?_⟩
    · simpa using List.mem_takeWhile_imp hmem
    · have hhead := List.head?_dropWhile_not (· != c) cs
      cases hafter : cs.dropWhile (· != c) with
      | nil => exact .inl rfl
      | cons d rest =>
          rw [hafter] at hhead
          exact .inr (by simpa using hhead)
  · rintro ⟨rfl, hbefore, hafter⟩
    have hall : ∀ d ∈ before, (d != c) = true := fun d hd =>
      bne_iff_ne.mpr fun heq => hbefore (heq ▸ hd)
    have hstop : after.takeWhile (· != c) = [] ∧ after.dropWhile (· != c) = after := by
      rcases hafter with rfl | hhead
      · exact ⟨rfl, rfl⟩
      · obtain ⟨rest, rfl⟩ := List.head?_eq_some_iff.mp hhead
        exact ⟨by simp, by simp⟩
    rw [List.takeWhile_append_of_pos hall, List.dropWhile_append_of_pos hall, hstop.1, hstop.2,
      List.append_nil]
    exact ⟨rfl, rfl⟩

/-- A text is cut after the last occurrence of a character in one way. -/
theorem cutAfterLast_eq_iff : cutAfterLast c cs = (before, after) ↔
    before ++ after = cs ∧ (before = [] ∨ before.getLast? = some c) ∧ c ∉ after := by
  have hreverse : cutAfterLast c cs = (before, after) ↔
      cs.reverse.takeWhile (· != c) = after.reverse ∧
        cs.reverse.dropWhile (· != c) = before.reverse := by
    rw [cutAfterLast, Prod.mk.injEq, List.reverse_eq_iff, List.reverse_eq_iff, and_comm]
  rw [hreverse, cutBefore_iff, ← List.reverse_append, List.reverse_inj, List.mem_reverse,
    List.reverse_eq_nil_iff, List.head?_reverse, and_comm (a := c ∉ after)]

theorem takeWhile_prefix_takeWhile {p : Char → Bool} (h : before <+: cs) :
    before.takeWhile p <+: cs.takeWhile p := by
  obtain ⟨rest, rfl⟩ := h
  rw [List.takeWhile_append]
  split
  next => exact (List.takeWhile_prefix p).trans (List.prefix_append _ _)
  next => exact List.prefix_rfl

end Text

namespace Specifier

variable {cs : List Char} {s : Specifier}

/-! ## Loaders, request and query -/

/-- The parts of a specifier, cut where its loaders end and where its query starts. -/
structure Splits (cs : List Char) (s : Specifier) : Prop where
  append : s.loaders ++ s.request ++ s.query = cs
  loaders_end : s.loaders = [] ∨ s.loaders.getLast? = some '!'
  loader_not_mem_request : '!' ∉ s.request
  loader_not_mem_query : '!' ∉ s.query
  query_not_mem_request : '?' ∉ s.request
  query_start : s.query = [] ∨ s.query.head? = some '?'

/-- There is one way to split a specifier. -/
theorem splits_iff : Splits cs s ↔ s = ofChars cs := by
  obtain ⟨loaders, request, query⟩ := s
  constructor
  · rintro ⟨happend, hloaders, hrequest, hquery, hmark, hstart⟩
    have hrest : '!' ∉ request ++ query := fun hmem =>
      (List.mem_append.mp hmem).elim hrequest hquery
    have hcut : Text.cutAfterLast '!' cs = (loaders, request ++ query) :=
      Text.cutAfterLast_eq_iff.mpr
        ⟨(List.append_assoc _ _ _).symm.trans happend, hloaders, hrest⟩
    obtain ⟨hbefore, hafter⟩ := Text.cutBefore_iff.mpr ⟨rfl, hmark, hstart⟩
    rw [ofChars, hcut]
    dsimp only
    rw [hbefore, hafter]
  · intro h
    obtain ⟨before, rest, hcut⟩ : ∃ before rest, Text.cutAfterLast '!' cs = (before, rest) :=
      ⟨_, _, rfl⟩
    obtain ⟨happend, hloaders, hrest⟩ := Text.cutAfterLast_eq_iff.mp hcut
    obtain ⟨hrequest, hmark, hstart⟩ := Text.cutBefore_iff.mp
      ⟨Eq.refl (rest.takeWhile (· != '?')), rfl⟩
    rw [ofChars, hcut] at h
    rw [h]
    rw [← hrequest] at happend hrest
    exact ⟨(List.append_assoc _ _ _).trans happend, hloaders,
      fun hmem => hrest (List.mem_append_left _ hmem),
      fun hmem => hrest (List.mem_append_right _ hmem), hmark, hstart⟩

theorem splits_ofText (text : String) : Splits text.toList (ofText text) := splits_iff.mpr rfl

/-- Without loaders there is only the cut before the query. -/
theorem ofChars_of_not_mem (h : '!' ∉ cs) :
    ofChars cs = ⟨[], cs.takeWhile (· != '?'), cs.dropWhile (· != '?')⟩ := by
  rw [ofChars, Text.cutAfterLast_eq_iff.mpr ⟨List.nil_append cs, .inl rfl, h⟩]

theorem ofChars_eq (hloader : '!' ∉ cs) (hquery : '?' ∉ cs) : ofChars cs = ⟨[], cs, []⟩ := by
  have hsplits : Splits cs ⟨[], cs, []⟩ :=
    ⟨List.append_nil cs, .inl rfl, hloader, List.not_mem_nil, hquery, .inl rfl⟩
  exact (splits_iff.mp hsplits).symm

theorem loader_not_mem_afterLoaders (text : String) : '!' ∉ (ofText text).afterLoaders :=
  fun hmem => (List.mem_append.mp hmem).elim (splits_ofText text).loader_not_mem_request
    (splits_ofText text).loader_not_mem_query

/-- Behind the loaders the request reaches to the first question mark. -/
theorem request_ofText (text : String) :
    (ofText text).request = (ofText text).afterLoaders.takeWhile (· != '?') := by
  have h := splits_ofText text
  exact (Text.cutBefore_iff.mpr ⟨rfl, h.query_not_mem_request, h.query_start⟩).1.symm

/-! ## Bare requests -/

theorem beforeMarker?_eq_none : ∀ {cs : List Char}, ¬ markerStart <:+: cs →
    beforeMarker? cs = none
  | [], _ => rfl
  | c :: cs, h => by
      have hstart : markerStart.isPrefixOf (c :: cs) = false := by
        rw [← Bool.not_eq_true, List.isPrefixOf_iff_prefix]
        exact fun hhere => h hhere.isInfix
      have hrest : ¬ markerStart <:+: cs := fun hwithin =>
        h (hwithin.trans (List.suffix_cons c cs).isInfix)
      rw [beforeMarker?, hstart, Bool.false_and, if_neg Bool.false_ne_true,
        beforeMarker?_eq_none hrest]
      rfl

/-- What stands before a layer marker starts the text. -/
theorem isPrefix_beforeMarker? {before : List Char} (h : beforeMarker? cs = some before) :
    before <+: cs := by
  induction cs generalizing before with
  | nil => cases h
  | cons c cs ih =>
      rw [beforeMarker?] at h
      split at h
      next =>
        obtain rfl := Option.some.inj h
        exact List.nil_prefix
      next =>
        obtain ⟨rest, hrest, rfl⟩ := Option.map_eq_some_iff.mp h
        exact List.cons_prefix_cons.mpr ⟨rfl, ih hrest⟩

theorem isPrefix_dropLayerMarker (cs : List Char) : dropLayerMarker cs <+: cs := by
  unfold dropLayerMarker
  split
  next =>
    cases h : beforeMarker? cs with
    | none => exact List.prefix_rfl
    | some before => exact isPrefix_beforeMarker? h
  next => exact List.prefix_rfl

/-- The bare request reaches to the first question mark before the layer marker. -/
theorem toList_bareRequest (text : String) : (bareRequest text).toList =
    (dropLayerMarker (ofText text).afterLoaders).takeWhile (· != '?') := by
  have hloader : '!' ∉ dropLayerMarker (ofText text).afterLoaders := fun hmem =>
    loader_not_mem_afterLoaders text ((isPrefix_dropLayerMarker _).subset hmem)
  rw [bareRequest, String.toList_ofList, ofChars_of_not_mem hloader]

/-- The loaders are gone after they were dropped once. -/
theorem bareRequest_afterLoaders (text : String) :
    bareRequest (String.ofList (ofText text).afterLoaders) = bareRequest text := by
  have hagain : (ofText (String.ofList (ofText text).afterLoaders)).afterLoaders =
      (ofText text).afterLoaders := by
    rw [ofText, String.toList_ofList, ofChars_of_not_mem (loader_not_mem_afterLoaders text)]
    exact List.takeWhile_append_dropWhile
  rw [bareRequest, hagain, bareRequest]

/-- A text in which nothing starts a part of a specifier is its own bare request. -/
theorem bareRequest_eq_self {text : String} (hloader : '!' ∉ text.toList)
    (hquery : '?' ∉ text.toList) (hmarker : ¬ markerStart <:+: text.toList) :
    bareRequest text = text := by
  have hdrop : dropLayerMarker text.toList = text.toList := by
    rw [dropLayerMarker, beforeMarker?_eq_none hmarker]
    exact ite_self _
  rw [bareRequest, ofText, ofChars_eq hloader hquery, afterLoaders, List.append_nil, hdrop,
    ofChars_eq hloader hquery, String.ofList_toList]

/-- The bare request is a start of the request. -/
theorem bareRequest_prefix_request (text : String) :
    (bareRequest text).toList <+: (ofText text).request := by
  rw [toList_bareRequest, request_ofText]
  exact Text.takeWhile_prefix_takeWhile (isPrefix_dropLayerMarker _)

/-- Only a closing bracket at the end makes a difference between the request and the bare
request. -/
theorem bareRequest_eq_request {text : String} (h : text.toList.getLast? ≠ some ']') :
    (bareRequest text).toList = (ofText text).request := by
  have hlast : (ofText text).afterLoaders.getLast? ≠ some ']' := by
    have happend := (splits_ofText text).append
    rw [List.append_assoc] at happend
    intro hlast
    exact h (by rw [← happend, ← afterLoaders, List.getLast?_append, hlast, Option.some_or])
  rw [toList_bareRequest, dropLayerMarker, if_neg hlast, request_ofText]

/-- A specifier splits in one way.  Its bare request stands right behind its loaders, has no
mark of a loader or a query in it, and is the request unless the specifier ends in a closing
bracket. -/
theorem ofText_splitsUniquely (text : String) :
    (∀ parts : Specifier, Splits text.toList parts ↔ parts = ofText text) ∧
      (∃ rest, (ofText text).loaders ++ (bareRequest text).toList ++ rest = text.toList) ∧
      '!' ∉ (bareRequest text).toList ∧ '?' ∉ (bareRequest text).toList ∧
      (text.toList.getLast? ≠ some ']' → (bareRequest text).toList = (ofText text).request) := by
  have h := splits_ofText text
  have hstarts := bareRequest_prefix_request text
  refine ⟨fun _ => splits_iff, ?_, fun hmem => h.loader_not_mem_request (hstarts.subset hmem),
    fun hmem => h.query_not_mem_request (hstarts.subset hmem), bareRequest_eq_request⟩
  obtain ⟨rest, hrest⟩ := hstarts
  refine ⟨rest ++ (ofText text).query, ?_⟩
  rw [← List.append_assoc, List.append_assoc _ _ rest, hrest, h.append]

theorem ofText_styleSheet :
    Splits "style!css?modules!./a.css?inline".toList
        ⟨"style!css?modules!".toList, "./a.css".toList, "?inline".toList⟩ ∧
      bareRequest "style!css?modules!./a.css?inline" = "./a.css" := by
  obtain ⟨hsplits, -, -, -, hbare⟩ := ofText_splitsUniquely "style!css?modules!./a.css?inline"
  exact ⟨(hsplits _).mpr rfl, String.toList_injective (hbare (by decide))⟩

/-! ## Texts without repetitions -/

theorem distinct_concat (texts : List String) (text : String) :
    distinct (texts ++ [text]) =
      if text ∈ distinct texts then distinct texts else distinct texts ++ [text] := by
  simp only [distinct, List.foldl_append, List.foldl_cons, List.foldl_nil, List.contains_iff_mem]

theorem mem_distinct {texts : List String} {text : String} :
    text ∈ distinct texts ↔ text ∈ texts := by
  induction texts using List.reverseRecOn with
  | nil => rfl
  | append_singleton texts last ih =>
      rw [distinct_concat]
      split
      next h =>
        rw [ih, List.mem_append, List.mem_singleton]
        exact ⟨Or.inl, fun hor => hor.elim id fun heq => heq ▸ ih.mp (heq ▸ h)⟩
      next => rw [List.mem_append, ih, List.mem_append]

theorem nodup_distinct (texts : List String) : (distinct texts).Nodup := by
  induction texts using List.reverseRecOn with
  | nil => exact List.nodup_nil
  | append_singleton texts last ih =>
      rw [distinct_concat]
      split
      next => exact ih
      next h =>
        exact List.nodup_append.mpr ⟨ih, List.nodup_singleton last, fun a ha b hb heq =>
          h (List.mem_singleton.mp hb ▸ heq ▸ ha)⟩

/-- Texts without repetitions stay as they are. -/
theorem distinct_of_nodup {texts : List String} (h : texts.Nodup) : distinct texts = texts := by
  induction texts using List.reverseRecOn with
  | nil => rfl
  | append_singleton texts last ih =>
      obtain ⟨hbefore, -, hlast⟩ := List.nodup_append.mp h
      rw [distinct_concat, ih hbefore,
        if_neg fun hmem => hlast last hmem last (List.mem_singleton_self last) rfl]

/-- The texts stay in the order of their first occurrences. -/
theorem distinct_inOrder (texts : List String) :
    (distinct texts).Pairwise fun a b => texts.idxOf a < texts.idxOf b := by
  induction texts using List.reverseRecOn with
  | nil => exact List.Pairwise.nil
  | append_singleton texts last ih =>
      have hbefore : (distinct texts).Pairwise fun a b =>
          (texts ++ [last]).idxOf a < (texts ++ [last]).idxOf b := by
        refine ih.imp_of_mem fun {a b} ha hb hab => ?_
        rw [List.idxOf_append_of_mem (mem_distinct.mp ha),
          List.idxOf_append_of_mem (mem_distinct.mp hb)]
        exact hab
      rw [distinct_concat]
      split
      next => exact hbefore
      next h =>
        refine List.pairwise_append.mpr ⟨hbefore, List.pairwise_singleton _ last,
          fun a ha b hb => ?_⟩
        have hnot : last ∉ texts := fun hmem => h (mem_distinct.mpr hmem)
        rw [List.mem_singleton.mp hb, List.idxOf_append_of_mem (mem_distinct.mp ha),
          List.idxOf_append_of_notMem hnot]
        exact Nat.lt_of_lt_of_le (List.idxOf_lt_length_iff.mpr (mem_distinct.mp ha))
          (Nat.le_add_right _ _)

/-- A search finds in the texts what it finds in them with repetitions. -/
theorem findSome?_distinct {α : Type} (f : String → Option α) (texts : List String) :
    (distinct texts).findSome? f = texts.findSome? f := by
  induction texts using List.reverseRecOn with
  | nil => rfl
  | append_singleton texts last ih =>
      rw [distinct_concat, List.findSome?_append, ← ih]
      split
      next h =>
        cases hlast : f last with
        | none => simp [hlast]
        | some a =>
            have hsome : ((distinct texts).findSome? f).isSome = true :=
              List.findSome?_isSome_iff.mpr ⟨last, h, by rw [hlast]; rfl⟩
            obtain ⟨b, hb⟩ := Option.isSome_iff_exists.mp hsome
            rw [hb]
            rfl
      next => rw [List.findSome?_append]

end Specifier

end BundleConfig
