import BundleConfig.Proofs.Specifier.Basic
import BundleConfig.Proofs.Table
import BundleConfig.Specifier.Alias

/-!
# The precedence of aliases

A key *fits* a request if it is the request with a dollar sign behind it, or if it has no such
sign and stands in the request.  Whether an alias fits depends on its key alone
(`Aliases.isSome_rewrite?`), so that one search over the keys says both whether a request is
rewritten and by which alias.

A table has its keys in the order in which they were first declared, and each with the value
that was given last (`Table.keys_ofList`, `Table.get?_ofList`).  So the first key that was
declared and fits decides, whatever is declared after it, and it is applied once
(`Aliases.apply_ofDeclarations`).
-/

namespace BundleConfig

namespace Text

variable {needle cs before after rest : List Char}

/-! ## Occurrences -/

/-- A text is cut at the leftmost occurrence. -/
theorem cut?_eq_some (h : cut? needle cs = some (before, after)) :
    before ++ needle ++ after = cs ∧
      ∀ u v, u ++ needle ++ v = cs → before.length ≤ u.length := by
  induction cs generalizing before with
  | nil =>
      rw [cut?] at h
      split at h
      next hempty =>
        obtain ⟨rfl, rfl⟩ := Prod.mk.inj (Option.some.inj h)
        exact ⟨by rw [List.isEmpty_iff.mp hempty]; rfl, fun u _ _ => Nat.zero_le u.length⟩
      next => cases h
  | cons c cs ih =>
      rw [cut?] at h
      split at h
      next hhere =>
        obtain ⟨rest, hrest⟩ := List.isPrefixOf_iff_prefix.mp hhere
        obtain ⟨rfl, rfl⟩ := Prod.mk.inj (Option.some.inj h)
        exact ⟨by rw [← hrest, List.drop_left]; rfl, fun u _ _ => Nat.zero_le u.length⟩
      next hhere =>
        obtain ⟨⟨b, a⟩, hcut, heq⟩ := Option.map_eq_some_iff.mp h
        obtain ⟨rfl, rfl⟩ := Prod.mk.inj heq
        obtain ⟨hparts, hleft⟩ := ih hcut
        refine ⟨congrArg (c :: ·) hparts, fun u v huv => ?_⟩
        cases u with
        | nil =>
            exact absurd (List.isPrefixOf_iff_prefix.mpr ⟨v, huv⟩) hhere
        | cons d u =>
            exact Nat.succ_le_succ (hleft u v (List.cons.inj huv).2)

theorem cut?_eq_none_iff : cut? needle cs = none ↔ ¬ needle <:+: cs := by
  induction cs with
  | nil => simp [cut?]
  | cons c cs ih =>
      rw [cut?, List.infix_cons_iff, ← List.isPrefixOf_iff_prefix, not_or, ← ih]
      split
      next hhere => simp [hhere]
      next hhere => simp [hhere]

theorem occurs_iff : occurs needle cs = true ↔ needle <:+: cs := by
  rw [occurs, Option.isSome_iff_ne_none, Ne, cut?_eq_none_iff, not_not]

theorem dropEnd?_eq_some_iff : dropEnd? needle cs = some rest ↔ rest ++ needle = cs := by
  rw [dropEnd?]
  constructor
  · intro h
    split at h
    next hend =>
      obtain ⟨before, rfl⟩ := List.isSuffixOf_iff_suffix.mp hend
      rw [← Option.some.inj h]
      simp
    next => cases h
  · rintro rfl
    rw [if_pos (List.isSuffixOf_iff_suffix.mpr (List.suffix_append rest needle))]
    simp

end Text

namespace Table

variable {α : Type}

/-! ## Tables of declarations -/

theorem ofList_concat (pairs : List (String × α)) (key : String) (value : α) :
    ofList (pairs ++ [(key, value)]) = (ofList pairs).insert key value := by
  rw [ofList, insertAll, List.foldl_append]
  rfl

theorem insertAll_ofList (pairs more : List (String × α)) :
    (ofList pairs).insertAll more = ofList (pairs ++ more) :=
  List.foldl_append.symm

/-- Keys keep the order of their first declarations. -/
theorem keys_ofList (pairs : List (String × α)) :
    (ofList pairs).keys = Specifier.distinct (keys pairs) := by
  induction pairs using List.reverseRecOn with
  | nil => rfl
  | append_singleton pairs last ih =>
      rw [ofList_concat, keys_insert, ih, keys, keys, List.map_append, List.map_singleton,
        Specifier.distinct_concat]

theorem keys_ofList_nodup (pairs : List (String × α)) : (ofList pairs).keys.Nodup := by
  rw [keys_ofList]
  exact Specifier.nodup_distinct _

theorem mem_keys_ofList {pairs : List (String × α)} {key : String} :
    key ∈ (ofList pairs).keys ↔ key ∈ keys pairs := by
  rw [keys_ofList, Specifier.mem_distinct]

/-- A search among the keys finds the first one declared. -/
theorem find?_keys_ofList (p : String → Bool) (pairs : List (String × α)) :
    (ofList pairs).keys.find? p = (keys pairs).find? p := by
  rw [keys_ofList, List.find?_eq_findSome?_guard, List.find?_eq_findSome?_guard,
    Specifier.findSome?_distinct]

/-- A key has the value that was given last for it. -/
theorem get?_ofList {pairs : List (String × α)} {key : String} {value : α}
    (h : (ofList pairs).get? key = some value) :
    ∃ before after, pairs = before ++ (key, value) :: after ∧ key ∉ keys after := by
  induction pairs using List.reverseRecOn with
  | nil => cases h
  | append_singleton pairs last ih =>
      obtain ⟨k, v⟩ := last
      rw [ofList_concat] at h
      by_cases hk : key = k
      · rw [hk, get?_insert_self] at h
        exact ⟨pairs, [], by rw [hk, Option.some.inj h], List.not_mem_nil⟩
      · rw [get?_insert_of_ne _ _ hk] at h
        obtain ⟨before, after, rfl, hafter⟩ := ih h
        refine ⟨before, after ++ [(k, v)], by simp, ?_⟩
        rw [keys, List.map_append, List.mem_append, not_or]
        exact ⟨hafter, fun hmem => hk (List.mem_singleton.mp hmem)⟩

end Table

namespace Aliases

variable {key value request result : String} {declared : List (String × String)}

/-! ## Keys and requests -/

/-- A key with a dollar sign at its end is for one request, and every other key for the requests
that it stands in. -/
inductive Fits : (key request : String) → Prop
  | whole (request : String) : Fits (request ++ "$") request
  | part {key u v : String} (hne : key ≠ "") (hopen : ∀ whole, key ≠ whole ++ "$") :
      Fits key (u ++ key ++ v)

/-- What a key that fits makes of a request.  The value takes the place of the request, or of
the leftmost occurrence of the key in it. -/
inductive Rewrites (value : String) : (key request result : String) → Prop
  | whole (request : String) : Rewrites value (request ++ "$") request value
  | part {key u v : String} (hne : key ≠ "") (hopen : ∀ whole, key ≠ whole ++ "$")
      (hleft : ∀ u' v', u' ++ key ++ v' = u ++ key ++ v → u.length ≤ u'.length) :
      Rewrites value key (u ++ key ++ v) (u ++ value ++ v)

theorem dropEnd?_whole (whole : String) :
    Text.dropEnd? ['$'] (whole ++ "$").toList = some whole.toList := by
  rw [String.toList_append]
  exact Text.dropEnd?_eq_some_iff.mpr rfl

theorem eq_of_dropEnd? {whole : List Char} (h : Text.dropEnd? ['$'] key.toList = some whole) :
    key = String.ofList whole ++ "$" := by
  apply String.toList_injective
  rw [String.toList_append, String.toList_ofList]
  exact (Text.dropEnd?_eq_some_iff.mp h).symm

theorem ne_of_dropEnd? (h : Text.dropEnd? ['$'] key.toList = none) (whole : String) :
    key ≠ whole ++ "$" := by
  rintro rfl
  rw [dropEnd?_whole] at h
  cases h

theorem keyFits_iff : keyFits key request = true ↔ Fits key request := by
  rw [keyFits]
  constructor
  · intro h
    split at h
    next whole hwhole =>
      rw [eq_of_dropEnd? hwhole, ← eq_of_beq h, String.ofList_toList]
      exact .whole request
    next hnone =>
      obtain ⟨hne, hoccurs⟩ := Bool.and_eq_true_iff.mp h
      obtain ⟨u, v, huv⟩ := Text.occurs_iff.mp hoccurs
      have hrequest : request = String.ofList u ++ key ++ String.ofList v :=
        String.toList_injective (by simp [String.toList_append, ← huv])
      rw [hrequest]
      exact .part (by simpa using hne) (ne_of_dropEnd? hnone)
  · intro h
    cases h with
    | whole =>
        rw [dropEnd?_whole]
        exact beq_self_eq_true request.toList
    | part hne hopen =>
        split
        next whole hwhole => exact absurd (eq_of_dropEnd? hwhole) (hopen _)
        next =>
          refine Bool.and_eq_true_iff.mpr ⟨by simpa using hne, Text.occurs_iff.mpr ?_⟩
          rw [String.toList_append, String.toList_append]
          exact List.infix_append _ _ _

/-- Whether an alias fits depends on its key. -/
theorem isSome_rewrite? (key value request : String) :
    (rewrite? key value request).isSome = keyFits key request := by
  rw [rewrite?, keyFits]
  split
  next whole _ =>
    by_cases hwhole : request.toList = whole
    · rw [if_pos hwhole, hwhole, beq_self_eq_true]
      rfl
    · rw [if_neg hwhole, beq_eq_false_iff_ne.mpr hwhole]
      rfl
  next =>
    cases key.isEmpty with
    | true => rfl
    | false => simp [Text.occurs]

theorem rewrites_of_rewrite? (h : rewrite? key value request = some result) :
    Rewrites value key request result := by
  rw [rewrite?] at h
  split at h
  next whole hwhole =>
    split at h
    next heq =>
      rw [eq_of_dropEnd? hwhole, ← heq, String.ofList_toList, ← Option.some.inj h]
      exact .whole request
    next => cases h
  next hnone =>
    split at h
    next => cases h
    next hne =>
      obtain ⟨⟨u, v⟩, hcut, rfl⟩ := Option.map_eq_some_iff.mp h
      obtain ⟨hparts, hleft⟩ := Text.cut?_eq_some hcut
      have hrequest : request = String.ofList u ++ key ++ String.ofList v :=
        String.toList_injective (by simp [String.toList_append, ← hparts])
      have hresult : String.ofList (u ++ value.toList ++ v) =
          String.ofList u ++ value ++ String.ofList v :=
        String.toList_injective (by simp [String.toList_append])
      dsimp only
      rw [hresult, hrequest]
      refine .part (by simpa using hne) (ne_of_dropEnd? hnone) fun u' v' heq => ?_
      rw [← String.length_toList, ← String.length_toList, String.toList_ofList]
      refine hleft u'.toList v'.toList ?_
      rw [← String.toList_append, ← String.toList_append, heq, ← hrequest]

/-! ## Precedence -/

/-- The first alias whose key fits is applied. -/
theorem firstRewrite?_eq (t : Aliases) (request : String) : t.firstRewrite? request =
    (List.find? (fun e => keyFits e.1 request) t).bind fun e => rewrite? e.1 e.2 request := by
  rw [firstRewrite?]
  induction t with
  | nil => rfl
  | cons e t ih =>
      obtain ⟨k, v⟩ := e
      have hfits := isSome_rewrite? k v request
      cases hrewrite : rewrite? k v request with
      | none =>
          rw [hrewrite] at hfits
          simp only [List.findSome?_cons, List.find?_cons, hrewrite, ← hfits, Option.isSome_none,
            ih]
      | some result =>
          rw [hrewrite] at hfits
          simp only [List.findSome?_cons, List.find?_cons, hrewrite, ← hfits, Option.isSome_some,
            Option.bind_some]

/-- The table of some declarations, with later ones inserted. -/
def ofDeclarations (pairs inserts : List (String × String)) : Aliases :=
  Table.insertAll (Table.ofList pairs) inserts

/-- The key is the first one declared that fits the request. -/
def IsFirstFit (declared : List (String × String)) (request key : String) : Prop :=
  ∃ before after, Table.keys declared = before ++ key :: after ∧ Fits key request ∧
    ∀ other ∈ before, ¬ Fits other request

/-- The value is the last one given for the key. -/
def IsLastValue (declared : List (String × String)) (key value : String) : Prop :=
  ∃ before after, declared = before ++ (key, value) :: after ∧ key ∉ Table.keys after

theorem fits_eq_false_iff : fits (Table.ofList declared) request = false ↔
    ∀ key ∈ Table.keys declared, ¬ Fits key request := by
  rw [fits, List.any_eq_false]
  simp only [Table.mem_keys_ofList, keyFits_iff]

theorem apply_of_fits_eq_false (h : fits (Table.ofList declared) request = false) :
    apply (Table.ofList declared) request = request := by
  have hnone : List.find? (fun e => keyFits e.1 request) (Table.ofList declared) = none := by
    refine List.find?_eq_none.mpr fun e he hfits => ?_
    exact List.any_eq_false.mp h e.1 (List.mem_map_of_mem he) hfits
  rw [apply, firstRewrite?_eq, hnone]
  rfl

/-- The first key that fits is in the table with the value that it was given last. -/
theorem rewrites_apply (h : fits (Table.ofList declared) request = true) :
    ∃ key value, IsFirstFit declared request key ∧ IsLastValue declared key value ∧
      Rewrites value key request (apply (Table.ofList declared) request) := by
  obtain ⟨key, hkey⟩ := Option.isSome_iff_exists.mp
    (List.find?_isSome.mpr (List.any_eq_true.mp h))
  have hentry := hkey
  rw [Table.keys, List.find?_map] at hentry
  obtain ⟨⟨k, value⟩, hfound, rfl⟩ := Option.map_eq_some_iff.mp hentry
  rw [Table.find?_keys_ofList] at hkey
  obtain ⟨hfits, before, after, hkeys, hbefore⟩ := List.find?_eq_some_iff_append.mp hkey
  refine ⟨k, value, ⟨before, after, hkeys, keyFits_iff.mp hfits, fun other hother => ?_⟩,
    Table.get?_ofList ((Table.get?_eq_some_iff (Table.keys_ofList_nodup _)).mpr
      (List.mem_of_find?_eq_some hfound)), ?_⟩
  · rw [← keyFits_iff]
    simpa using hbefore other hother
  · rw [← isSome_rewrite? k value] at hfits
    obtain ⟨result, hresult⟩ := Option.isSome_iff_exists.mp hfits
    have happly : apply (Table.ofList declared) request = result := by
      have hfirst : firstRewrite? (Table.ofList declared) request = some result := by
        rw [firstRewrite?_eq]
        exact Option.bind_eq_some_iff.mpr ⟨(k, value), hfound, hresult⟩
      rw [apply, hfirst, Option.getD_some]
    rw [happly]
    exact rewrites_of_rewrite? hresult

/-- A request is rewritten if a key that was declared fits it, once, by the key that was declared
first among those that fit and with the value that was given last for that key. -/
theorem apply_ofDeclarations (pairs inserts : List (String × String)) (request : String) :
    ((ofDeclarations pairs inserts).fits request = false ↔
        ∀ key ∈ Table.keys (pairs ++ inserts), ¬ Fits key request) ∧
      ((ofDeclarations pairs inserts).fits request = false →
        (ofDeclarations pairs inserts).apply request = request) ∧
      ((ofDeclarations pairs inserts).fits request = true →
        ∃ key value, IsFirstFit (pairs ++ inserts) request key ∧
          IsLastValue (pairs ++ inserts) key value ∧
          Rewrites value key request ((ofDeclarations pairs inserts).apply request)) := by
  rw [ofDeclarations, Table.insertAll_ofList]
  exact ⟨fits_eq_false_iff, apply_of_fits_eq_false, rewrites_apply⟩

/-- A key that is declared again keeps its rank and gets the new value. -/
theorem apply_redeclaredKey :
    (ofDeclarations [("lib", "a"), ("b", "c"), ("", "d")] [("lib", "vendor")]).fits "b/lib" = true ∧
      ∃ key value, IsFirstFit [("lib", "a"), ("b", "c"), ("", "d"), ("lib", "vendor")] "b/lib" key ∧
        IsLastValue [("lib", "a"), ("b", "c"), ("", "d"), ("lib", "vendor")] key value ∧
        Rewrites value key "b/lib" "b/vendor" := by
  have hfits :
      (ofDeclarations [("lib", "a"), ("b", "c"), ("", "d")] [("lib", "vendor")]).fits "b/lib" =
        true := by decide +kernel
  exact ⟨hfits, (apply_ofDeclarations _ _ _).2.2 hfits⟩

end Aliases

end BundleConfig
