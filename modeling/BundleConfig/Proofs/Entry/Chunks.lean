import BundleConfig.Entry.Resolve
import BundleConfig.Proofs.Result
import BundleConfig.Proofs.Specifier.Basic
import BundleConfig.Proofs.Table

/-!
# Chunks of specifiers

Every chunk lists a specifier once, where it comes first.  The names of chunks are
distinct, in what is given and in what is discovered, and the steps between keep
them so.
-/

namespace BundleConfig

/-! ## Chunks that are not empty -/

namespace Chunks

theorem mem_dropEmpty {chunks : Chunks} {name : String} {specifiers : List String}
    (h : specifiers ≠ []) :
    (name, specifiers) ∈ dropEmpty chunks ↔ (name, specifiers) ∈ chunks := by
  have hfilter : (name, specifiers) ∈ chunks.filter (fun chunk => !List.isEmpty chunk.2) ↔
      (name, specifiers) ∈ chunks := by
    simp [List.mem_filter, h]
  rw [← hfilter]
  unfold dropEmpty
  split
  next hnil =>
    rw [hnil]
    simp [h]
  next => rfl

theorem keys_dropEmpty_nodup {chunks : Chunks} (h : (Table.keys chunks).Nodup) :
    (Table.keys (dropEmpty chunks)).Nodup := by
  unfold dropEmpty
  split
  · exact List.nodup_singleton defaultName
  · exact (List.filter_sublist.map _).nodup h

/-- A search through the specifiers of all chunks passes empty chunks by. -/
theorem findSome?_dropEmpty {α : Type} (f : String → String → Option α) (chunks : Chunks) :
    (dropEmpty chunks).findSome? (fun chunk => chunk.2.findSome? (f chunk.1)) =
      chunks.findSome? fun chunk => chunk.2.findSome? (f chunk.1) := by
  have hfilter : ∀ chunks : Chunks,
      (chunks.filter fun chunk => !List.isEmpty chunk.2).findSome?
          (fun chunk => chunk.2.findSome? (f chunk.1)) =
        chunks.findSome? fun chunk => chunk.2.findSome? (f chunk.1) := by
    intro chunks
    induction chunks with
    | nil => rfl
    | cons chunk rest ih =>
        obtain ⟨name, specifiers⟩ := chunk
        cases specifiers with
        | nil => exact ih
        | cons specifier specifiers =>
            rw [List.filter_cons_of_pos (by rfl), List.findSome?_cons, ih]
            rfl
  rw [← hfilter chunks]
  unfold dropEmpty
  split
  next hnil =>
    rw [hnil]
    rfl
  next => rfl

/-- A change that keeps full lists full and empty ones empty drops no chunk. -/
theorem dropEmpty_mapValues {g : List String → List String} (hg : ∀ l, g l = [] ↔ l = [])
    (chunks : Chunks) :
    dropEmpty ((dropEmpty chunks).mapValues g) = (dropEmpty chunks).mapValues g := by
  by_cases hempty : dropEmpty chunks = [(defaultName, [])]
  · rw [hempty, Table.mapValues, List.map_singleton, (hg []).mpr rfl]
    rfl
  · have hfull : ∀ chunk ∈ (dropEmpty chunks).mapValues g, !List.isEmpty chunk.2 := by
      rintro ⟨name, l⟩ hmem
      obtain ⟨specifiers, hchunk, rfl⟩ := Table.mem_mapValues.mp hmem
      have hne := (dropEmpty_full chunks hchunk).resolve_right hempty
      rw [Bool.not_eq_true', List.isEmpty_eq_false_iff]
      exact (hg specifiers).not.mpr hne
    conv_lhs => rw [dropEmpty, List.filter_eq_self.mpr hfull]
    split
    next hnil => exact absurd (List.map_eq_nil_iff.mp hnil) (dropEmpty_ne_nil chunks)
    next => rfl

end Chunks

/-! ## Names of chunks -/

namespace GivenEntries

/-- The names of given chunks are distinct. -/
def Distinct : GivenEntries → Prop
  | chunks table => table.keys.Nodup
  | computed _ value => value.Distinct
  | _ => True

theorem keys_normalize_nodup {given : GivenEntries} (h : given.Distinct) :
    given.normalize.keys.Nodup := by
  induction given with
  | discovered => exact List.nodup_nil
  | single => exact List.nodup_singleton _
  | list => exact List.nodup_singleton _
  | chunks table => exact Chunks.keys_dropEmpty_nodup h
  | computed _ value ih => exact ih h

end GivenEntries

namespace EntryFinder

variable {f : EntryFinder} {fs : FileSystem} {s : EntrySettings}

theorem keys_discover_nodup {chunks : Chunks} (h : f.discover fs s = .ok chunks) :
    chunks.keys.Nodup := by
  obtain ⟨found, -, h⟩ := bind_eq_ok.mp h
  obtain ⟨globs, -, h⟩ := bind_eq_ok.mp h
  obtain ⟨own, -, h⟩ := bind_eq_ok.mp h
  cases h
  refine List.foldlRecOn (motive := fun chunks : Chunks => chunks.keys.Nodup) _ _
    List.nodup_nil fun chunks hchunks p hp => ?_
  exact Table.keys_insert_nodup hchunks _ _

end EntryFinder

end BundleConfig
