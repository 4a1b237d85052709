import BundleConfig.Text.Basic
import Mathlib.Data.List.Infix

/-!
# Texts in pieces

A text, or a list of bytes, is cut at a separator, and pieces are joined with one between them.
The two are inverse to each other where no piece holds the separator (`Text.split_join`), which
holds of the pieces of a cut (`Text.not_mem_of_mem_split`).

What reaches over no separator is in the joined pieces where it is in one of them
(`Text.infix_join_iff`).
-/

namespace BundleConfig

namespace Text

variable {α : Type} {separator : α}

/-! ## Joining -/

theorem join_cons_cons (piece next : List α) (pieces : List (List α)) :
    join separator (piece :: next :: pieces) =
      piece ++ separator :: join separator (next :: pieces) :=
  rfl

/-- A letter that is no separator is in the joined pieces if it is in one of them. -/
theorem mem_join {c : α} (hc : c ≠ separator) : ∀ {pieces : List (List α)},
    c ∈ join separator pieces ↔ ∃ piece ∈ pieces, c ∈ piece
  | [] => by simp [join]
  | [piece] => by simp [join]
  | piece :: next :: pieces => by
      rw [join_cons_cons, List.mem_append, List.mem_cons, mem_join hc, List.exists_mem_cons_iff]
      simp [hc]

/-- Each piece stands in the joined pieces. -/
theorem infix_join_of_mem : ∀ {pieces : List (List α)} {piece : List α}, piece ∈ pieces →
    piece <:+: join separator pieces
  | [_], _, h => by
      rw [List.mem_singleton.mp h]
      exact List.infix_rfl
  | first :: next :: pieces, piece, h => by
      rw [join_cons_cons]
      rcases List.mem_cons.mp h with rfl | h
      · exact (List.prefix_append _ _).isInfix
      · exact (infix_join_of_mem h).trans
          ((List.suffix_cons separator _).trans (List.suffix_append first _)).isInfix

/-- A text that reaches over no separator is in the joined pieces if it is in one of them. -/
theorem infix_join_iff {needle : List α} (hne : needle ≠ []) (hsep : separator ∉ needle)
    {pieces : List (List α)} :
    needle <:+: join separator pieces ↔ ∃ piece ∈ pieces, needle <:+: piece := by
  have hstart : ∀ {part rest : List α}, part ≠ [] → part ⊆ needle →
      ¬ part <+: separator :: rest := by
    rintro part rest hpart hsub hprefix
    cases part with
    | nil => exact hpart rfl
    | cons c part =>
        obtain ⟨rfl, -⟩ := List.cons_prefix_cons.mp hprefix
        exact hsep (hsub List.mem_cons_self)
  constructor
  · intro h
    induction pieces with
    | nil => exact absurd (List.infix_nil.mp h) hne
    | cons piece pieces ih =>
        cases pieces with
        | nil => exact ⟨piece, List.mem_cons_self, h⟩
        | cons next pieces =>
            rw [join_cons_cons, List.infix_append_iff, List.infix_cons_iff] at h
            rcases h with h | (h | h) | ⟨before, after, heq, hbefore, hafter⟩
            · exact ⟨piece, List.mem_cons_self, h⟩
            · exact absurd h (hstart hne (List.Subset.refl needle))
            · obtain ⟨found, hfound, hwithin⟩ := ih h
              exact ⟨found, List.mem_cons_of_mem piece hfound, hwithin⟩
            · by_cases hnil : after = []
              · rw [heq, hnil, List.append_nil]
                exact ⟨piece, List.mem_cons_self, hbefore.isInfix⟩
              · exact absurd hafter (hstart hnil (heq ▸ List.subset_append_right before after))
  · rintro ⟨piece, hpiece, h⟩
    exact h.trans (infix_join_of_mem hpiece)

/-- Behind a separator the joined pieces are the pieces with a separator before each. -/
theorem cons_join : ∀ {pieces : List (List α)}, pieces ≠ [] →
    separator :: join separator pieces = pieces.flatMap (separator :: ·)
  | [piece], _ => (List.append_nil _).symm
  | piece :: next :: pieces, _ => by
      rw [join_cons_cons, cons_join (List.cons_ne_nil next pieces)]
      rfl

theorem join_ne_nil : ∀ {pieces : List (List α)}, pieces ≠ [] →
    (∀ piece ∈ pieces, piece ≠ []) → join separator pieces ≠ []
  | [piece], _, h => h piece List.mem_cons_self
  | piece :: _ :: _, _, h => List.append_ne_nil_of_left_ne_nil (h piece List.mem_cons_self) _

/-- The joined pieces do not end in the separator if no piece is empty or holds it. -/
theorem getLast?_join : ∀ {pieces : List (List α)},
    (∀ piece ∈ pieces, piece ≠ [] ∧ separator ∉ piece) →
      (join separator pieces).getLast? ≠ some separator
  | [], _ => nofun
  | [piece], h => fun heq => (h piece List.mem_cons_self).2 (List.mem_of_getLast? heq)
  | piece :: next :: pieces, h => by
      have hrest := fun other hmem => h other (List.mem_cons_of_mem piece hmem)
      have hne : join separator (next :: pieces) ≠ [] :=
        join_ne_nil (List.cons_ne_nil next pieces) fun other hmem => (hrest other hmem).1
      rw [join_cons_cons, List.getLast?_append_cons, List.getLast?_cons_of_ne_nil hne]
      exact getLast?_join hrest

/-! ## Cutting -/

variable [DecidableEq α]

theorem split_cons_self (cs : List α) :
    split separator (separator :: cs) = [] :: split separator cs := by
  simp [split]

/-- The pieces on both sides of a separator are those of the two sides. -/
theorem split_append (before after : List α) :
    split separator (before ++ separator :: after) =
      split separator before ++ split separator after := by
  induction before with
  | nil => exact split_cons_self after
  | cons c before ih =>
      by_cases hc : c = separator
      · subst hc
        rw [List.cons_append, split_cons_self, split_cons_self, ih, List.cons_append]
      · match hs : split separator before with
        | [] => exact absurd hs (split_ne_nil separator before)
        | piece :: pieces =>
            rw [hs] at ih
            simp [split, hc, hs, ih]

theorem split_of_not_mem {cs : List α} (h : separator ∉ cs) : split separator cs = [cs] := by
  induction cs with
  | nil => rfl
  | cons c cs ih =>
      have hne : ¬ c = separator := fun heq => h (heq ▸ List.mem_cons_self)
      simp [split, hne, ih (List.not_mem_of_not_mem_cons h)]

/-- No piece holds the separator. -/
theorem not_mem_of_mem_split {cs piece : List α} (h : piece ∈ split separator cs) :
    separator ∉ piece := by
  induction cs generalizing piece with
  | nil =>
      obtain rfl := List.mem_singleton.mp h
      exact List.not_mem_nil
  | cons c cs ih =>
      by_cases hc : c = separator
      · subst hc
        rw [split_cons_self] at h
        obtain rfl | h := List.mem_cons.mp h
        · exact List.not_mem_nil
        · exact ih h
      · match hs : split separator cs with
        | [] => exact absurd hs (split_ne_nil separator cs)
        | first :: pieces =>
            simp only [split, if_neg hc, hs] at h
            obtain rfl | h := List.mem_cons.mp h
            · have hfirst := ih (hs ▸ List.mem_cons_self)
              exact fun hmem => (List.mem_cons.mp hmem).elim (fun heq => hc heq.symm) hfirst
            · exact ih (hs ▸ List.mem_cons_of_mem first h)

/-- Splitting what was joined from pieces gives the pieces. -/
theorem split_join : ∀ {pieces : List (List α)}, pieces ≠ [] →
    (∀ piece ∈ pieces, separator ∉ piece) → split separator (join separator pieces) = pieces
  | [piece], _, h => split_of_not_mem (h piece List.mem_cons_self)
  | piece :: next :: pieces, _, h => by
      have ih := split_join (List.cons_ne_nil next pieces)
        fun p hp => h p (List.mem_cons_of_mem piece hp)
      rw [join_cons_cons, split_append, ih, split_of_not_mem (h piece List.mem_cons_self)]
      rfl

end Text

end BundleConfig
