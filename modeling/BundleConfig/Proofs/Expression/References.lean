import BundleConfig.Proofs.Expression.Reads
import BundleConfig.Proofs.KeyPath.Writing
import BundleConfig.Proofs.Result
import Mathlib.Data.List.Induction

/-!
# References and values

An expression that takes steps from `self` stands for a reference, and a step from a
reference makes its path longer.  The value of a step is therefore looked up at a path,
and not computed from the value before the step.  `valueIn_spelled` says when both ways
lead to the same value.

*Spellings.*  A key can be taken as a member or by a position, and a position may be any
expression, so a path has many spellings (`Spells`).  Where the path leads to a node, each
of them stands for the reference (`Spells.operandOf`).  A `length` on the way is a key
then, since the node before it is a mapping.

*Letters.*  A path leads into mappings and arrays.  The length of an array or a string
needs the value, and is computed from it.  A letter of a string does so too, but is looked
up like an item, and there is none.
-/

namespace BundleConfig

namespace Expression

/-- One dialogue after the other ends as the second does, or as the first one where that
fails. -/
theorem Dialogue.answer_bind {α β : Type} (d : Dialogue α) (f : α → Dialogue β) (tree : Json) :
    (d >>= f).answer tree = d.answer tree >>= fun a => (f a).answer tree := by
  show (d.bind f).answer tree = _
  induction d with
  | done a => rfl
  | failed e => rfl
  | asks path next ih => exact ih (nodeOf tree path)

variable {view : View} {source : String} {tree : Json}

/-- The value of an expression in a scope that reads a tree as it is. -/
def valueIn (view : View) (source : String) (tree : Json) (e : Expr) : Except ConfigError Json :=
  ((valueOf view source e).run
    (Scope.ofTree view.lookup view.currentPath view.files tree).readSelf).run' ()

theorem valueIn_eq (e : Expr) :
    valueIn view source tree e = (valueOf view source e).answer tree := by
  have hrun : (valueOf view source e).run
      (Scope.ofTree view.lookup view.currentPath view.files tree).readSelf () =
        ((valueOf view source e).answer tree).map (·, ()) := Dialogue.run_nodeOf _ tree
  show Prod.fst <$> _ = _
  rw [hrun]
  cases (valueOf view source e).answer tree <;> rfl

/-! ## Steps -/

/-- The expression takes a step from what an object stands for. -/
inductive Takes (view : View) (source : String) (tree : Json) (object : Expr) :
    Segment → Expr → Prop
  /-- A member. -/
  | member (name : String) : Takes view source tree object (.key name) (.member object name)
  /-- What a position asks for. -/
  | index {position : Expr} {v : Json} {step : Segment}
      (hvalue : valueIn view source tree position = .ok v) (hstep : stepOf v = .ok step) :
      Takes view source tree object step (.index object position)

/-- The expression takes the steps of a path from `self`. -/
inductive Spells (view : View) (source : String) (tree : Json) : KeyPath → Expr → Prop
  | root : Spells view source tree [] (.identifier selfName)
  | child {path : KeyPath} {object e : Expr} {step : Segment}
      (hobject : Spells view source tree path object)
      (hstep : Takes view source tree object step e) : Spells view source tree (path.child step) e

/-- Every path has a spelling. -/
theorem exists_spells (path : KeyPath) : ∃ e, Spells view source tree path e := by
  induction path using List.reverseRecOn with
  | nil => exact ⟨_, .root⟩
  | append_singleton path step ih =>
      obtain ⟨object, hobject⟩ := ih
      cases step with
      | key name => exact ⟨_, .child hobject (.member name)⟩
      | index position =>
          have hvalue : valueIn view source tree (.literal (.ofNat position)) =
              .ok (.ofNat position) := rfl
          exact ⟨_, .child hobject (.index hvalue rfl)⟩

/-- An expression that takes a step stands for what the access leads to. -/
theorem Takes.answer {object e : Expr} {step : Segment} {o : Operand}
    (h : Takes view source tree object step e)
    (ho : (operandOf view source object).answer tree = .ok o) :
    (operandOf view source e).answer tree = (access source o step).answer tree := by
  cases h with
  | member name =>
      rw [operandOf, Dialogue.answer_bind, ho]
      rfl
  | @index position v _ hvalue hstep =>
      have hlift : (lift source (stepOf v)).answer tree = .ok step := by
        rw [hstep]
        rfl
      rw [valueIn_eq, valueOf, Dialogue.answer_bind] at hvalue
      obtain ⟨p, hp, hvalue⟩ := bind_eq_ok.mp hvalue
      rw [operandOf, Dialogue.answer_bind, ho]
      show Dialogue.answer tree (operandOf view source position >>= _) = _
      rw [Dialogue.answer_bind, hp]
      show Dialogue.answer tree (toValue source p >>= _) = _
      rw [Dialogue.answer_bind, hvalue]
      show Dialogue.answer tree (lift source (stepOf v) >>= _) = _
      rw [Dialogue.answer_bind, hlift]
      rfl

/-- Whether a node has the length that a step asks for. -/
def isLength (v : Json) (step : Segment) : Bool :=
  step == .key "length" && (v.isArray || v.isString)

/-- A step makes the path of a reference longer, but for the length of an array or a string. -/
theorem answer_access {path : KeyPath} {v : Json} (hv : path.get? tree = some v)
    (step : Segment) :
    (access source (.reference path) step).answer tree =
      if isLength v step then ((property v step).mapError (.expression source)).map .value
      else .ok (.reference (path.child step)) := by
  have hnode : Dialogue.nodeOf tree path = v := by rw [Dialogue.nodeOf, hv, Option.getD_some]
  by_cases hlength : step = .key "length"
  · subst hlength
    rw [access, if_pos rfl, Dialogue.answer_bind]
    show Dialogue.answer tree (if (Dialogue.nodeOf tree path).isArray ||
      (Dialogue.nodeOf tree path).isString then _ else _) = _
    rw [hnode, isLength, beq_self_eq_true, Bool.true_and]
    cases v.isArray || v.isString with
    | true =>
        rw [if_pos rfl, if_pos rfl, Dialogue.answer_bind, lift]
        cases property v (.key "length") <;> rfl
    | false => rfl
  · have hno : isLength v step = false := by rw [isLength, beq_false_of_ne hlength, Bool.false_and]
    rw [access, if_neg hlength, hno]
    rfl

/-- A node that a step leads to is in a mapping or an array, so the step is no length. -/
theorem isLength_of_step? {v w : Json} {step : Segment} (h : KeyPath.step? v step = some w) :
    isLength v step = false := by
  cases v with
  | array items =>
      cases step with
      | key name => cases h
      | index position => rfl
  | string text => cases step <;> cases h
  | _ => exact Bool.and_false _

/-- A spelling of a path that leads to a node stands for the reference. -/
theorem Spells.answer {path : KeyPath} {e : Expr} {v : Json} (h : Spells view source tree path e)
    (hv : path.get? tree = some v) :
    (operandOf view source e).answer tree = .ok (.reference path) := by
  induction h generalizing v with
  | root => rfl
  | @child path object e step _ hstep ih =>
      rw [KeyPath.get?_child] at hv
      obtain ⟨w, hw, hchild⟩ := Option.bind_eq_some_iff.mp hv
      rw [hstep.answer (ih hw), answer_access hw, isLength_of_step? hchild]
      rfl

/-! ## Properties -/

/-- The step asks for a letter that the node has. -/
def IsLetter (v : Json) (step : Segment) : Prop :=
  ∃ text position, v = .string text ∧ step = .index position ∧ position < text.toList.length

/-- Other properties than lengths and letters are children. -/
theorem property_eq_step? {v : Json} {step : Segment} (hnull : v.isNull = false)
    (hlength : isLength v step = false) (hletter : ¬ IsLetter v step) :
    property v step = .ok ((KeyPath.step? v step).getD .null) := by
  cases v with
  | null => cases hnull
  | array items =>
      cases step with
      | key name =>
          have hne : name ≠ "length" := by
            rintro rfl
            cases hlength
          exact congrArg Except.ok (if_neg hne)
      | index position => rfl
  | string text =>
      cases step with
      | key name =>
          have hne : name ≠ "length" := by
            rintro rfl
            cases hlength
          exact congrArg Except.ok (if_neg hne)
      | index position =>
          have hend : text.toList[position]? = none :=
            List.getElem?_eq_none (Nat.le_of_not_lt fun hlt => hletter ⟨_, _, rfl, rfl, hlt⟩)
          rw [property, hend]
          rfl
  | _ => cases step <;> rfl

/-- A letter of a string is a string. -/
theorem IsLetter.property {v : Json} {step : Segment} (h : IsLetter v step) :
    ∃ letter, property v step = .ok (.string letter) := by
  obtain ⟨text, position, rfl, rfl, hlt⟩ := h
  refine ⟨String.singleton text.toList[position], ?_⟩
  rw [Expression.property, List.getElem?_eq_getElem hlt]
  rfl

/-- There is nothing at the path of a letter. -/
theorem IsLetter.step? {v : Json} {step : Segment} (h : IsLetter v step) :
    KeyPath.step? v step = none ∧ isLength v step = false := by
  obtain ⟨text, position, rfl, rfl, -⟩ := h
  exact ⟨rfl, rfl⟩

/-- The value of a step from a reference: a length is computed, everything else is looked up. -/
theorem valueIn_child {q : KeyPath} {v : Json} {step : Segment} {e : Expr}
    (hv : q.get? tree = some v) (he : Spells view source tree (q.child step) e) :
    valueIn view source tree e =
      if isLength v step then (property v step).mapError (.expression source)
      else .ok ((KeyPath.step? v step).getD .null) := by
  obtain ⟨object, hobject, hstep⟩ :
      ∃ object, Spells view source tree q object ∧ Takes view source tree object step e := by
    generalize hpath : q.child step = path at he
    cases he with
    | root => exact absurd hpath (List.append_ne_nil_of_right_ne_nil q (List.cons_ne_nil step []))
    | child hobject hstep =>
        obtain ⟨rfl, heq⟩ := List.append_inj' hpath rfl
        cases heq
        exact ⟨_, hobject, hstep⟩
  rw [valueIn_eq, valueOf, Dialogue.answer_bind, hstep.answer (hobject.answer hv),
    answer_access hv]
  split
  · cases property v step <;> rfl
  · show Except.ok (Dialogue.nodeOf tree (q.child step)) = _
    rw [Dialogue.nodeOf, KeyPath.get?_child, hv, Option.bind_some]

/-- A step from `self.<q>` has the value that it has from the node at `q`, except where it
asks for a letter of a string.  There it has none. -/
theorem valueIn_spelled {q : KeyPath} {v : Json} (hv : q.get? tree = some v)
    (hnull : v.isNull = false) (step : Segment) :
    (∃ e, Spells view source tree (q.child step) e) ∧
      ∀ e, Spells view source tree (q.child step) e →
        (valueIn view source tree e = (property v step).mapError (.expression source) ↔
          ¬ IsLetter v step) ∧
        (IsLetter v step → valueIn view source tree e = .ok .null) := by
  refine ⟨exists_spells _, fun e he => ?_⟩
  have hvalue := valueIn_child hv he
  have hmissing : IsLetter v step → valueIn view source tree e = .ok .null := by
    intro hletter
    obtain ⟨hnone, hlength⟩ := hletter.step?
    rw [hvalue, hlength, hnone]
    rfl
  refine ⟨⟨?_, ?_⟩, hmissing⟩
  · intro heq hletter
    obtain ⟨letter, hproperty⟩ := hletter.property
    rw [hmissing hletter, hproperty] at heq
    cases heq
  · intro hletter
    rw [hvalue]
    split
    next => rfl
    next hlength =>
      rw [property_eq_step? hnull (Bool.not_eq_true _ |>.mp hlength) hletter]
      rfl

/-- A tree with a string and an array. -/
def bundleTree : Json :=
  .object [("name", .string "abc"), ("files", .array [.string "a.js", .string "b.js"])]

/-- A view without variables and files. -/
def bareView : View := ⟨fun _ => none, ⟨"/"⟩, ⟨[], ⟨"/"⟩⟩⟩

/-- The length of an array is the same for the reference. -/
theorem valueIn_filesLength :
    KeyPath.get? [.key "files"] bundleTree = some (.array [.string "a.js", .string "b.js"]) ∧
      (Json.array [.string "a.js", .string "b.js"]).isNull = false ∧
      ∀ e, Spells bareView "self.files.length" bundleTree [.key "files", .key "length"] e →
        valueIn bareView "self.files.length" bundleTree e = .ok (.ofNat 2) := by
  have hv : KeyPath.get? [.key "files"] bundleTree =
      some (.array [.string "a.js", .string "b.js"]) := rfl
  refine ⟨hv, rfl, fun e he => ?_⟩
  have hletter : ¬ IsLetter (.array [.string "a.js", .string "b.js"]) (.key "length") := by
    rintro ⟨_, _, htext, -⟩
    cases htext
  exact (((valueIn_spelled hv rfl (.key "length")).2 e he).1).mpr hletter

/-- The first letter of a string, asked for in the tree, is `null`. -/
theorem evaluate_firstLetter :
    KeyPath.get? [.key "name"] bundleTree = some (.string "abc") ∧
      (Json.string "abc").isNull = false ∧
      property (.string "abc") (.index 0) = .ok (.string "a") ∧
      evaluate (Scope.ofTree bareView.lookup bareView.currentPath bareView.files bundleTree)
        "self.name[0]" () = .ok (.null, ()) := by
  refine ⟨rfl, rfl, rfl, ?_⟩
  have hnull : (evaluate (Scope.ofTree bareView.lookup bareView.currentPath bareView.files
      bundleTree) "self.name[0]" ()).toOption.any (·.1.isNull) = true := by decide +kernel
  obtain ⟨⟨v, s⟩, hv, hnull⟩ := Option.any_eq_true _ _ |>.mp hnull
  rw [toOption_eq_some_iff.mp hv]
  cases v with
  | null => rfl
  | _ => cases hnull

end Expression

end BundleConfig
