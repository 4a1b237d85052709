/-!
# Results

How a chain of steps that may fail succeeds: every step of it does.  The same holds
of steps on a state.

How a list of steps fails: with the first fault of one of them.

Two chains of steps *go alike* when they fail with the same fault, or when both succeed
with results that are related.

One chain of steps *mirrors* another one, by a function of its results, when it succeeds where
the other one does.  Under a condition the other one also succeeds where it does.
-/

namespace BundleConfig

variable {ε σ α β : Type}

/-- One step after the other succeeds if both do. -/
theorem bind_eq_ok {x : Except ε α} {f : α → Except ε β} {b : β} :
    (x >>= f) = .ok b ↔ ∃ a, x = .ok a ∧ f a = .ok b := by
  cases x <;> simp [bind, Except.bind]

/-- A mapped result is the image of a result. -/
theorem map_eq_ok {x : Except ε α} {f : α → β} {b : β} :
    x.map f = .ok b ↔ ∃ a, x = .ok a ∧ f a = b := by
  cases x <;> simp [Except.map]

/-- A change of the fault leaves the results. -/
theorem mapError_eq_ok {ε' : Type} {x : Except ε α} {f : ε → ε'} {a : α} :
    x.mapError f = .ok a ↔ x = .ok a := by
  cases x with
  | error e => constructor <;> intro h <;> cases h
  | ok b => constructor <;> intro h <;> cases h <;> rfl

theorem toOption_eq_some_iff {x : Except ε α} {a : α} : x.toOption = some a ↔ x = .ok a := by
  cases x <;> simp [Except.toOption]

/-- One step on a state after the other succeeds if both do. -/
theorem stateT_bind_eq_ok {x : StateT σ (Except ε) α} {f : α → StateT σ (Except ε) β} {s : σ}
    {r : β × σ} : (x >>= f) s = .ok r ↔ ∃ a t, x s = .ok (a, t) ∧ f a t = .ok r := by
  show (x s).bind _ = .ok r ↔ _
  constructor
  · intro h
    obtain ⟨⟨a, t⟩, hx, hf⟩ := bind_eq_ok.mp h
    exact ⟨a, t, hx, hf⟩
  · rintro ⟨a, t, hx, hf⟩
    exact bind_eq_ok.mpr ⟨(a, t), hx, hf⟩

/-! ## Faults -/

/-- The fault of a step that fails. -/
def fault? : Except ε α → Option ε
  | .error e => some e
  | .ok _ => none

@[simp] theorem fault?_ok (a : α) : fault? (.ok a : Except ε α) = none := rfl

@[simp] theorem fault?_error (e : ε) : fault? (.error e : Except ε α) = some e := rfl

theorem fault?_eq_some_iff {x : Except ε α} {e : ε} : fault? x = some e ↔ x = .error e := by
  cases x <;> simp

theorem fault?_eq_none_iff {x : Except ε α} : fault? x = none ↔ ∃ a, x = .ok a := by
  cases x <;> simp

@[simp] theorem fault?_map (x : Except ε α) (f : α → β) : fault? (x.map f) = fault? x := by
  cases x <;> rfl

/-- One step after the other fails with the fault of the first, or of the second. -/
theorem fault?_bind {x : Except ε α} {f : α → Except ε β} {o : Option ε}
    (h : ∀ a, x = .ok a → fault? (f a) = o) : fault? (x >>= f) = (fault? x).or o := by
  cases x with
  | error e => rfl
  | ok a => exact h a rfl

/-- Steps for the items of a list fail with the first fault. -/
theorem fault?_mapM (f : α → Except ε β) (xs : List α) :
    fault? (xs.mapM f) = xs.findSome? fun x => fault? (f x) := by
  induction xs with
  | nil => rfl
  | cons x xs ih =>
      rw [List.mapM_cons, List.findSome?_cons, ← ih]
      cases f x with
      | error e => rfl
      | ok y => cases xs.mapM f <;> rfl

/-- The results of a list of steps are those of its items. -/
theorem mem_of_mapM {f : α → Except ε β} {xs : List α} {ys : List β} (h : xs.mapM f = .ok ys)
    {y : β} : y ∈ ys ↔ ∃ x ∈ xs, f x = .ok y := by
  induction xs generalizing ys with
  | nil =>
      cases h
      simp
  | cons x xs ih =>
      rw [List.mapM_cons] at h
      obtain ⟨first, hfirst, h⟩ := bind_eq_ok.mp h
      obtain ⟨rest, hrest, h⟩ := bind_eq_ok.mp h
      cases h
      simp [ih hrest, hfirst, eq_comm]

/-- Every item of a list of steps that succeeds has a result. -/
theorem exists_of_mapM {f : α → Except ε β} {xs : List α} {ys : List β} (h : xs.mapM f = .ok ys)
    {x : α} (hx : x ∈ xs) : ∃ y ∈ ys, f x = .ok y := by
  have hfault : fault? (xs.mapM f) = none := fault?_eq_none_iff.mpr ⟨ys, h⟩
  rw [fault?_mapM, List.findSome?_eq_none_iff] at hfault
  obtain ⟨y, hy⟩ := fault?_eq_none_iff.mp (hfault x hx)
  exact ⟨y, (mem_of_mapM h).mpr ⟨x, hx, hy⟩, hy⟩

/-- A test that fails on no item selects those it holds of. -/
theorem filterM_eq_ok_iff {xs ys : List α} {p : α → Except ε Bool} :
    xs.filterM p = .ok ys ↔
      (∀ x ∈ xs, ∃ b, p x = .ok b) ∧ ys = xs.filter fun x => (p x).toOption.getD false := by
  have haux : ∀ (xs passed ys : List α), xs.filterAuxM p passed = .ok ys ↔
      (∀ x ∈ xs, ∃ b, p x = .ok b) ∧
        ys = (xs.filter fun x => (p x).toOption.getD false).reverse ++ passed := by
    intro xs
    induction xs with
    | nil =>
        intro passed ys
        simp [List.filterAuxM, pure, Except.pure, eq_comm]
    | cons x xs ih =>
        intro passed ys
        rw [List.filterAuxM, bind_eq_ok]
        cases hx : p x with
        | error e => simp [hx]
        | ok b => cases b <;> simp [hx, ih, Except.toOption]
  rw [List.filterM, bind_eq_ok]
  constructor
  · rintro ⟨zs, hzs, hys⟩
    obtain ⟨hp, rfl⟩ := (haux xs [] zs).mp hzs
    refine ⟨hp, ?_⟩
    rw [← Except.ok.inj hys, List.append_nil, List.reverse_reverse]
  · rintro ⟨hp, rfl⟩
    refine ⟨_, (haux xs [] _).mpr ⟨hp, rfl⟩, ?_⟩
    rw [List.append_nil, List.reverse_reverse]
    rfl

/-- A test that never fails selects what a filter does. -/
theorem filterM_eq_ok {xs : List α} {p : α → Except ε Bool} {q : α → Bool}
    (h : ∀ x, p x = .ok (q x)) : xs.filterM p = .ok (xs.filter q) := by
  refine filterM_eq_ok_iff.mpr ⟨fun x _ => ⟨q x, h x⟩, List.filter_congr fun x _ => ?_⟩
  rw [h]
  rfl

/-- What is the same for every item and its result is the same for the lists of them. -/
theorem map_eq_map_of_mapM {γ : Type} {f : α → Except ε β} {g : α → γ} {h : β → γ}
    (hstep : ∀ x y, f x = .ok y → h y = g x) {xs : List α} {ys : List β}
    (hok : xs.mapM f = .ok ys) : ys.map h = xs.map g := by
  induction xs generalizing ys with
  | nil =>
      cases hok
      rfl
  | cons x xs ih =>
      rw [List.mapM_cons] at hok
      obtain ⟨y, hy, hok⟩ := bind_eq_ok.mp hok
      obtain ⟨rest, hrest, hok⟩ := bind_eq_ok.mp hok
      cases hok
      rw [List.map_cons, List.map_cons, hstep x y hy, ih hrest]

/-! ## Steps that go alike -/

/-- Two steps with the same fault, or with related results. -/
inductive GoAlike (R : α → β → Prop) : Except ε α → Except ε β → Prop
  | failed (e : ε) : GoAlike R (.error e) (.error e)
  | done {a : α} {b : β} (h : R a b) : GoAlike R (.ok a) (.ok b)

theorem GoAlike.of_eq {R : α → α → Prop} (h : ∀ a, R a a) {x y : Except ε α} (heq : x = y) :
    GoAlike R x y := by
  subst heq
  cases x with
  | error e => exact .failed e
  | ok a => exact .done (h a)

/-- Chains go alike if their steps do. -/
theorem GoAlike.bind {γ δ : Type} {R : α → β → Prop} {S : γ → δ → Prop} {x : Except ε α}
    {y : Except ε β} {f : α → Except ε γ} {g : β → Except ε δ} (h : GoAlike R x y)
    (hfg : ∀ a b, R a b → GoAlike S (f a) (g b)) : GoAlike S (x >>= f) (y >>= g) := by
  cases h with
  | failed e => exact .failed e
  | done hab => exact hfg _ _ hab

/-- Chains are equal if their last step does not tell related results apart. -/
theorem GoAlike.bind_eq {γ : Type} {R : α → β → Prop} {x : Except ε α} {y : Except ε β}
    {f : α → Except ε γ} {g : β → Except ε γ} (h : GoAlike R x y)
    (hfg : ∀ a b, R a b → f a = g b) : x >>= f = y >>= g := by
  cases h with
  | failed e => rfl
  | done hab => exact hfg _ _ hab

/-! ## Steps that mirror others -/

/-- The second step succeeds with the image of what the first one gives, and only then if the
condition holds. -/
structure Mirrors (f : α → β) (safe : Prop) (x : Except ε α) (y : Except ε β) : Prop where
  forth : ∀ a, x = .ok a → y = .ok (f a)
  back : safe → ∀ b, y = .ok b → ∃ a, x = .ok a

namespace Mirrors

variable {γ δ : Type} {f : α → β} {safe : Prop} {x : Except ε α} {y : Except ε β}

theorem ok (a : α) : Mirrors f safe (.ok a : Except ε α) (.ok (f a)) where
  forth := by
    rintro _ ⟨⟩
    rfl
  back := fun _ _ _ => ⟨a, rfl⟩

theorem error (e e' : ε) : Mirrors f safe (.error e) (.error e') where
  forth := nofun
  back := nofun

theorem mono {weaker : Prop} (h : Mirrors f weaker x y) (himp : safe → weaker) :
    Mirrors f safe x y where
  forth := h.forth
  back := fun hsafe => h.back (himp hsafe)

/-- Chains mirror each other if their steps do. -/
theorem bind {g : γ → δ} {k : α → Except ε γ} {k' : β → Except ε δ} (h : Mirrors f safe x y)
    (hk : ∀ a, x = .ok a → Mirrors g safe (k a) (k' (f a))) :
    Mirrors g safe (x >>= k) (y >>= k') where
  forth := by
    intro c hc
    obtain ⟨a, ha, hc⟩ := bind_eq_ok.mp hc
    exact bind_eq_ok.mpr ⟨f a, h.forth a ha, (hk a ha).forth c hc⟩
  back := by
    intro hsafe d hd
    obtain ⟨b, hb, hd⟩ := bind_eq_ok.mp hd
    obtain ⟨a, ha⟩ := h.back hsafe b hb
    have himage := h.forth a ha
    rw [hb] at himage
    cases himage
    obtain ⟨c, hc⟩ := (hk a ha).back hsafe d hd
    exact ⟨c, bind_eq_ok.mpr ⟨a, ha, hc⟩⟩

theorem map {g : γ → δ} {k : α → γ} {k' : β → δ} (h : Mirrors f safe x y)
    (hk : ∀ a, k' (f a) = g (k a)) : Mirrors g safe (x.map k) (y.map k') where
  forth := by
    intro c hc
    obtain ⟨a, ha, rfl⟩ := map_eq_ok.mp hc
    exact map_eq_ok.mpr ⟨f a, h.forth a ha, hk a⟩
  back := by
    intro hsafe d hd
    obtain ⟨b, hb, -⟩ := map_eq_ok.mp hd
    obtain ⟨a, ha⟩ := h.back hsafe b hb
    exact ⟨k a, map_eq_ok.mpr ⟨a, ha, rfl⟩⟩

end Mirrors

end BundleConfig
