import BundleConfig.Configuration.Cache
import Mathlib.Data.List.Basic
import Mathlib.Data.List.Induction

/-!
# Live loads

The *history* of a cache is the list of the calls that were made of it, with their answers.  A
load is *live* in a history if it succeeded for equal options, and since then the options were
not invalidated, the cache was not cleared, and no other load for them succeeded (`Live`).
Whether a load is live can be told from the calls and answers alone.

A cache keeps the live loads of its history, and nothing else (`get?_after_iff`).  So the
history decides on every answer (`answersByLive`).  The proof is one step lemma for the cache
and one for the history of the same form (`get?_call_iff`, `live_concat`).

A clone of a cache is another handle of it, so calls through clones are calls of one history.
-/

namespace BundleConfig

/-! ## Equal options -/

theorem Purpose.beq_iff {a b : Purpose} :
    (a == b) = true ↔ a.context.map Path.components = b.context.map Path.components ∧
      a.task = b.task ∧ a.debug = b.debug ∧ a.override = b.override ∧
      a.arguments = b.arguments ∧ a.now = b.now := by
  change a.same b = true ↔ _
  simp only [same, Bool.and_eq_true, beq_iff_eq, and_assoc]

instance : EquivBEq Purpose where
  rfl := Purpose.beq_iff.mpr ⟨rfl, rfl, rfl, rfl, rfl, rfl⟩
  symm h := by
    obtain ⟨hc, ht, hd, ho, ha, hn⟩ := Purpose.beq_iff.mp h
    exact Purpose.beq_iff.mpr ⟨hc.symm, ht.symm, hd.symm, ho.symm, ha.symm, hn.symm⟩
  trans h h' := by
    obtain ⟨hc, ht, hd, ho, ha, hn⟩ := Purpose.beq_iff.mp h
    obtain ⟨hc', ht', hd', ho', ha', hn'⟩ := Purpose.beq_iff.mp h'
    exact Purpose.beq_iff.mpr ⟨hc.trans hc', ht.trans ht', hd.trans hd', ho.trans ho',
      ha.trans ha', hn.trans hn'⟩

namespace Memo

variable {κ α : Type}

/-! ## Calls and their answers -/

/-- A call of a cache. -/
inductive Call (κ α : Type)
  /-- Asks for the value of options, with a loader. -/
  | get (o : κ) (loader : FileSystem → FileSystem × Except ConfigError α)
  /-- Drops the value of options. -/
  | invalidate (o : κ)
  /-- Drops all values. -/
  | clear
  /-- Counts the values. -/
  | len

/-- What a call answers. -/
inductive Answer (α : Type)
  /-- A value or the error of the loader, and whether the loader ran. -/
  | value (v : Except ConfigError α) (loaded : Bool)
  /-- Whether there was a value to drop. -/
  | dropped (existed : Bool)
  | cleared
  | count (n : Nat)

/-- A cache in use, with the files the loaders see. -/
structure Session (κ α : Type) where
  cache : Memo κ α := {}
  files : FileSystem

variable [BEq κ]

/-- What a call does to a session, and its answer. -/
def Session.call (s : Session κ α) : Call κ α → Session κ α × Answer α
  | .get o loader =>
      let r := s.cache.fetch s.files o loader
      (⟨r.cache, r.files⟩, .value r.value r.loaded)
  | .invalidate o => (⟨s.cache.erase o, s.files⟩, .dropped (s.cache.get? o).isSome)
  | .clear => (⟨s.cache.clear, s.files⟩, .cleared)
  | .len => (s, .count s.cache.size)

/-- The session after some calls. -/
def Session.after (s : Session κ α) (calls : List (Call κ α)) : Session κ α :=
  calls.foldl (fun s c => (s.call c).1) s

/-- The calls with their answers, in order. -/
def Session.history : Session κ α → List (Call κ α) → List (Call κ α × Answer α)
  | _, [] => []
  | s, c :: rest => (c, (s.call c).2) :: history (s.call c).1 rest

/-- The call makes the value of options go. -/
def Drops (o : κ) : Call κ α → Prop
  | .invalidate o' => (o' == o) = true
  | .clear => True
  | _ => False

/-- The call loaded a value for options. -/
def Loads (o : κ) (a : α) : Call κ α × Answer α → Prop
  | (.get o' _, .value (.ok b) true) => (o' == o) = true ∧ b = a
  | _ => False

/-- A value was loaded for options, and since then they were not dropped or loaded again. -/
def Live (past : List (Call κ α × Answer α)) (o : κ) (a : α) : Prop :=
  ∃ before load since, past = before ++ load :: since ∧ Loads o a load ∧
    ∀ later ∈ since, ¬ Drops o later.1 ∧ ∀ b, ¬ Loads o b later

/-! ## Histories -/

variable {s : Session κ α} {past : List (Call κ α × Answer α)} {o o' : κ} {a : α}

theorem Session.after_concat (calls : List (Call κ α)) (c : Call κ α) :
    s.after (calls ++ [c]) = ((s.after calls).call c).1 := by
  rw [after, List.foldl_append]
  rfl

/-- The answers to later calls come from the session after the earlier ones. -/
theorem Session.history_append (calls others : List (Call κ α)) :
    s.history (calls ++ others) = s.history calls ++ (s.after calls).history others := by
  induction calls generalizing s with
  | nil => rfl
  | cons c calls ih =>
      rw [List.cons_append, history, ih, history, List.cons_append]
      rfl

theorem not_live_nil : ¬ Live ([] : List (Call κ α × Answer α)) o a := by
  rintro ⟨before, load, since, heq, -⟩
  exact List.append_ne_nil_of_right_ne_nil before (List.cons_ne_nil load since) heq.symm

/-- One more call: it loads the value, or the value was live and stays. -/
theorem live_concat {entry : Call κ α × Answer α} :
    Live (past ++ [entry]) o a ↔
      Loads o a entry ∨ Live past o a ∧ ¬ Drops o entry.1 ∧ ∀ b, ¬ Loads o b entry := by
  constructor
  · rintro ⟨before, load, since, heq, hload, hsince⟩
    obtain rfl | ⟨earlier, last, rfl⟩ := since.eq_nil_or_concat'
    · obtain ⟨-, hlast⟩ := List.append_inj' heq rfl
      cases hlast
      exact .inl hload
    · rw [← List.cons_append, ← List.append_assoc] at heq
      obtain ⟨hpast, hlast⟩ := List.append_inj' heq rfl
      cases hlast
      obtain ⟨hearlier, hkept⟩ := List.forall_mem_append.mp hsince
      exact .inr ⟨⟨before, load, earlier, hpast, hload, hearlier⟩, hkept _ List.mem_cons_self⟩
  · rintro (hload | ⟨⟨before, load, since, rfl, hload, hsince⟩, hkept⟩)
    · exact ⟨past, entry, [], rfl, hload, List.forall_mem_nil _⟩
    · refine ⟨before, load, since ++ [entry], List.append_assoc before _ _, hload, ?_⟩
      exact List.forall_mem_append.mpr ⟨hsince, List.forall_mem_singleton.mpr hkept⟩

/-! ## Counting -/

variable {m : Memo κ α}

/-- No two options of the cache are equal. -/
def Distinct (m : Memo κ α) : Prop := m.entries.Pairwise fun e e' => (e.1 == e'.1) = false

theorem Distinct.insert (h : m.Distinct) (o : κ) (a : α) : (m.insert o a).Distinct := by
  refine List.pairwise_append.mpr ⟨List.Pairwise.filter _ h, List.pairwise_singleton _ _, ?_⟩
  intro e he e' he'
  rw [List.mem_singleton.mp he']
  simpa using (List.mem_filter.mp he).2

theorem Distinct.call (h : s.cache.Distinct) (c : Call κ α) : (s.call c).1.cache.Distinct := by
  cases c with
  | get o loader =>
      simp only [Session.call, fetch]
      split
      · exact h
      · split
        · exact h.insert o _
        · exact h
  | invalidate o => exact List.Pairwise.filter _ h
  | clear => exact List.Pairwise.nil
  | len => exact h

theorem distinct_after (fs : FileSystem) (calls : List (Call κ α)) :
    (Session.after ⟨{}, fs⟩ calls).cache.Distinct := by
  induction calls using List.reverseRecOn with
  | nil => exact List.Pairwise.nil
  | append_singleton calls c ih =>
      rw [Session.after_concat]
      exact ih.call c

/-- Options have a value if they equal options of the cache. -/
theorem exists_get?_iff (m : Memo κ α) (o : κ) :
    (∃ a, m.get? o = some a) ↔ ∃ k ∈ m.entries.map Prod.fst, (k == o) = true := by
  rw [← Option.isSome_iff_exists, get?, Option.isSome_map, List.find?_isSome]
  simp only [List.mem_map, exists_exists_and_eq_and]

/-! ## One call of the cache -/

variable [EquivBEq κ]

/-- Dropping options makes equal options go and leaves the others. -/
theorem get?_erase : (m.erase o).get? o' = if (o == o') = true then none else m.get? o' := by
  rw [get?, get?, erase, List.find?_filter]
  split
  next hsame => simp [BEq.congr_right hsame]
  next hother =>
    congr 2
    funext e
    cases hkey : e.1 == o' with
    | false => simp
    | true =>
        have hnot : (e.1 == o) = false := by
          rw [← Bool.not_eq_true]
          exact fun h => hother (BEq.trans (BEq.symm h) hkey)
        simp [hnot]

/-- A written value is read for equal options. -/
theorem get?_insert : (m.insert o a).get? o' = if (o == o') = true then some a else m.get? o' := by
  have herase : (m.erase o).get? o' = if (o == o') = true then none else m.get? o' := get?_erase
  rw [get?] at herase ⊢
  rw [insert, List.find?_append, Option.map_or, herase]
  split
  next hsame => simp [hsame]
  next hother => simp [hother]

/-- What a call leaves in the cache: what it loaded, or what was there and is not dropped. -/
theorem get?_call_iff (c : Call κ α) :
    (s.call c).1.cache.get? o = some a ↔
      Loads o a (c, (s.call c).2) ∨
        s.cache.get? o = some a ∧ ¬ Drops o c ∧ ∀ b, ¬ Loads o b (c, (s.call c).2) := by
  cases c with
  | get o' loader =>
      simp only [Session.call, fetch]
      cases hhit : s.cache.get? o' with
      | some b => simp [Loads, Drops]
      | none =>
          match hloader : loader s.files with
          | (fs, .error e) => simp [Loads, Drops]
          | (fs, .ok b) =>
              simp only [get?_insert, Loads, Drops]
              by_cases hsame : (o' == o) = true <;> simp [hsame]
  | invalidate o' =>
      simp only [Session.call, get?_erase, Loads, Drops]
      by_cases hsame : (o' == o) = true <;> simp [hsame]
  | clear => simp [Session.call, clear, get?, Loads, Drops]
  | len => simp [Session.call, Loads, Drops]

/-- The cache keeps exactly the live loads. -/
theorem get?_after_iff (fs : FileSystem) (calls : List (Call κ α)) (o : κ) (a : α) :
    (Session.after ⟨{}, fs⟩ calls).cache.get? o = some a ↔
      Live (Session.history ⟨{}, fs⟩ calls) o a := by
  induction calls using List.reverseRecOn generalizing o a with
  | nil =>
      have hempty : (Session.after ⟨{}, fs⟩ ([] : List (Call κ α))).cache.get? o = none := rfl
      rw [hempty]
      exact iff_of_false nofun not_live_nil
  | append_singleton calls c ih =>
      rw [Session.after_concat, Session.history_append, get?_call_iff, ih]
      exact live_concat.symm

/-! ## Answers -/

/-- The answers of a session to its next call are those that the live loads of a history call
for. -/
structure AnswersByLive (past : List (Call κ α × Answer α)) (s : Session κ α) : Prop where
  /-- A live load gives its value again, and the loader does not run. -/
  hit : ∀ o loader a, Live past o a → s.call (.get o loader) = (s, .value (.ok a) false)
  /-- Without a live load the loader runs and gives the answer. -/
  miss : ∀ o loader, (∀ a, ¬ Live past o a) →
    (s.call (.get o loader)).2 = .value (loader s.files).2 true
  /-- A loader that fails leaves the cache as it is. -/
  failure : ∀ o loader e, (loader s.files).2 = .error e →
    (s.call (.get o loader)).1.cache = s.cache
  /-- Options are dropped if they have a live load. -/
  invalidate : ∀ o, ∃ existed, (s.call (.invalidate o)).2 = .dropped existed ∧
    (existed = true ↔ ∃ a, Live past o a)
  /-- The options with a live load are counted, equal ones once. -/
  len : ∃ keys : List κ, keys.Pairwise (fun k k' => (k == k') = false) ∧
    (∀ o, (∃ k ∈ keys, (k == o) = true) ↔ ∃ a, Live past o a) ∧
    (s.call .len).2 = .count keys.length

/-- Whatever calls were made of a cache, its next answer is told by their live loads. -/
theorem answersByLive (fs : FileSystem) (calls : List (Call κ α)) :
    AnswersByLive (Session.history ⟨{}, fs⟩ calls) (Session.after ⟨{}, fs⟩ calls) where
  hit o loader a h := by
    rw [Session.call, fetch, (get?_after_iff fs calls o a).mpr h]
  miss o loader h := by
    have hmiss : (Session.after ⟨{}, fs⟩ calls).cache.get? o = none := by
      rw [Option.eq_none_iff_forall_ne_some]
      exact fun a ha => h a ((get?_after_iff fs calls o a).mp ha)
    rw [Session.call, fetch, hmiss]
    dsimp only
    split <;> simp [*]
  failure o loader e h := by
    rw [Session.call, fetch]
    dsimp only
    split
    · rfl
    · split
      next heq => rw [heq] at h; cases h
      next => rfl
  invalidate o := by
    refine ⟨_, rfl, ?_⟩
    rw [Option.isSome_iff_exists]
    exact exists_congr fun a => get?_after_iff fs calls o a
  len := by
    refine ⟨(Session.after ⟨{}, fs⟩ calls).cache.entries.map Prod.fst,
      List.pairwise_map.mpr (distinct_after fs calls), fun o => ?_, ?_⟩
    · rw [← exists_get?_iff]
      exact exists_congr fun a => get?_after_iff fs calls o a
    · rw [List.length_map]
      rfl

/-! ## A run -/

/-- Options for a directory. -/
def purposeAt (context : String) (debug : Option Bool := none) : Purpose :=
  { context := some ⟨context⟩, debug := debug, now := ⟨0⟩ }

/-- A loader that gives a number. -/
def giving (n : Nat) (fs : FileSystem) : FileSystem × Except ConfigError Nat := (fs, .ok n)

/-- A loader that fails. -/
def failing (fs : FileSystem) : FileSystem × Except ConfigError Nat :=
  (fs, .error (.source (.refused "unavailable")))

/-- Calls for a directory, with and without the debug mode. -/
def callsInTurn : List (Call Purpose Nat) :=
  [.get (purposeAt "/p" (some true)) failing, .get (purposeAt "/p") (giving 1),
    .get (purposeAt "/p" (some true)) (giving 2), .get (purposeAt "/p/.") (giving 3),
    .invalidate (purposeAt "/p//" (some true))]

/-- A cache that was not called yet. -/
def uncalled : Session Purpose Nat := ⟨{}, ⟨[], ⟨"/"⟩⟩⟩

theorem answersByLive_callsInTurn :
    (uncalled.after callsInTurn).call (.get (purposeAt "/p/") failing) =
        (uncalled.after callsInTurn, .value (.ok 1) false) ∧
      ((uncalled.after callsInTurn).call (.get (purposeAt "/p" (some true)) (giving 4))).2 =
        .value (.ok 4) true ∧
      ∃ keys : List Purpose, keys.Pairwise (fun k k' => (k == k') = false) ∧
        (∃ k ∈ keys, (k == purposeAt "/p") = true) ∧
        ((uncalled.after callsInTurn).call .len).2 = .count keys.length := by
  have h : AnswersByLive (uncalled.history callsInTurn) (uncalled.after callsInTurn) :=
    answersByLive _ callsInTurn
  have hlive : ∀ o n, (uncalled.after callsInTurn).cache.get? o = some n ↔
      Live (uncalled.history callsInTurn) o n := get?_after_iff _ callsInTurn
  have hgone : ∀ n, ¬ Live (uncalled.history callsInTurn) (purposeAt "/p" (some true)) n := by
    intro n hn
    have hnone : (uncalled.after callsInTurn).cache.get? (purposeAt "/p" (some true)) = none := by
      decide +kernel
    exact nomatch hnone.symm.trans ((hlive _ _).mpr hn)
  obtain ⟨keys, hdistinct, hkeys, hlen⟩ := h.len
  refine ⟨h.hit _ _ _ ((hlive _ _).mp ?_), h.miss _ _ hgone, keys, hdistinct, ?_, hlen⟩
  · decide +kernel
  · exact (hkeys _).mpr ⟨1, (hlive _ _).mp (by decide +kernel)⟩

end Memo

end BundleConfig
