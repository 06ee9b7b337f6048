import PriceHistory.Store

/-!
Stores that do not fail. A key may still be there without giving a record; where it gives one, it is a
hit.
-/
namespace PriceHistory.Store

variable {σ : Type} {store : Store σ} {live : σ → Prop}

/-- A store that answers every question and takes every write while its contents are live, and stays
so. -/
structure Reliable (store : Store σ) (live : σ → Prop) : Prop where
  looking : ∀ s, live s → ∀ key, ∃ there, store.has s key = .ok there
  reading : ∀ s, live s → ∀ key, ∃ found, store.find? s key = .ok found
  writing : ∀ s, live s → ∀ record, (store.put s record).1 = .ok () ∧ live (store.put s record).2

/-- The record under a key that is there and gives one. -/
def hit? (store : Store σ) (s : σ) (key : Key) : Option Record :=
  match store.lookup s key with
  | .ok (.hit record) => some record
  | _ => none

theorem Reliable.lookup_ok (reliable : store.Reliable live) {s : σ} (alive : live s) (key : Key) :
    ∃ answer, store.lookup s key = .ok answer := by
  obtain ⟨there, looked⟩ := reliable.looking s alive key
  obtain ⟨found, read⟩ := reliable.reading s alive key
  unfold lookup
  rw [looked]
  cases there with
  | false => exact ⟨.absent, rfl⟩
  | true =>
    cases found with
    | none => exact ⟨.inconsistent, by simp only [read]; rfl⟩
    | some record => exact ⟨.hit record, by simp only [read]; rfl⟩

theorem putAll_cons_of_taken {record : Record} {rest : List Record} {s : σ}
    (taken : (store.put s record).1 = .ok ()) :
    store.putAll (record :: rest) s = store.putAll rest (store.put s record).2 := by
  rw [putAll]
  split
  next written => rw [written]
  next failed =>
    rw [failed] at taken
    cases taken

theorem putAll_cons_of_failed {record : Record} {rest : List Record} {s : σ} {e : Failure}
    (failed : (store.put s record).1 = .error e) :
    store.putAll (record :: rest) s = store.put s record := by
  rw [putAll]
  split
  next written =>
    rw [written] at failed
    cases failed
  next outcome => exact outcome.symm

/-- Writing lists one after another is writing them joined, where the first is written whole. -/
theorem putAll_append {first second : List Record} {s : σ}
    (whole : (store.putAll first s).1 = .ok ()) :
    store.putAll (first ++ second) s = store.putAll second (store.putAll first s).2 := by
  induction first generalizing s with
  | nil => rfl
  | cons record rest ih =>
    cases done : (store.put s record).1 with
    | ok _ =>
      rw [putAll_cons_of_taken done] at whole
      rw [List.cons_append, putAll_cons_of_taken done, putAll_cons_of_taken done]
      exact ih whole
    | error e =>
      rw [putAll_cons_of_failed done, done] at whole
      cases whole

/-- What contents answer where nothing fails: whether a key is there, and what reading it gives. The two
need not agree. -/
structure Answers (store : Store σ) (s : σ) (there : Key → Bool) (found : Key → Option Record) : Prop where
  looking : ∀ key, store.has s key = .ok (there key)
  reading : ∀ key, store.find? s key = .ok (found key)
  writing : ∀ records, (store.putAll records s).1 = .ok ()

section

variable {s : σ} {there : Key → Bool} {found : Key → Option Record} {key : Key}

theorem Answers.lookup_of_absent (answers : store.Answers s there found) (away : there key = false) :
    store.lookup s key = .ok .absent := by
  rw [lookup, answers.looking, away]
  rfl

theorem Answers.lookup_of_present (answers : store.Answers s there found) (here : there key = true) :
    store.lookup s key = .ok ((found key).elim .inconsistent .hit) := by
  rw [lookup, answers.looking, here]
  change (store.find? s key >>= _) = _
  rw [answers.reading]
  cases found key <;> rfl

end

/-- Writes that are all taken are made one after another. -/
theorem putAll_eq_foldl {records : List Record} {s : σ} (whole : (store.putAll records s).1 = .ok ()) :
    (store.putAll records s).2 = records.foldl (fun s record => (store.put s record).2) s := by
  induction records generalizing s with
  | nil => rfl
  | cons record rest ih =>
    cases done : (store.put s record).1 with
    | ok _ =>
      rw [putAll_cons_of_taken done] at whole ⊢
      exact ih whole
    | error e =>
      rw [putAll_cons_of_failed done, done] at whole
      cases whole

/-- A reliable store takes all writes. -/
theorem Reliable.putAll (reliable : store.Reliable live) {s : σ} (alive : live s)
    (records : List Record) :
    (store.putAll records s).1 = .ok () ∧ live (store.putAll records s).2 := by
  induction records generalizing s with
  | nil => exact ⟨rfl, alive⟩
  | cons record rest ih =>
    obtain ⟨taken, still⟩ := reliable.writing s alive record
    rw [putAll_cons_of_taken taken]
    exact ih still

end PriceHistory.Store
