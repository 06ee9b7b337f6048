import PriceHistory.Store

/-!
Looking at keys one after another, up to the first look that fails, and stores that only take notes of
what is written.
-/
namespace PriceHistory.Store

variable {σ : Type} {store : Store σ} {s : σ} {e : Failure}

/-- Does a look at a key fail so: when the key is looked for, or when it is there and is read? -/
def LookFails (store : Store σ) (s : σ) (e : Failure) (key : Key) : Prop :=
  store.has s key = .error e ∨ store.has s key = .ok true ∧ store.find? s key = .error e

theorem lookup_eq_error_iff {key : Key} : store.lookup s key = .error e ↔ store.LookFails s e key := by
  unfold lookup LookFails
  cases store.has s key with
  | error cause => simp [bind, Except.bind]
  | ok there =>
    cases there with
    | false => simp [bind, Except.bind, pure, Except.pure]
    | true =>
      cases store.find? s key with
      | error cause => simp [bind, Except.bind]
      | ok found => cases found <;> simp [bind, Except.bind, pure, Except.pure]

/-- Does a scan of some keys come to one where the look fails so? From a key it goes on only where
`goesOn` says so of what it found. -/
def ScanFails (store : Store σ) (s : σ) (goesOn : Lookup → Prop) (e : Failure) (keys : List Key) :
    Prop :=
  ∃ earlier key later, keys = earlier ++ key :: later ∧
    (∀ k ∈ earlier, ∃ found, store.lookup s k = .ok found ∧ goesOn found) ∧ store.LookFails s e key

theorem not_scanFails_nil {goesOn : Lookup → Prop} : ¬store.ScanFails s goesOn e [] := by
  rintro ⟨earlier, key, later, split, _⟩
  cases earlier <;> cases split

theorem scanFails_cons {goesOn : Lookup → Prop} {key : Key} {rest : List Key} :
    store.ScanFails s goesOn e (key :: rest) ↔ store.lookup s key = .error e ∨
      (∃ found, store.lookup s key = .ok found ∧ goesOn found) ∧ store.ScanFails s goesOn e rest := by
  rw [lookup_eq_error_iff]
  constructor
  · rintro ⟨earlier, key', later, split, passed, failed⟩
    cases earlier with
    | nil =>
      obtain ⟨rfl, rfl⟩ := List.cons.inj split
      exact .inl failed
    | cons first earlier =>
      obtain ⟨rfl, rfl⟩ := List.cons.inj split
      exact .inr ⟨passed _ List.mem_cons_self, earlier, key', later, rfl,
        fun k member => passed k (List.mem_cons_of_mem _ member), failed⟩
  · rintro (failed | ⟨passed, earlier, key', later, rfl, others, failed⟩)
    · exact ⟨[], key, rest, rfl, by simp, failed⟩
    · refine ⟨key :: earlier, key', later, rfl, ?_, failed⟩
      intro k member
      rcases List.mem_cons.mp member with rfl | member
      · exact passed
      · exact others k member

/-- A store that reads as another one does over some contents, takes every write, and keeps nothing but
a note of it. -/
def noting (store : Store σ) (s : σ) : Store (List Record) where
  has _ key := store.has s key
  find? _ key := store.find? s key
  put noted record := (.ok (), noted ++ [record])

end PriceHistory.Store
