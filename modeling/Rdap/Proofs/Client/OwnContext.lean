import Mathlib
import Rdap.Client.Sharing
/-!
# A lookup answers under its own context

Lookups of one URL share a fetch that runs under the context of the lookup that
started it. Whatever the interleaving of the lookups, the ends of their contexts
and the outcomes of their requests, a lookup whose own context never ends
returns (`Rdap.Client.Sharing.reply_under_own_context`):

* the outcome that its shared fetch delivered, unchanged; and when that outcome
  is a context's error, the fetch was not shared: the lookup started it and no
  other joined, so the error came from its own fetch under its own context;
* or, after its shared fetch delivered a context's error, shared, what its own
  fetch under its own context returned.

It never returns a context's error caused by another lookup's context, and it
never returns the error of its own context.

The proof is an invariant of every reachable state
(`Rdap.Client.Sharing.Inv`): the fetches started so far are numbered below the
count of those started, the fetch in flight has not delivered, a delivered
outcome is flagged shared exactly when a lookup joined after the first, and each
lookup's place fits the fetch it joined (`Rdap.Client.Sharing.Fits`). A step
changes at most one lookup and one fetch; every other lookup keeps fitting
because no step forgets a fetch, changes who started it, takes back a join or
changes a delivered fetch (`Rdap.Client.Sharing.Keeps`).
-/

namespace Rdap.Client.Sharing

variable {s s' : Sys} {g : Nat}

/-! ### Fetches, as steps keep them -/

/-- **What a step keeps of every fetch**: it still exists, started by the same
lookup, with no fewer lookups joined, and once it delivered it never changes. -/
def Keeps (s s' : Sys) : Prop :=
  ∀ c f, s.flights c = some f → ∃ f', s'.flights c = some f' ∧ f'.owner = f.owner ∧
    f.dups ≤ f'.dups ∧ ∀ o sh, f.stage = .delivered o sh → f' = f

/-- A step that changes no fetch keeps them. -/
theorem keeps_of_flights (h : s'.flights = s.flights) : Keeps s s' :=
  fun _ f hf => ⟨f, h ▸ hf, rfl, le_rfl, fun _ _ _ => rfl⟩

/-- **Changing one fetch that has not delivered keeps the fetches**, when the
change keeps who started it and counts no fewer joins. -/
theorem keeps_alter {c : Nat} {F : Flight → Flight} (hc : ∀ f, s.flights c = some f →
      (F f).owner = f.owner ∧ f.dups ≤ (F f).dups ∧ ∀ o sh, f.stage ≠ .delivered o sh) :
    Keeps s (s.alter c F) := by
  intro d f hf
  by_cases hd : d = c
  · subst hd
    obtain ⟨howner, hdups, hnot⟩ := hc f hf
    exact ⟨F f, by simp [hf], howner, hdups, fun o sh h => absurd h (hnot o sh)⟩
  · exact ⟨f, by simp [hd, hf], rfl, le_rfl, fun _ _ _ => rfl⟩

/-! ### Where each lookup is -/

/-- **Lookup `g` joined fetch `c`**, which exists: as the lookup that started
it, or after it, which made the fetch shared. -/
def Joined (s : Sys) (g c : Nat) : Prop :=
  ∃ f, s.flights c = some f ∧ (f.owner = g ∨ 0 < f.dups)

/-- **Fetch `c` delivered a context's error, shared.** -/
def SharedContextError (s : Sys) (c : Nat) : Prop :=
  ∃ f e, s.flights c = some f ∧ f.stage = .delivered (.error e) true ∧ e.isContext = true

/-- **What the place of lookup `g` says about the fetch it joined**: waiting,
it joined it; having fetched again, it received a shared context's error;
having returned the outcome, that outcome is what the fetch delivered, and a
shared context's error only once its own context had ended; having left, its
context had ended. -/
def Fits (s : Sys) (g : Nat) (k : Caller) : Prop :=
  match k.phase with
  | .idle => True
  | .waiting c => Joined s g c
  | .refetching c | .refetched c _ => Joined s g c ∧ SharedContextError s c
  | .left => k.ended = true
  | .took c r => Joined s g c ∧ ∃ f sh, s.flights c = some f ∧ f.stage = .delivered r sh ∧
      ∀ e, r = .error e → e.isContext = true → sh = true → k.ended = true

theorem Joined.keep {c : Nat} (hk : Keeps s s') (h : Joined s g c) : Joined s' g c := by
  obtain ⟨f, hf, hj⟩ := h
  obtain ⟨f', hf', howner, hdups, -⟩ := hk c f hf
  refine ⟨f', hf', ?_⟩
  rcases hj with hj | hj
  · exact .inl (howner.trans hj)
  · exact .inr (lt_of_lt_of_le hj hdups)

theorem SharedContextError.keep {c : Nat} (hk : Keeps s s') (h : SharedContextError s c) :
    SharedContextError s' c := by
  obtain ⟨f, e, hf, hst, he⟩ := h
  obtain ⟨f', hf', -, -, hsame⟩ := hk c f hf
  exact ⟨f', e, hf', hsame _ _ hst ▸ hst, he⟩

/-- **A lookup keeps fitting** across a step that keeps the fetches. -/
theorem Fits.keep {k : Caller} (hk : Keeps s s') (h : Fits s g k) : Fits s' g k := by
  unfold Fits at h ⊢
  split at h
  · trivial
  · exact h.keep hk
  · exact ⟨h.1.keep hk, h.2.keep hk⟩
  · exact ⟨h.1.keep hk, h.2.keep hk⟩
  · exact h
  · obtain ⟨hj, f, sh, hf, hst, hctx⟩ := h
    obtain ⟨f', hf', -, -, hsame⟩ := hk _ f hf
    exact ⟨hj.keep hk, f', sh, hf', hsame _ _ hst ▸ hst, hctx⟩

/-- A lookup whose context ends keeps fitting. -/
theorem Fits.cancel {k : Caller} (h : Fits s g k) : Fits s g { k with ended := true } := by
  obtain ⟨ended, phase⟩ := k
  cases phase with
  | took c r =>
    obtain ⟨hj, f, sh, hf, hst, -⟩ := h
    exact ⟨hj, f, sh, hf, hst, fun _ _ _ _ => rfl⟩
  | left => rfl
  | idle | waiting _ | refetching _ | refetched _ _ => exact h

/-! ### The invariant -/

/-- **What holds of every reachable state.** -/
structure Inv (s : Sys) : Prop where
  /-- No fetch is numbered from the count of those started on. -/
  fresh : ∀ c, s.started ≤ c → s.flights c = none
  /-- The fetch in flight exists and has not delivered. -/
  current : ∀ c, s.current = some c → ∃ f, s.flights c = some f ∧ ∀ o sh, f.stage ≠ .delivered o sh
  /-- A delivered outcome is flagged shared exactly when a lookup joined after
  the first. -/
  shared : ∀ c f o sh, s.flights c = some f → f.stage = .delivered o sh → sh = decide (0 < f.dups)
  /-- Every lookup fits the fetch it joined. -/
  fits : ∀ g, Fits s g (s.callers g)

/-- Changing one fetch keeps every number from the count of those started on
unused. -/
theorem Inv.fresh_alter (hs : Inv s) (c : Nat) (F : Flight → Flight) (d : Nat)
    (hd : s.started ≤ d) : (s.alter c F).flights d = none := by
  have hnone := hs.fresh d hd
  by_cases hdc : d = c
  · subst hdc
    simp [hnone]
  · simp [hdc, hnone]

/-- **Changing one fetch keeps the flags of the others**, and the changed one
keeps its flag when `hc` says so. -/
theorem Inv.shared_alter (hs : Inv s) {c : Nat} {F : Flight → Flight} {f : Flight}
    (hf : s.flights c = some f)
    (hc : ∀ o sh, (F f).stage = .delivered o sh → sh = decide (0 < (F f).dups))
    (d : Nat) (f' : Flight) (o : Except LookupError Json) (sh : Bool)
    (hf' : (s.alter c F).flights d = some f') (hst : f'.stage = .delivered o sh) :
    sh = decide (0 < f'.dups) := by
  by_cases hdc : d = c
  · subst hdc
    simp only [Sys.flights_alter, if_true, hf, Option.map_some, Option.some.injEq] at hf'
    subst hf'
    exact hc o sh hst
  · simp only [Sys.flights_alter, hdc, if_false] at hf'
    exact hs.shared d f' o sh hf' hst

/-- **Every lookup other than `g` keeps fitting** across a step that keeps the
fetches and moves only `g`. -/
theorem Inv.fits_other (hs : Inv s) (hk : Keeps s s')
    (hother : ∀ h, h ≠ g → s'.callers h = s.callers h)
    (hg : Fits s' g (s'.callers g)) : ∀ h, Fits s' h (s'.callers h) := by
  intro h
  by_cases hh : h = g
  · exact hh ▸ hg
  · rw [hother h hh]
    exact (hs.fits h).keep hk

/-- **A lookup calls the group**: it joins the fetch in flight or starts one. -/
theorem Inv.call (hs : Inv s) (g : Nat) : Inv (s.join g) := by
  unfold Sys.join
  split
  · rename_i c hc
    obtain ⟨f, hf, hnot⟩ := hs.current c hc
    have hk : Keeps s (s.alter c fun f => { f with dups := f.dups + 1 }) :=
      keeps_alter fun f' hf' => by
        obtain rfl : f = f' := Option.some_injective _ (hf.symm.trans hf')
        exact ⟨rfl, Nat.le_succ _, hnot⟩
    have hk' : Keeps s ((s.alter c fun f => { f with dups := f.dups + 1 }).move g (.waiting c)) :=
      fun d f' hf' => by simpa using hk d f' hf'
    -- the fetch in flight had not delivered, and it is the only one that changes
    refine ⟨fun d hd => hs.fresh_alter c _ d (by simpa using hd), fun d hd => ?_,
      hs.shared_alter hf fun o sh h => absurd h (hnot o sh), ?_⟩
    · obtain rfl : c = d := by simpa [hc] using hd
      exact ⟨{ f with dups := f.dups + 1 }, by simp [hf], by simpa using hnot⟩
    · refine hs.fits_other (g := g) hk' (fun h hh => by simp [Sys.move, hh]) ?_
      simp only [Fits, Sys.phase_move, if_true]
      exact ⟨{ f with dups := f.dups + 1 }, by simp [hf], .inr (Nat.succ_pos _)⟩
  · rename_i hc
    -- a fresh fetch, numbered after every one started, started by `g`
    have hnew := hs.fresh s.started le_rfl
    have hk : Keeps s { s.move g (.waiting s.started) with
        current := some s.started
        flights := fun d => if d = s.started then some { owner := g } else s.flights d
        started := s.started + 1 } := by
      intro d f hf
      have hd : d ≠ s.started := by
        rintro rfl
        simp [hnew] at hf
      exact ⟨f, by simp [hd, hf], rfl, le_rfl, fun _ _ _ => rfl⟩
    refine ⟨fun d hd => ?_, fun d hd => ?_, fun d f o sh hf hst => ?_, ?_⟩
    · have hd' : d ≠ s.started := by simp at hd; omega
      simpa [hd'] using hs.fresh d (by simp at hd; omega)
    · obtain rfl : s.started = d := by simpa using hd
      exact ⟨{ owner := g }, by simp, fun o sh => by simp⟩
    · by_cases hd : d = s.started
      · subst hd
        simp only [if_true, Option.some.injEq] at hf
        subst hf
        simp at hst
      · simp only [hd, if_false] at hf
        exact hs.shared d f o sh hf hst
    · refine hs.fits_other (g := g) hk (fun h hh => by simp [Sys.move, hh]) ?_
      simp only [Fits, Sys.phase_move, if_true]
      exact ⟨{ owner := g }, by simp, .inl rfl⟩

/-- **A context ends**: nothing else changes. -/
theorem Inv.cancel (hs : Inv s) (g : Nat) :
    Inv (s.setCaller g { s.callers g with ended := true }) := by
  refine ⟨hs.fresh, hs.current, hs.shared, ?_⟩
  refine hs.fits_other (g := g) (keeps_of_flights rfl) (fun h hh => by simp [hh]) ?_
  have hk : Keeps s (s.setCaller g { s.callers g with ended := true }) := keeps_of_flights rfl
  simpa using ((hs.fits g).cancel).keep hk

/-- **A lookup whose context ended leaves.** -/
theorem Inv.leave (hs : Inv s) {c : Nat} (hp : s.callers g = ⟨true, .waiting c⟩) :
    Inv (s.move g .left) := by
  refine ⟨hs.fresh, hs.current, hs.shared, ?_⟩
  refine hs.fits_other (g := g) (keeps_of_flights rfl) (fun h hh => by simp [Sys.move, hh]) ?_
  simp [Fits, Sys.move, hp]

/-- **A request of a shared fetch ends**: the fetch returns. -/
theorem Inv.finish (hs : Inv s) {c owner dups : Nat} {raw : Except LookupError Json}
    (hf : s.flights c = some ⟨owner, dups, .running⟩) :
    Inv (s.alter c fun f =>
      { f with stage := .returned (underContext (s.callers owner).ended raw) }) := by
  have hk := keeps_alter (s := s) (c := c)
    (F := fun f => { f with stage := .returned (underContext (s.callers owner).ended raw) })
    fun f hf' => by
      obtain rfl : (⟨owner, dups, .running⟩ : Flight) = f :=
        Option.some_injective _ (hf.symm.trans hf')
      exact ⟨rfl, le_rfl, fun o sh => by simp⟩
  refine ⟨hs.fresh_alter c _, fun d hd => ?_, hs.shared_alter hf fun o sh h => by simp at h, ?_⟩
  · obtain ⟨f, hf', hnot⟩ := hs.current d hd
    by_cases hdc : d = c
    · subst hdc
      exact ⟨{ owner, dups, stage := .returned (underContext (s.callers owner).ended raw) },
        by simp [hf], fun o sh => by simp⟩
    · exact ⟨f, by simp [hdc, hf'], hnot⟩
  · intro h
    exact (hs.fits h).keep hk

/-- **The group delivers a returned outcome**: flagged shared when a lookup
joined after the first, and the fetch is no longer in flight. -/
theorem Inv.deliver (hs : Inv s) {c owner dups : Nat} {o : Except LookupError Json}
    (hf : s.flights c = some ⟨owner, dups, .returned o⟩) : Inv (s.deliver c o) := by
  have hk := keeps_alter (s := s) (c := c)
    (F := fun f => { f with stage := .delivered o (decide (0 < f.dups)) })
    fun f hf' => by
      obtain rfl : (⟨owner, dups, .returned o⟩ : Flight) = f :=
        Option.some_injective _ (hf.symm.trans hf')
      exact ⟨rfl, le_rfl, fun o sh => by simp⟩
  refine ⟨fun d hd => ?_, fun d hd => ?_, fun d f o' sh hf' hst => ?_, ?_⟩
  · simpa using hs.fresh_alter c _ d (by simpa using hd)
  · -- the delivered fetch is no longer in flight
    have hdc : d ≠ c := by
      rintro rfl
      simp at hd
    have hd' : s.current = some d := by
      simp only [Sys.deliver_current] at hd
      split at hd
      · simp at hd
      · exact hd
    obtain ⟨f, hf', hnot⟩ := hs.current d hd'
    exact ⟨f, by simp [hdc, hf'], hnot⟩
  · simp only [Sys.deliver_flights] at hf'
    refine hs.shared_alter hf (fun o' sh h => ?_) d f o' sh hf' hst
    simp only [Stage.delivered.injEq] at h
    exact h.2.symm
  · intro h
    rw [Sys.deliver_callers]
    exact (hs.fits h).keep fun d f hf' => by simpa using hk d f hf'

/-- **A lookup receives the delivered outcome**: it fetches again after a shared
context's error while its own context lives, and returns the outcome
otherwise. -/
theorem Inv.receive (hs : Inv s) {ended : Bool} {c owner dups : Nat} {o : Except LookupError Json}
    {sh : Bool} (hp : s.callers g = ⟨ended, .waiting c⟩)
    (hf : s.flights c = some ⟨owner, dups, .delivered o sh⟩) :
    Inv (s.move g (received ended c o sh)) := by
  refine ⟨hs.fresh, hs.current, hs.shared, ?_⟩
  refine hs.fits_other (g := g) (keeps_of_flights rfl) (fun h hh => by simp [Sys.move, hh]) ?_
  have hj : Joined s g c := by simpa [Fits, hp] using hs.fits g
  -- the lookup fits the place the outcome sends it to
  have hfit : Fits s g ⟨ended, received ended c o sh⟩ := by
    cases o with
    | ok v => exact ⟨hj, _, sh, hf, rfl, fun _ h => by cases h⟩
    | error e =>
      by_cases hctx : (sh && !ended && e.isContext) = true
      · have hph : received ended c (.error e) sh = .refetching c := if_pos hctx
        rw [hph]
        simp only [Bool.and_eq_true, Bool.not_eq_true'] at hctx
        obtain ⟨⟨rfl, -⟩, he⟩ := hctx
        exact ⟨hj, _, e, hf, rfl, he⟩
      · have hph : received ended c (.error e) sh = .took c (.error e) := if_neg hctx
        rw [hph]
        refine ⟨hj, _, sh, hf, rfl, fun e' he' he'ctx hsh => ?_⟩
        cases he'
        -- not fetching again after a shared context's error means its context ended
        cases ended
        · simp [hsh, he'ctx] at hctx
        · rfl
  have hcaller : (s.move g (received ended c o sh)).callers g = ⟨ended, received ended c o sh⟩ := by
    simp [Sys.move, hp]
  rw [hcaller]
  exact hfit.keep (keeps_of_flights rfl)

/-- **The fetch of a lookup under its own context ends**, and it returns what
that fetch returned. -/
theorem Inv.refetch (hs : Inv s) {ended : Bool} {c : Nat} {raw : Except LookupError Json}
    (hp : s.callers g = ⟨ended, .refetching c⟩) :
    Inv (s.move g (.refetched c (underContext ended raw))) := by
  refine ⟨hs.fresh, hs.current, hs.shared, ?_⟩
  refine hs.fits_other (g := g) (keeps_of_flights rfl) (fun h hh => by simp [Sys.move, hh]) ?_
  have hfit : Joined s g c ∧ SharedContextError s c := by simpa [Fits, hp] using hs.fits g
  have hcaller : (s.move g (.refetched c (underContext ended raw))).callers g =
      ⟨ended, .refetched c (underContext ended raw)⟩ := by
    simp [Sys.move, hp]
  rw [hcaller]
  exact ⟨hfit.1.keep (keeps_of_flights rfl), hfit.2.keep (keeps_of_flights rfl)⟩

/-! ### Every run -/

/-- **Every step keeps the invariant.** -/
theorem Inv.of_step (hs : Inv s) {e : Event} (h : step s e = some s') : Inv s' := by
  cases e with
  | call g =>
    simp only [step] at h
    split at h
    · cases h
      exact hs.call g
    · cases h
  | cancel g =>
    cases h
    exact hs.cancel g
  | leave g =>
    simp only [step] at h
    split at h
    · cases h
      exact hs.leave ‹_›
    · cases h
  | finish c raw =>
    simp only [step] at h
    split at h
    · cases h
      exact hs.finish ‹_›
    · cases h
  | deliver c =>
    simp only [step] at h
    split at h
    · cases h
      exact hs.deliver ‹_›
    · cases h
  | receive g =>
    simp only [step] at h
    split at h
    · rename_i hp
      split at h
      · cases h
        exact hs.receive hp ‹_›
      · cases h
    · cases h
  | refetch g raw =>
    simp only [step] at h
    split at h
    · cases h
      exact hs.refetch ‹_›
    · cases h

/-- A new group: no fetch, every lookup idle. -/
theorem inv_init : Inv {} where
  fresh _ _ := rfl
  current c hc := by simp at hc
  shared c f o sh hf := by simp at hf
  fits _ := trivial

/-- **Every run keeps the invariant.** -/
theorem Inv.of_run (hs : Inv s) {es : List Event} (h : run s es = some s') : Inv s' := by
  induction es generalizing s with
  | nil =>
    simp only [run, Option.some.injEq] at h
    exact h ▸ hs
  | cons e es ih =>
    obtain ⟨s₁, h₁, h₂⟩ := Option.bind_eq_some_iff.mp h
    exact ih (hs.of_step h₁) h₂

/-! ### What a lookup under a live context returns -/

/-- **A lookup whose own context never ended answers under its own context.** In
every run of a new group, what it returned is

* the outcome its shared fetch delivered, unchanged, and a context's error only
  when that fetch was not shared: the lookup started it and no other joined, so
  the fetch ran under its own context;
* or what its own fetch returned, which it ran after the shared fetch delivered
  a context's error, shared.

So it never returns a context's error caused by another lookup's context, and
never its own context's error. -/
theorem reply_under_own_context {es : List Event} {s : Sys} (h : run {} es = some s) {g : Nat}
    (hlive : (s.callers g).ended = false) {r : Except LookupError Json}
    (hr : (s.callers g).phase.reply = some r) :
    (∃ c f sh, (s.callers g).phase = .took c r ∧ s.flights c = some f ∧
      f.stage = .delivered r sh ∧
        ∀ e, r = .error e → e.isContext = true → sh = false ∧ f.owner = g ∧ f.dups = 0) ∨
    (∃ c f e, (s.callers g).phase = .refetched c r ∧ s.flights c = some f ∧
      f.stage = .delivered (.error e) true ∧ e.isContext = true) := by
  have hs : Inv s := inv_init.of_run h
  have hfit := hs.fits g
  unfold Fits at hfit
  cases hph : (s.callers g).phase with
  | idle | waiting _ | refetching _ => simp [hph, Phase.reply] at hr
  | left =>
    rw [hph] at hfit
    simp [hfit] at hlive
  | took c r' =>
    obtain rfl : r' = r := by simpa [hph, Phase.reply] using hr
    rw [hph] at hfit
    obtain ⟨⟨f', hf', hjoin⟩, f, sh, hf, hst, hctx⟩ := hfit
    obtain rfl : f' = f := Option.some_injective _ (hf'.symm.trans hf)
    refine .inl ⟨c, f', sh, rfl, hf, hst, fun e he hectx => ?_⟩
    -- a shared context's error would have sent the live lookup to fetch again
    have hsh : sh = false := by
      cases sh
      · rfl
      · simp [hctx e he hectx rfl] at hlive
    have hdups : f'.dups = 0 := by
      simpa [hsh] using hs.shared c f' _ sh hf hst
    refine ⟨hsh, ?_, hdups⟩
    rcases hjoin with howner | hpos
    · exact howner
    · omega
  | refetched c r' =>
    obtain rfl : r' = r := by simpa [hph, Phase.reply] using hr
    rw [hph] at hfit
    obtain ⟨-, f, e, hf, hst, he⟩ := hfit
    exact .inr ⟨c, f, e, rfl, hf, hst, he⟩

/-- Lookup 0 starts the fetch and lookup 1 joins it; the context of lookup 0
ends and the fetch fails with its cancellation. Lookup 1, whose context lives,
fetches again under its own context and returns the answer, not the
cancellation of lookup 0. -/
theorem reply_under_own_context_after_cancelled_owner :
    match run {} [.call 0, .call 1, .cancel 0, .finish 0 (.error (.other "reset")), .deliver 0,
      .receive 1, .refetch 1 (.ok .null)] with
    | some s => (s.callers 1).ended = false ∧ (s.callers 1).phase.reply = some (.ok .null) ∧
        ∃ c f e, (s.callers 1).phase = .refetched c (.ok .null) ∧ s.flights c = some f ∧
          f.stage = .delivered (.error e) true ∧ e.isContext = true
    | none => False := by
  obtain ⟨s₀, hs₀⟩ : ∃ s₀, run {} [.call 0, .call 1, .cancel 0,
      .finish 0 (.error (.other "reset")), .deliver 0, .receive 1, .refetch 1 (.ok .null)] = some s₀ :=
    ⟨_, rfl⟩
  rw [hs₀]
  have hlive : (s₀.callers 1).ended = false := by cases hs₀; rfl
  have hph : (s₀.callers 1).phase = .refetched 0 (.ok .null) := by cases hs₀; rfl
  have hr : (s₀.callers 1).phase.reply = some (.ok .null) := by rw [hph]; rfl
  refine ⟨hlive, hr, ?_⟩
  rcases reply_under_own_context hs₀ hlive hr with ⟨c, f, sh, htook, -⟩ | hrefetched
  · rw [hph] at htook
    cases htook
  · exact hrefetched

end Rdap.Client.Sharing
