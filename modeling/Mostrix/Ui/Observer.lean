import Mostrix.Library.Run
import Mostrix.Ui.OperationResult

/-!
# The observer's fetches

`ui/app_state.rs`: the Observer tab shows the result of the fetch that was started last, unless it
was cleared since. A fetch is a task of its own that sends one result some time later, with the
generation it was started in; starting a fetch and clearing the tab both move on to the next
generation, and a result of another generation is dropped.

`Shown` is what the tab is for: it names the fetch it shows, and only that one's results change it.
`observer_refines` says that the generations implement it. They are counted in a `u64` that stops at
its largest value, from where on two fetches share a generation; so it holds while starts and clears
are no more than that.
-/

namespace Mostrix.Ui

open Chat (DisputeChatMessage)

/-! ## The code -/

/-- The largest `u64`. -/
def maxGeneration : Nat := 2 ^ 64 - 1

/-- `bump_observer_fetch_generation`: `saturating_add(1)`. -/
def AppState.bumpObserverFetchGeneration (app : AppState) : AppState :=
  { app with observerFetchGeneration := min (app.observerFetchGeneration + 1) maxGeneration }

/-- `begin_observer_fetch`: the state and the generation the fetch is started in. -/
def AppState.beginObserverFetch (app : AppState) : AppState × Nat :=
  let app := app.bumpObserverFetchGeneration
  ({ app with observerMessages := [], observerError := none, observerLoading := true },
    app.observerFetchGeneration)

/-- `clear_observer_secrets`. -/
def AppState.clearObserverSecrets (app : AppState) : AppState :=
  { app.bumpObserverFetchGeneration with
    observerSharedKeyInput := ""
    observerMessages := []
    observerLoading := false
    observerError := none }

/-- The application, and the generation of each fetch in the order they were started. -/
structure ObserverState where
  app : AppState
  fetches : List Nat := []

/-- The UI's part of the Observer tab, and the results of the fetches. -/
inductive ObserverEvent
  /-- Enter on a shared key -/
  | start
  /-- `clear_observer_secrets`: the input is cleared, the tab left, or the role switched -/
  | clear
  /-- a fetch has loaded its messages -/
  | loaded (fetch : Nat) (messages : List DisputeChatMessage)
  /-- a fetch has failed -/
  | failed (fetch : Nat) (message : String)

section steps

variable (env : UiEnv)

/-- A fetch sends its result, with the generation it was started in. -/
def ObserverState.deliver (s : ObserverState) (fetch : Nat) (result : Nat → OperationResult) :
    ObserverState :=
  match s.fetches[fetch]? with
  | none => s
  | some generation =>
    { s with app := (applyOrderResult env s.app (result generation)).getD s.app }

/-- One event. -/
def ObserverState.next (s : ObserverState) : ObserverEvent → ObserverState
  | .start =>
    let (app, generation) := s.app.beginObserverFetch
    { app := app, fetches := s.fetches ++ [generation] }
  | .clear => { s with app := s.app.clearObserverSecrets }
  | .loaded fetch messages =>
    s.deliver env fetch fun generation => .observerChatLoaded generation messages
  | .failed fetch message =>
    s.deliver env fetch fun generation => .observerChatError generation message

end steps

/-! ## What it is for -/

/-- What the tab should show: the fetch that was started last and not cleared, and what came of it
so far. -/
structure Shown where
  started : Nat := 0
  current : Option Nat := none
  messages : List DisputeChatMessage := []
  error : Option String := none
  loading : Bool := false

/-- One event: the results of other fetches change nothing. -/
def Shown.next (a : Shown) : ObserverEvent → Shown
  | .start => { started := a.started + 1, current := some a.started, loading := true }
  | .clear => { started := a.started }
  | .loaded fetch messages =>
    if a.current = some fetch then { a with messages := messages, error := none, loading := false }
    else a
  | .failed fetch message =>
    if a.current = some fetch then { a with error := some message, loading := false } else a

/-- The tab shows what it should. -/
def Shows (s : ObserverState) (a : Shown) : Prop :=
  s.app.observerMessages = a.messages ∧ s.app.observerError = a.error ∧
    s.app.observerLoading = a.loading

/-- An event that moves on to the next generation. -/
def ObserverEvent.bumps : ObserverEvent → Bool
  | .start | .clear => true
  | _ => false

/-- How often a run does. -/
def bumps (events : List ObserverEvent) : Nat := events.countP ObserverEvent.bumps

/-- A result of a fetch that is not the current one. -/
def Shown.Late (a : Shown) : ObserverEvent → Prop
  | .loaded fetch _ | .failed fetch _ => a.current ≠ some fetch
  | _ => False

/-! ## The generations -/

section
variable {env : UiEnv} {s : ObserverState} {a : Shown} {n : Nat}

/-- After `n` bumps: the generation is `n`, no fetch is of a later one, and the current fetch is the
one of this generation. -/
structure Fresh (s : ObserverState) (a : Shown) (n : Nat) : Prop where
  generation : s.app.observerFetchGeneration = n
  started : s.fetches.length = a.started
  fetches : ∀ i g, s.fetches[i]? = some g → g ≤ n ∧ (g = n ↔ a.current = some i)
  current : ∀ i, a.current = some i → i < a.started
  shows : Shows s a

/-- A bump below the limit. -/
theorem bump_generation (app : AppState) (h : app.observerFetchGeneration + 1 ≤ maxGeneration) :
    app.bumpObserverFetchGeneration.observerFetchGeneration = app.observerFetchGeneration + 1 :=
  Nat.min_eq_left h

theorem Fresh.start (h : Fresh s a n) (hn : n + 1 ≤ maxGeneration) :
    Fresh (s.next env .start) (a.next .start) (n + 1) := by
  have hgen : s.app.bumpObserverFetchGeneration.observerFetchGeneration = n + 1 := by
    rw [bump_generation, h.generation]
    rw [h.generation]
    exact hn
  refine ⟨hgen, ?_, fun i g hg => ?_, fun i hi => ?_, rfl, rfl, rfl⟩
  · show (s.fetches ++ [_]).length = a.started + 1
    rw [List.length_append, h.started, List.length_singleton]
  · have hg' : (s.fetches ++
        [s.app.bumpObserverFetchGeneration.observerFetchGeneration])[i]? = some g := hg
    rw [hgen, List.getElem?_append] at hg'
    show g ≤ n + 1 ∧ (g = n + 1 ↔ some a.started = some i)
    rw [Option.some.injEq, ← h.started]
    split at hg'
    · next hi =>
      have hle := (h.fetches i g hg').1
      omega
    · next hi =>
      obtain ⟨hlt, hgi⟩ := List.getElem?_eq_some_iff.1 hg'
      rw [List.getElem_singleton] at hgi
      rw [List.length_singleton] at hlt
      omega
  · obtain rfl := Option.some.inj hi
    exact Nat.lt_succ_self _

theorem Fresh.clear (h : Fresh s a n) (hn : n + 1 ≤ maxGeneration) :
    Fresh (s.next env .clear) (a.next .clear) (n + 1) := by
  have hgen : s.app.bumpObserverFetchGeneration.observerFetchGeneration = n + 1 := by
    rw [bump_generation, h.generation]
    rw [h.generation]
    exact hn
  refine ⟨hgen, h.started, fun i g hg => ?_, nofun, rfl, rfl, rfl⟩
  have hle := (h.fetches i g hg).1
  exact ⟨by omega, iff_of_false (by omega) nofun⟩

/-- A result of a fetch that is not the current one changes nothing at all. -/
theorem Fresh.late (h : Fresh s a n) {e : ObserverEvent} (he : a.Late e) : s.next env e = s := by
  have hother : ∀ fetch g, s.fetches[fetch]? = some g → a.current ≠ some fetch →
      g ≠ s.app.observerFetchGeneration := by
    intro fetch g hg hne heq
    exact hne ((h.fetches fetch g hg).2.1 (heq.trans h.generation))
  cases e with
  | start => cases he
  | clear => cases he
  | loaded fetch messages =>
    show s.deliver env fetch _ = s
    unfold ObserverState.deliver
    split
    · rfl
    · next g hg =>
      have hsame : observerLoaded s.app g messages = s.app := if_pos (hother fetch g hg he)
      exact congrArg (fun app => { s with app := app }) hsame
  | failed fetch message =>
    show s.deliver env fetch _ = s
    unfold ObserverState.deliver
    split
    · rfl
    · next g hg =>
      have hsame : observerFailed s.app g message = s.app := if_pos (hother fetch g hg he)
      exact congrArg (fun app => { s with app := app }) hsame

/-- The current fetch is of the current generation. -/
theorem Fresh.getElem?_current (h : Fresh s a n) {fetch : Nat} (hc : a.current = some fetch) :
    s.fetches[fetch]? = some s.app.observerFetchGeneration := by
  have hlt : fetch < s.fetches.length := by
    rw [h.started]
    exact h.current fetch hc
  have hg := List.getElem?_eq_getElem hlt
  rw [hg, (h.fetches fetch _ hg).2.2 hc, h.generation]

/-- One event of a run keeps the generations fresh. -/
theorem Fresh.next (h : Fresh s a n) (e : ObserverEvent)
    (hn : n + bumps [e] ≤ maxGeneration) :
    Fresh (s.next env e) (a.next e) (n + bumps [e]) := by
  cases e with
  | start => exact h.start hn
  | clear => exact h.clear hn
  | loaded fetch messages =>
    by_cases hc : a.current = some fetch
    · have hnext : s.next env (.loaded fetch messages) =
          { s with
            app :=
              { s.app with
                observerLoading := false
                observerError := none
                observerMessages := messages } } := by
        show s.deliver env fetch _ = _
        rw [ObserverState.deliver, h.getElem?_current hc]
        exact congrArg (fun app => { s with app := app }) (if_neg (not_not.2 rfl))
      rw [hnext, Shown.next, if_pos hc]
      exact ⟨h.generation, h.started, h.fetches, h.current, rfl, rfl, rfl⟩
    · have hlate : a.Late (.loaded fetch messages) := hc
      rw [h.late hlate, Shown.next, if_neg hc]
      exact h
  | failed fetch message =>
    by_cases hc : a.current = some fetch
    · have hnext : s.next env (.failed fetch message) =
          { s with
            app :=
              { s.app with
                observerLoading := false
                observerError := some message
                mode := .operationResult (.error message) } } := by
        show s.deliver env fetch _ = _
        rw [ObserverState.deliver, h.getElem?_current hc]
        exact congrArg (fun app => { s with app := app }) (if_neg (not_not.2 rfl))
      rw [hnext, Shown.next, if_pos hc]
      exact ⟨h.generation, h.started, h.fetches, h.current, h.shows.1, rfl, rfl⟩
    · have hlate : a.Late (.failed fetch message) := hc
      rw [h.late hlate, Shown.next, if_neg hc]
      exact h

theorem bumps_append (events rest : List ObserverEvent) :
    bumps (events ++ rest) = bumps events + bumps rest :=
  List.countP_append

/-- Nor does a run below the limit outdate them. -/
theorem Fresh.run (h : Fresh s a n) (events : List ObserverEvent)
    (hn : n + bumps events ≤ maxGeneration) :
    Fresh (events.foldl (ObserverState.next env) s) (events.foldl Shown.next a)
      (n + bumps events) := by
  induction events generalizing s a n with
  | nil => exact h
  | cons e events ih =>
    have hbumps : bumps (e :: events) = bumps [e] + bumps events := bumps_append [e] events
    rw [hbumps, ← Nat.add_assoc] at hn ⊢
    exact ih (h.next e (by omega)) hn

/-- The tab before anything is fetched. -/
theorem fresh_start {app : AppState} (h : app.observer = {}) : Fresh { app := app } {} 0 :=
  ⟨congrArg ObserverView.generation h, rfl, nofun, nofun, congrArg ObserverView.messages h,
    congrArg ObserverView.error h, congrArg ObserverView.loading h⟩

end

/-- In every run with at most `2 ^ 64 - 1` starts and clears the tab shows, after each event, what
came of the fetch that was started last and not cleared since, and a result of any other fetch
changes nothing. -/
theorem observer_refines (env : UiEnv) {app : AppState} (happ : app.observer = {})
    (events : List ObserverEvent) (hbumps : bumps events ≤ maxGeneration) :
    Shows (events.foldl (ObserverState.next env) { app := app }) (events.foldl Shown.next {}) ∧
      ∀ before e after, events = before ++ e :: after → (before.foldl Shown.next {}).Late e →
        (before.foldl (ObserverState.next env) { app := app }).next env e =
          before.foldl (ObserverState.next env) { app := app } := by
  have hstart := fresh_start happ
  refine ⟨(hstart.run events (by omega)).shows, ?_⟩
  rintro before e after rfl hlate
  have hle : bumps before ≤ maxGeneration := by
    rw [bumps_append] at hbumps
    omega
  exact (hstart.run before (by omega)).late hlate

/-- A fetch is cleared and its messages arrive after the next one was started: they are dropped. -/
theorem observer_refines_late :
    let message : DisputeChatMessage := { sender := .buyer, content := "hello", timestamp := 1000 }
    let events : List ObserverEvent := [.start, .clear, .start, .loaded 0 [message]]
    Shows (events.foldl (ObserverState.next {}) { app := {} }) (events.foldl Shown.next {}) := by
  intro message events
  have hstart : AppState.observer {} = {} := rfl
  exact (observer_refines {} hstart events (by decide)).1

/-! ## At the limit -/

/-- Clearing the tab counts up to the limit. -/
theorem foldl_clear (env : UiEnv) (k : Nat) (s : ObserverState) :
    let t := (List.replicate k ObserverEvent.clear).foldl (ObserverState.next env) s
    (s.app.observerFetchGeneration ≤ maxGeneration →
      t.app.observerFetchGeneration = min (s.app.observerFetchGeneration + k) maxGeneration) ∧
      t.fetches = s.fetches := by
  induction k generalizing s with
  | zero => exact ⟨fun h => (Nat.min_eq_left h).symm, rfl⟩
  | succ k ih =>
    obtain ⟨hgen, hfetches⟩ := ih (s.next env .clear)
    refine ⟨fun _ => ?_, hfetches⟩
    have hnext : (s.next env .clear).app.observerFetchGeneration =
        min (s.app.observerFetchGeneration + 1) maxGeneration := rfl
    rw [hnext] at hgen
    refine (hgen (by omega)).trans ?_
    omega

theorem foldl_shown_clear (k : Nat) :
    (List.replicate k ObserverEvent.clear).foldl Shown.next {} = {} := by
  induction k with
  | zero => rfl
  | succ k ih => exact ih

/-- At the limit two fetches have one generation, and the messages of the first are taken for those
of the second. -/
theorem stale_messages_shown (env : UiEnv) {s : ObserverState}
    (hgen : s.app.observerFetchGeneration = maxGeneration) (hfetches : s.fetches = [])
    (messages : List DisputeChatMessage) :
    ([.start, .start, .loaded 0 messages].foldl (ObserverState.next env) s).app.observerMessages =
      messages := by
  obtain ⟨app, fetches⟩ := s
  dsimp only at hgen hfetches
  subst hfetches
  simp [ObserverState.next, ObserverState.deliver, AppState.beginObserverFetch,
    AppState.bumpObserverFetchGeneration, hgen, applyOrderResult, handleOperationResult,
    bookkeeping, normalize, observerLoaded]

/-- The tab is cleared `2 ^ 64 - 1` times before two fetches are started: the first one's messages
are shown as the second one's. -/
theorem observer_stale_at_limit :
    ¬ ∀ (env : UiEnv) (app : AppState), app.observer = {} → ∀ events : List ObserverEvent,
      Shows (events.foldl (ObserverState.next env) { app := app })
        (events.foldl Shown.next {}) := by
  intro h
  have hshows := (h {} {} rfl (List.replicate maxGeneration .clear ++ [.start, .start, .loaded 0
    [{ sender := .buyer, content := "hello", timestamp := 1000 }]])).1
  have hclear := foldl_clear {} maxGeneration { app := {} }
  have hgen := (hclear.1 (Nat.zero_le _)).trans (Nat.min_eq_right (Nat.le_add_left ..))
  rw [List.foldl_append, List.foldl_append, stale_messages_shown {} hgen hclear.2,
    foldl_shown_clear] at hshows
  cases hshows

end Mostrix.Ui
