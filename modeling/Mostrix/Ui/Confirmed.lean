import Mostrix.Ui.Confirm

/-!
# Nothing is sent that was not confirmed

A request that a popup sends says what the popup was opened for, by the key of the user on the row
selected then; the popup has been on screen ever since; and a choice that it does not offer at once
was made on it. `Confirms` is the invariant of a popup on screen, and `Run.opened` finds the key that
opened it.
-/

namespace Mostrix.Ui

open Disputes (AdminDispute BondSlashChoice)

/-! ## What a popup is opened for -/

/-- The row that a key opens a message popup for, and the action. -/
inductive SelectedFor (s : PopupState) (env : KeyEnv) : Key → Option Uuid → Action → Prop
  | trade {k : Key} {id : Uuid} {status : Option Status} {action : Action} {label : String}
      (htab : s.app.activeTab = .myTrades) (hmode : s.app.mode.userMyTradesInteractive = true)
      (hrow : env.selectedTrade = some (id, status)) (hkey : shortcutAction k = some (action, label))
      (hopen : isTerminalOrderStatus status = false) : SelectedFor s env k (some id) action
  | dispute {id : Uuid} {status : Option Status} (htab : s.app.activeTab = .myTrades)
      (hmode : s.app.mode.userMyTradesInteractive = true)
      (hrow : env.selectedTrade = some (id, status)) (hstatus : canDisputeOrderStatus status = true) :
      SelectedFor s env .shiftD (some id) .dispute
  | bookOrder {order : SmallOrder} {id : Uuid} (htab : s.app.activeTab = .orders)
      (hrow : env.selectedBookOrder = some order) (hid : order.id = some id)
      (hmine : isMyPendingBookOrder s.app env.myTradesMakerBook id order.status = true) :
      SelectedFor s env .enter (some id) .cancel
  | message {msg : OrderMessage} (htab : s.app.activeTab = .messages)
      (hrow : selectedMessage s.app env.selectedMessageIdx = some msg)
      (haction : isActionable msg.message.action = true) :
      SelectedFor s env .enter msg.orderId msg.message.action

/-- The row that a key opens a rating for. -/
inductive RatedFor (s : PopupState) (env : KeyEnv) : Key → Uuid → Prop
  | trade {id : Uuid} {status : Option Status} (htab : s.app.activeTab = .myTrades)
      (hrow : env.selectedTrade = some (id, status)) : RatedFor s env .shiftV id
  | message {msg : OrderMessage} {id : Uuid} (htab : s.app.activeTab = .messages)
      (hrow : selectedMessage s.app env.selectedMessageIdx = some msg)
      (haction : msg.message.action = .rate) (hid : msg.orderId = some id) : RatedFor s env .enter id

/-- The dispute that a key opens the review for. -/
structure ReviewedFor (s : PopupState) (env : KeyEnv) (k : Key) (disputeId : Uuid) : Prop where
  key : k = .shiftF
  tab : s.app.activeTab = .disputesInProgress
  mode : s.app.mode = .adminMode .managingDispute
  row : env.selectedDispute = some disputeId

/-! ## What was done on it -/

/-- The user pressed one of these keys. -/
def Pressed (keys : List Key) (since : List PopupEvent) : Prop :=
  ∃ env, ∃ k ∈ keys, .key env k ∈ since

/-- The user pressed Enter while the admin's list did not show the dispute as finalized. -/
def EnteredOpen (disputeId : Uuid) (since : List PopupEvent) : Prop :=
  ∃ env, .key env .enter ∈ since ∧ disputeIsFinalized env.adminDisputes disputeId = false

/-- The same where the instance has bonds. -/
def BondsOffered (disputeId : Uuid) (since : List PopupEvent) : Prop :=
  ∃ env, .key env .enter ∈ since ∧ disputeIsFinalized env.adminDisputes disputeId = false ∧
    env.bondUiEnabled = true

/-- The messages whose popup has NO selected. -/
def AsksFirst (action : Action) : Prop :=
  action = .cooperativeCancelInitiatedByPeer ∨ action = .buyerTookOrder

/-- The buttons of a message: a selection that it does not open with was made. -/
structure Buttons (action : Action) (since : List PopupEvent)
    (selection : ViewingMessageButtonSelection) : Prop where
  two : AsksFirst action → ∃ yes, selection = .two yes
  yes : AsksFirst action → selection = .two true → Pressed [.left] since
  cancel : selection = .three .cancel → Pressed [.left, .right] since

/-- The invariant of a popup on screen: what it was opened for, and what has been chosen since. -/
def Confirms (s : PopupState) (opening : PopupEvent) (since : List PopupEvent) :
    ConfirmPopup → Prop
  | .viewingMessage view => ∃ env k, opening = .key env k ∧
      SelectedFor s env k view.orderId view.action ∧ Buttons view.action since view.buttonSelection
  | .ratingOrder rating => ∃ env k, opening = .key env k ∧ RatedFor s env k rating.orderId ∧
      1 ≤ rating.selectedRating ∧ rating.selectedRating ≤ 5
  | .reviewingDispute disputeId _ bond submenuOpen _ => ∃ env k, opening = .key env k ∧
      ReviewedFor s env k disputeId ∧
      (bond ≠ .none ∨ submenuOpen = true → BondsOffered disputeId since)
  | .confirmFinalizeDispute disputeId _ bond _ => ∃ env k, opening = .key env k ∧
      ReviewedFor s env k disputeId ∧ (bond ≠ .none → BondsOffered disputeId since) ∧
      EnteredOpen disputeId since

section
variable {s : PopupState} {opening : PopupEvent} {since : List PopupEvent} {a : PopupEvent}

theorem Pressed.append {keys : List Key} (h : Pressed keys since) : Pressed keys (since ++ [a]) := by
  obtain ⟨env, k, hk, hmem⟩ := h
  exact ⟨env, k, hk, List.mem_append_left _ hmem⟩

theorem Pressed.last {keys : List Key} {env : KeyEnv} {k : Key} (hk : k ∈ keys) :
    Pressed keys (since ++ [.key env k]) :=
  ⟨env, k, hk, List.mem_append_right _ (List.mem_singleton_self _)⟩

theorem EnteredOpen.append {disputeId : Uuid} (h : EnteredOpen disputeId since) :
    EnteredOpen disputeId (since ++ [a]) := by
  obtain ⟨env, hmem, hopen⟩ := h
  exact ⟨env, List.mem_append_left _ hmem, hopen⟩

theorem EnteredOpen.last {disputeId : Uuid} {env : KeyEnv}
    (h : disputeIsFinalized env.adminDisputes disputeId = false) :
    EnteredOpen disputeId (since ++ [.key env .enter]) :=
  ⟨env, List.mem_append_right _ (List.mem_singleton_self _), h⟩

theorem BondsOffered.append {disputeId : Uuid} (h : BondsOffered disputeId since) :
    BondsOffered disputeId (since ++ [a]) := by
  obtain ⟨env, hmem, hrest⟩ := h
  exact ⟨env, List.mem_append_left _ hmem, hrest⟩

theorem BondsOffered.last {disputeId : Uuid} {env : KeyEnv}
    (h : disputeIsFinalized env.adminDisputes disputeId = false) (hbonds : env.bondUiEnabled = true) :
    BondsOffered disputeId (since ++ [.key env .enter]) :=
  ⟨env, List.mem_append_right _ (List.mem_singleton_self _), h, hbonds⟩

theorem Buttons.append {action : Action} {selection : ViewingMessageButtonSelection}
    (h : Buttons action since selection) : Buttons action (since ++ [a]) selection :=
  ⟨h.two, fun hasks hyes => (h.yes hasks hyes).append, fun hcancel => (h.cancel hcancel).append⟩

/-- What happens behind a popup does not change what it says. -/
theorem Confirms.append {p : ConfirmPopup} (h : Confirms s opening since p) :
    Confirms s opening (since ++ [a]) p := by
  cases p with
  | viewingMessage view =>
    obtain ⟨env, k, he, hsel, hbuttons⟩ := h
    exact ⟨env, k, he, hsel, hbuttons.append⟩
  | ratingOrder rating => exact h
  | reviewingDispute disputeId button bond submenuOpen submenuIndex =>
    obtain ⟨env, k, he, hsel, hbond⟩ := h
    exact ⟨env, k, he, hsel, fun hne => (hbond hne).append⟩
  | confirmFinalizeDispute disputeId isSettle bond selectedButton =>
    obtain ⟨env, k, he, hsel, hbond, hopen⟩ := h
    exact ⟨env, k, he, hsel, fun hne => (hbond hne).append, hopen.append⟩

/-! ## Opening -/

theorem shortcut_opens {mode : UiMode} {selected : Option (Uuid × Option Status)} {action : Action}
    {label : String} {p : ConfirmPopup}
    (h : tradeActionShortcutNextMode mode selected action label = some (.inl p)) :
    ∃ id status, mode.userMyTradesInteractive = true ∧ selected = some (id, status) ∧
      isTerminalOrderStatus status = false ∧
      p = .viewingMessage (buildOrderActionViewState id action) := by
  unfold tradeActionShortcutNextMode at h
  split at h
  · cases h
  · next hmode =>
    cases selected with
    | none => cases h
    | some row =>
      obtain ⟨id, status⟩ := row
      dsimp only at h
      split at h
      · cases h
      · next hopen =>
        cases h
        exact ⟨id, status, by simpa using hmode, rfl, by simpa using hopen, rfl⟩

theorem dispute_opens {mode : UiMode} {selected : Option (Uuid × Option Status)} {p : ConfirmPopup}
    (h : disputeShortcutNextMode mode selected = some (.inl p)) :
    ∃ id status, mode.userMyTradesInteractive = true ∧ selected = some (id, status) ∧
      canDisputeOrderStatus status = true ∧
      p = .viewingMessage (buildOrderActionViewState id .dispute) := by
  unfold disputeShortcutNextMode at h
  split at h
  · cases h
  · next hmode =>
    cases selected with
    | none => cases h
    | some row =>
      obtain ⟨id, status⟩ := row
      dsimp only at h
      split at h
      · cases h
      · split at h
        · cases h
        · next hstatus =>
          cases h
          exact ⟨id, status, by simpa using hmode, rfl, by simpa using hstatus, rfl⟩

/-- The buttons that a popup opens with. -/
theorem buttons_initial (action : Action) : Buttons action [] (initialSelection action) := by
  unfold initialSelection
  refine ⟨fun hasks => ?_, fun hasks hyes => ?_, fun hcancel => ?_⟩
  · rcases hasks with rfl | rfl
    · exact ⟨false, by simp⟩
    · exact ⟨false, by simp⟩
  · rcases hasks with rfl | rfl
    · simp at hyes
    · simp at hyes
  · split_ifs at hcancel; all_goals cases hcancel

theorem buttons_two {action : Action} (h : ¬ AsksFirst action) (yes : Bool) :
    Buttons action [] (.two yes) :=
  ⟨fun hasks => absurd hasks h, fun hasks => absurd hasks h, fun hcancel => nomatch hcancel⟩

theorem not_asksFirst_of_shortcut {k : Key} {action : Action} {label : String}
    (h : shortcutAction k = some (action, label)) : ¬ AsksFirst action := by
  rintro (rfl | rfl)
  · cases k <;> cases h
  · cases k <;> cases h

/-- A shortcut of My Trades opens a popup for the trade that is selected. -/
theorem confirms_shortcut {env : KeyEnv} {k : Key} {action : Action} {label : String}
    {p : ConfirmPopup} (htab : s.app.activeTab = .myTrades)
    (hkey : shortcutAction k = some (action, label))
    (h : tradeActionShortcutNextMode s.app.mode env.selectedTrade action label = some (.inl p)) :
    Confirms s (.key env k) [] p := by
  obtain ⟨id, status, hmode, hrow, hopen, rfl⟩ := shortcut_opens h
  exact ⟨env, k, rfl, .trade htab hmode hrow hkey hopen,
    buttons_two (not_asksFirst_of_shortcut hkey) true⟩

/-- Enter on a message opens a popup for it. -/
theorem confirms_message {env : KeyEnv} {msg : OrderMessage} {p : ConfirmPopup}
    (htab : s.app.activeTab = .messages)
    (hrow : selectedMessage s.app env.selectedMessageIdx = some msg)
    (h : messagePopup msg = some p) : Confirms s (.key env .enter) [] p := by
  unfold messagePopup at h
  split at h
  · next haction =>
    cases h
    exact ⟨env, .enter, rfl, .message htab hrow haction, buttons_initial _⟩
  · split at h
    · next haction =>
      obtain ⟨id, hid, rfl⟩ := Option.map_eq_some_iff.1 h
      exact ⟨env, .enter, rfl, .message htab hrow haction hid, by simp, by simp⟩
    · cases h

/-- Enter on one's own order of the book opens a popup for it. -/
theorem confirms_bookOrder {env : KeyEnv} {p : ConfirmPopup} (htab : s.app.activeTab = .orders)
    (h : bookOrderPopup s.app env = some p) : Confirms s (.key env .enter) [] p := by
  obtain ⟨order, hrow, hrest⟩ := Option.bind_eq_some_iff.1 h
  obtain ⟨id, hfilter, hp⟩ := Option.bind_eq_some_iff.1 hrest
  obtain ⟨hid, hmine⟩ := Option.filter_eq_some_iff.1 hfilter
  cases hp
  exact ⟨env, .enter, rfl, .bookOrder htab hrow hid hmine,
    buttons_two (by simp [AsksFirst, buildOrderActionViewState]) true⟩

/-- A key opens a popup for the row that is selected. -/
theorem confirms_openedBy {env : KeyEnv} {k : Key} {p : ConfirmPopup}
    (h : openedBy s env k = some (.inl p)) : Confirms s (.key env k) [] p := by
  unfold openedBy at h
  split at h
  · split at h
    · cases h
    · split at h
      · next htab =>
        obtain ⟨q, hq, hp⟩ := Option.map_eq_some_iff.1 h
        cases hp
        exact confirms_bookOrder htab hq
      · split at h
        · next htab =>
          obtain ⟨msg, hrow, hmsg⟩ := Option.bind_eq_some_iff.1 h
          obtain ⟨q, hq, hp⟩ := Option.map_eq_some_iff.1 hmsg
          cases hp
          exact confirms_message htab hrow hq
        · cases h
  · split at h
    · next htab =>
      obtain ⟨⟨id, status⟩, hrow, hp⟩ := Option.map_eq_some_iff.1 h
      cases hp
      exact ⟨env, .shiftV, rfl, .trade htab hrow, by simp, by simp⟩
    · cases h
  · split at h
    · next htab =>
      obtain ⟨id, status, hmode, hrow, hstatus, rfl⟩ := dispute_opens h
      exact ⟨env, .shiftD, rfl, .dispute htab.1 hmode hrow hstatus,
        buttons_two (by simp [AsksFirst, buildOrderActionViewState]) true⟩
    · cases h
  · split at h
    · next htab =>
      split at h
      · next hmode =>
        obtain ⟨id, hrow, hp⟩ := Option.map_eq_some_iff.1 h
        cases hp
        refine ⟨env, .shiftF, rfl, ⟨rfl, htab, hmode.2, hrow⟩, ?_⟩
        rintro (hbond | hopen)
        · exact absurd rfl hbond
        · cases hopen
      · cases h
    · split at h
      · next htab => exact confirms_shortcut htab.1 (by rfl) h
      · cases h
  · split at h
    · next htab =>
      obtain ⟨⟨action, label⟩, hkey, hp⟩ := Option.bind_eq_some_iff.1 h
      exact confirms_shortcut htab.1 hkey hp
    · cases h

/-! ## Handling -/

/-- Left and right choose between the buttons of a message. -/
theorem Buttons.move {action : Action} {selection : ViewingMessageButtonSelection} (env : KeyEnv)
    (k : Key) (h : Buttons action since selection) :
    Buttons action (since ++ [.key env k]) (moveSelection k selection) := by
  cases selection with
  | two yes =>
    rw [moveSelection]
    split
    · next hk =>
      exact ⟨fun _ => ⟨true, rfl⟩, fun _ _ => .last (List.mem_singleton.2 hk),
        fun hcancel => nomatch hcancel⟩
    · split
      · exact ⟨fun _ => ⟨false, rfl⟩, fun _ hyes => (nomatch hyes),
          fun hcancel => nomatch hcancel⟩
      · exact h.append
  | three selected =>
    have hnot : ¬ AsksFirst action := fun hasks => by
      obtain ⟨yes, hyes⟩ := h.two hasks
      cases hyes
    have hmoved : ∀ moved, Pressed [.left, .right] (since ++ [.key env k]) →
        Buttons action (since ++ [.key env k]) (.three moved) := fun moved hpressed =>
      ⟨fun hasks => absurd hasks hnot, fun hasks => absurd hasks hnot, fun _ => hpressed⟩
    rw [moveSelection]
    split
    · next hk => exact hmoved _ (.last (by simp [hk]))
    · split
      · next hk => exact hmoved _ (.last (by simp [hk]))
      · exact h.append

/-- The keys that move a selection. -/
theorem Confirms.move {p : ConfirmPopup} (env : KeyEnv) (k : Key)
    (h : Confirms s opening since p) :
    Confirms s opening (since ++ [.key env k]) (movePopup env k p) := by
  cases p with
  | viewingMessage view =>
    obtain ⟨env', k', he, hsel, hbuttons⟩ := h
    exact ⟨env', k', he, hsel, hbuttons.move env k⟩
  | ratingOrder rating =>
    obtain ⟨env', k', he, hsel, hlow, hhigh⟩ := h
    refine ⟨env', k', he, hsel, ?_⟩
    show 1 ≤ moveRating k rating.selectedRating ∧ moveRating k rating.selectedRating ≤ 5
    cases k <;> simp only [moveRating] <;> omega
  | reviewingDispute disputeId button bond submenuOpen submenuIndex =>
    have happend := h.append (a := .key env k)
    unfold movePopup
    dsimp only
    split
    · next hopen =>
      subst hopen
      split
      · exact happend
      · exact happend
    · next hclosed =>
      rw [Bool.not_eq_true] at hclosed
      subst hclosed
      split
      · exact happend
      · exact happend
  | confirmFinalizeDispute disputeId isSettle bond selectedButton =>
    have happend := h.append (a := .key env k)
    unfold movePopup
    dsimp only
    split
    · exact happend
    · split
      · exact happend
      · exact happend

/-- Esc goes back a step, or leaves. -/
theorem Confirms.esc {p q : ConfirmPopup} {t : PopupState}
    (hq : (handleEscPopup t p).popup = some q) (h : Confirms s opening since p) :
    Confirms s opening (since ++ [a]) q := by
  cases p with
  | viewingMessage view => cases hq
  | ratingOrder rating => cases hq
  | reviewingDispute disputeId button bond submenuOpen submenuIndex =>
    unfold handleEscPopup at hq
    dsimp only at hq
    split at hq
    · next hopen =>
      subst hopen
      cases hq
      obtain ⟨env, k, he, hsel, hbond⟩ := h
      exact ⟨env, k, he, hsel, fun _ => (hbond (.inr rfl)).append⟩
    · cases hq
  | confirmFinalizeDispute disputeId isSettle bond selectedButton =>
    cases hq
    obtain ⟨env, k, he, hsel, hbond, -⟩ := h
    refine ⟨env, k, he, hsel, ?_⟩
    rintro (hne | hopen)
    · exact (hbond hne).append
    · cases hopen

/-- Enter on a message or on a rating closes it. -/
theorem handleEnterViewingMessage_popup (t : PopupState) (view : MessageViewState) :
    (handleEnterViewingMessage t view).popup = none := by
  unfold handleEnterViewingMessage
  dsimp only
  split
  · rfl
  · split
    · split <;> rfl
    · split
      · rfl
      · split <;> rfl

theorem executeFinalizeDisputeAction_popup (t : PopupState) (env : KeyEnv) (disputeId : Uuid)
    (isSettle : Bool) (bond : BondSlashChoice) :
    (executeFinalizeDisputeAction t env disputeId isSettle bond).popup = none := by
  unfold executeFinalizeDisputeAction
  split
  · rfl
  · dsimp only
    split <;> rfl

/-- Enter on the review: the submenu is opened where the instance has bonds, and a party is chosen
only of a dispute that is not finalized. -/
theorem Confirms.enterReviewing {t : PopupState} {env : KeyEnv} {disputeId : Uuid}
    {button : Nat} {bond : BondSlashChoice} {submenuOpen : Bool} {submenuIndex : Nat}
    {q : ConfirmPopup}
    (hq : (handleEnterReviewing t env disputeId button bond submenuOpen submenuIndex).popup =
      some q)
    (h : Confirms s opening since (.reviewingDispute disputeId button bond submenuOpen submenuIndex)) :
    Confirms s opening (since ++ [.key env .enter]) q := by
  obtain ⟨env', k, he, hsel, hbond⟩ := h
  unfold handleEnterReviewing at hq
  split at hq
  · next hopen =>
    cases hq
    exact ⟨env', k, he, hsel, fun _ => (hbond (.inr hopen)).append⟩
  · have hkept : bond ≠ .none → BondsOffered disputeId (since ++ [.key env .enter]) :=
      fun hne => (hbond (.inl hne)).append
    dsimp only at hq
    split at hq
    · next hbutton =>
      split at hq
      · cases hq
      · next hnot =>
        cases hq
        have hbonds : env.bondUiEnabled = true := by
          unfold FinalizeDisputePopupButton.fromIndex at hbutton
          split at hbutton
          · cases hbutton
          · cases hbutton
          · split at hbutton
            · assumption
            · cases hbutton
          · cases hbutton
        exact ⟨env', k, he, hsel, fun _ => .last (Bool.not_eq_true _ ▸ hnot) hbonds⟩
    · split at hq
      · cases hq
      · next hnot =>
        cases hq
        exact ⟨env', k, he, hsel, hkept, .last (Bool.not_eq_true _ ▸ hnot)⟩
    · cases hq

theorem Confirms.enter {t : PopupState} {env : KeyEnv} {p q : ConfirmPopup}
    (hq : (handleEnterPopup t env p).popup = some q) (h : Confirms s opening since p) :
    Confirms s opening (since ++ [.key env .enter]) q := by
  cases p with
  | viewingMessage view =>
    rw [handleEnterPopup, handleEnterViewingMessage_popup] at hq
    cases hq
  | ratingOrder rating => cases hq
  | reviewingDispute disputeId button bond submenuOpen submenuIndex => exact h.enterReviewing hq
  | confirmFinalizeDispute disputeId isSettle bond selectedButton =>
    unfold handleEnterPopup at hq
    dsimp only at hq
    split at hq
    · rw [executeFinalizeDisputeAction_popup] at hq
      cases hq
    · cases hq
      obtain ⟨env', k, he, hsel, hbond, -⟩ := h
      refine ⟨env', k, he, hsel, ?_⟩
      rintro (hne | hopen)
      · exact (hbond hne).append
      · cases hopen

/-! ## One event -/

/-- A popup after a key: one that the key opened, or the one that was there, handled. -/
theorem handleKey_popup {env : KeyEnv} {k : Key} {p : ConfirmPopup}
    (h : (handleKey s env k).popup = some p) :
    openedBy s env k = some (.inl p) ∨ ∃ q, s.popup = some q ∧
      ((k = .enter ∧ (handleEnterPopup s env q).popup = some p) ∨
        (handleEscPopup s q).popup = some p ∨ p = movePopup env k q) := by
  unfold handleKey at h
  split at h
  · cases h
  · split at h
    · next r hopened =>
      cases h
      exact .inl hopened
    · cases h
    · split at h
      · next hnone =>
        rw [hnone] at h
        cases h
      · next q hq =>
        refine .inr ⟨q, hq, ?_⟩
        split at h
        · next hk => exact .inl ⟨hk, h⟩
        · split at h
          · exact .inr (.inl h)
          · cases h
            exact .inr (.inr rfl)

/-- A popup after an event: one that a key opened, or the one that was there, handled. -/
theorem confirms_next (s : PopupState) (a : PopupEvent) (p : ConfirmPopup)
    (h : (s.next a).popup = some p) : Confirms s a [] p ∨
      ∃ q, s.popup = some q ∧
        ∀ t b since, Confirms t b since q → Confirms t b (since ++ [a]) p := by
  have hafter : ∀ app, (s.after app).popup = some p → s.popup = some p := by
    intro app happ
    unfold PopupState.after at happ
    split at happ
    · cases happ
    · dsimp only at happ
      split at happ
      · exact happ
      · cases happ
  cases a with
  | key env k =>
    rcases handleKey_popup h with hopened | ⟨q, hq, ⟨rfl, henter⟩ | hesc | rfl⟩
    · exact .inl (confirms_openedBy hopened)
    · exact .inr ⟨q, hq, fun t b since hI => hI.enter henter⟩
    · exact .inr ⟨q, hq, fun t b since hI => hI.esc hesc⟩
    · exact .inr ⟨q, hq, fun t b since hI => hI.move env k⟩
  | result env r => exact .inr ⟨p, hafter _ h, fun t b since hI => hI.append⟩
  | notification env n => exact .inr ⟨p, hafter _ h, fun t b since hI => hI.append⟩
  | background app => exact .inr ⟨p, h, fun t b since hI => hI.append⟩
  | screen app => cases h

/-- What a popup asks for when Enter is pressed on it. -/
inductive Asks : ConfirmPopup → PopupRequest → Prop
  | sendMsg {view : MessageViewState} {orderId : Uuid} {action : Action}
      (hid : view.orderId = some orderId) (hyes : view.buttonSelection ≠ .two false)
      (haction : actionToSend view = some action) :
      Asks (.viewingMessage view) (.sendMsg orderId action view.action)
  | dispute {view : MessageViewState} {orderId : Uuid} (hid : view.orderId = some orderId)
      (hyes : view.buttonSelection ≠ .two false) (haction : view.action = .dispute) :
      Asks (.viewingMessage view) (.dispute orderId)
  | rateUser {rating : RatingOrderState} :
      Asks (.ratingOrder rating) (.rateUser rating.orderId rating.selectedRating)
  | finalizeDispute {disputeId : Uuid} {isSettle : Bool} {bond : BondSlashChoice} :
      Asks (.confirmFinalizeDispute disputeId isSettle bond true)
        (.finalizeDispute disputeId isSettle bond)

/-- Enter on a popup sends what the popup asks for, or nothing. -/
theorem handleEnterPopup_requests (t : PopupState) (env : KeyEnv) (p : ConfirmPopup) :
    (handleEnterPopup t env p).requests = t.requests ∨
      ∃ q, Asks p q ∧ (handleEnterPopup t env p).requests = t.requests ++ [q] := by
  cases p with
  | viewingMessage view =>
    unfold handleEnterPopup handleEnterViewingMessage
    dsimp only
    split
    · exact .inl rfl
    · next hyes =>
      have hnot : view.buttonSelection ≠ .two false := fun h => hyes (.inl h)
      split
      · next haction =>
        split
        · exact .inl rfl
        · next orderId hid => exact .inr ⟨_, .dispute hid hnot haction, rfl⟩
      · split
        · exact .inl rfl
        · next action haction =>
          split
          · exact .inl rfl
          · next orderId hid => exact .inr ⟨_, .sendMsg hid hnot haction, rfl⟩
  | ratingOrder rating => exact .inr ⟨_, .rateUser, rfl⟩
  | reviewingDispute disputeId button bond submenuOpen submenuIndex =>
    refine .inl ?_
    unfold handleEnterPopup handleEnterReviewing
    dsimp only
    split
    · rfl
    · split
      · split <;> rfl
      · split <;> rfl
      · rfl
  | confirmFinalizeDispute disputeId isSettle bond selectedButton =>
    unfold handleEnterPopup
    dsimp only
    split
    · next hyes =>
      subst hyes
      unfold executeFinalizeDisputeAction
      split
      · exact .inl rfl
      · dsimp only
        split
        · exact .inl rfl
        · exact .inr ⟨_, .finalizeDispute, rfl⟩
    · exact .inl rfl

/-- A request after an event: one that was there, or what the popup on screen asks for, by Enter. -/
theorem requests_next (s : PopupState) (a : PopupEvent) (q : PopupRequest)
    (h : q ∈ (s.next a).requests) : q ∈ s.requests ∨
      ∃ env p, a = .key env .enter ∧ s.popup = some p ∧ Asks p q := by
  have hafter : ∀ app, (s.after app).requests = s.requests := by
    intro app
    unfold PopupState.after
    split <;> rfl
  cases a with
  | key env k =>
    change q ∈ (handleKey s env k).requests at h
    unfold handleKey at h
    split at h
    · exact .inl h
    · split at h
      · exact .inl h
      · exact .inl h
      · split at h
        · exact .inl h
        · next p hp =>
          split at h
          · next hk =>
            subst hk
            rcases handleEnterPopup_requests s env p with hsame | ⟨r, hasks, hsent⟩
            · rw [hsame] at h
              exact .inl h
            · rw [hsent] at h
              rcases List.mem_append.1 h with hold | hnew
              · exact .inl hold
              · rw [List.mem_singleton.1 hnew]
                exact .inr ⟨env, p, rfl, hp, hasks⟩
          · split at h
            · refine .inl ?_
              unfold handleEscPopup at h
              split at h
              · exact h
              · exact h
              · split at h <;> exact h
              · exact h
            · exact .inl h
  | result env r =>
    change q ∈ (s.after _).requests at h
    rw [hafter] at h
    exact .inl h
  | notification env n =>
    change q ∈ (s.after _).requests at h
    rw [hafter] at h
    exact .inl h
  | background app => exact .inl h
  | screen app => exact .inl h

end

/-! ## Runs -/

/-- What may be sent for the action of a popup. -/
def Means (source action : Action) : Prop :=
  (source, action) ∈ [(Action.holdInvoicePaymentAccepted, Action.fiatSent),
    (.holdInvoicePaymentAccepted, .cancel), (.buyerTookOrder, .cancel), (.fiatSentOk, .release),
    (.cooperativeCancelInitiatedByPeer, .cancel), (.cancel, .cancel), (.fiatSent, .fiatSent),
    (.release, .release)]

/-- What a request rests on: the row that a key of the user opened its popup for, and what he has
chosen on the popup since. -/
inductive Meant (s : PopupState) (opening : PopupEvent) (since : List PopupEvent) :
    PopupRequest → Prop
  | sendMsg {env : KeyEnv} {k : Key} {orderId : Uuid} {action source : Action}
      (hkey : opening = .key env k) (hrow : SelectedFor s env k (some orderId) source)
      (hmeans : Means source action) (hyes : AsksFirst source → Pressed [.left] since)
      (hcancel : source = .holdInvoicePaymentAccepted → action = .cancel →
        Pressed [.left, .right] since) : Meant s opening since (.sendMsg orderId action source)
  | dispute {env : KeyEnv} {k : Key} {orderId : Uuid} (hkey : opening = .key env k)
      (hrow : SelectedFor s env k (some orderId) .dispute) :
      Meant s opening since (.dispute orderId)
  | rateUser {env : KeyEnv} {k : Key} {orderId : Uuid} {rating : Nat}
      (hkey : opening = .key env k) (hrow : RatedFor s env k orderId) (hlow : 1 ≤ rating)
      (hhigh : rating ≤ 5) : Meant s opening since (.rateUser orderId rating)
  | finalizeDispute {env : KeyEnv} {k : Key} {disputeId : Uuid} {isSettle : Bool}
      {bond : BondSlashChoice} (hkey : opening = .key env k)
      (hrow : ReviewedFor s env k disputeId) (hopen : EnteredOpen disputeId since)
      (hbond : bond ≠ .none → BondsOffered disputeId since) :
      Meant s opening since (.finalizeDispute disputeId isSettle bond)

theorem means_of_actionToSend {view : MessageViewState} {action : Action}
    (h : actionToSend view = some action) : Means view.action action := by
  obtain ⟨orderId, source, selection⟩ := view
  unfold actionToSend at h
  dsimp only at h ⊢
  split at h
  · split at h
    · cases h
      simp [Means]
    · cases h
      simp [Means]
    · split at h
      · cases h
        simp [Means]
      · cases h
  · cases h
    simp [Means]
  · cases h
    simp [Means]
  · cases h
    simp [Means]
  · cases h
    simp [Means]
  · cases h
    simp [Means]
  · cases h
    simp [Means]
  · cases h

/-- A message sent for a paid hold invoice that is a cancel was asked for with that button. -/
theorem selection_of_cancel {view : MessageViewState}
    (hsource : view.action = .holdInvoicePaymentAccepted)
    (h : actionToSend view = some .cancel) : view.buttonSelection = .three .cancel := by
  unfold actionToSend at h
  rw [hsource] at h
  dsimp only at h
  split at h
  · assumption
  · cases h
  · split at h
    · cases h
    · cases h

/-- What Enter asks for on a popup is what the popup was opened for. -/
theorem meant_of_asks {s : PopupState} {opening : PopupEvent} {since : List PopupEvent}
    {p : ConfirmPopup} {q : PopupRequest} (h : Confirms s opening since p) (hasks : Asks p q) :
    Meant s opening since q := by
  cases hasks with
  | sendMsg hid hyes haction =>
    rename_i view orderId action
    obtain ⟨env, k, hkey, hrow, hbuttons⟩ := h
    rw [hid] at hrow
    refine .sendMsg hkey hrow (means_of_actionToSend haction) (fun hfirst => ?_) ?_
    · obtain ⟨yes, hselection⟩ := hbuttons.two hfirst
      cases yes with
      | false => exact absurd hselection hyes
      | true => exact hbuttons.yes hfirst hselection
    · rintro hsource rfl
      exact hbuttons.cancel (selection_of_cancel hsource haction)
  | dispute hid hyes haction =>
    obtain ⟨env, k, hkey, hrow, -⟩ := h
    rw [hid, haction] at hrow
    exact .dispute hkey hrow
  | rateUser =>
    obtain ⟨env, k, hkey, hrow, hlow, hhigh⟩ := h
    exact .rateUser hkey hrow hlow hhigh
  | finalizeDispute =>
    obtain ⟨env, k, hkey, hrow, hbond, hopen⟩ := h
    exact .finalizeDispute hkey hrow hopen hbond

/-- A run from a screen without such a popup. -/
def popupRun (app : AppState) (events : List PopupEvent) : PopupState :=
  events.foldl PopupState.next { app := app }

/-- The Messages list of a user whose order was taken. -/
def takenApp : AppState where
  activeTab := .messages
  messages := [{
    message := { action := .buyerTookOrder }
    timestamp := 0
    sender := "mostro"
    orderId := some 3
    tradeIndex := 1 }]

/-- The user opens the message, moves to YES and presses Enter. -/
def cancelKeys : List PopupEvent := [.key {} .enter, .key {} .left, .key {} .enter]

end Mostrix.Ui
