import RabbitKit.LabelledRun
import RabbitKit.AsyncSettlement

/-! # Processing deadlines of the sync broker

A handler thread cannot be stopped, so when its deadline passes the owner thread settles the
delivery itself. `DeliveryClaim` decides under a lock which of the two settles: the first settlement
call of the handler claims the delivery for it, and the owner claims it before it settles. A claim
of the deadline can be handed back when the policy leaves the delivery to its handler.

Handler threads and the owner thread interleave at the lock sections and at the calls of the
transport.
-/

namespace RabbitKit

open LabelledRun List

inductive ClaimState
  | pending
  | handler
  | deadline
  deriving DecidableEq

inductive DeadlineEvent
  | handlerCall (settlement : Settlement)
  | deadlineClaim
  | deadlineCall (settlement : Settlement)
  | handBack
  deriving DecidableEq

/-- A settlement call on a handler thread, before and after it passed the guard. -/
inductive HandlerCall
  | entered (settlement : Settlement)
  | claimed (settlement : Settlement)
  deriving DecidableEq

/-- One delivery with its claim.  `calls` are the handler's settlement calls under way
and `log` is bookkeeping. -/
structure DeliveryClaim where
  state : ClaimState := .pending
  disposition : Disposition := .pending
  running : Bool := true
  calls : List HandlerCall := []
  log : List DeadlineEvent := []
  deriving DecidableEq

namespace DeliveryClaim

/-- The lock section of `guarded`, on the owner thread or on another one; `none` when
it raises `LateSettlementError`. -/
def guard (claim : DeliveryClaim) (onOwner : Bool) : Option DeliveryClaim :=
  match claim.state with
  | .pending => some { claim with state := .handler }
  | .deadline => if onOwner then some claim else none
  | .handler => some claim

/-- `claim_for_deadline`. -/
def claimForDeadline (claim : DeliveryClaim) : Option DeliveryClaim :=
  match claim.state with
  | .pending => some { claim with state := .deadline, log := claim.log ++ [.deadlineClaim] }
  | _ => none

/-- `hand_back`. -/
def handBack (claim : DeliveryClaim) : DeliveryClaim :=
  { claim with state := .handler, log := claim.log ++ [.handBack] }

/-- `expired`: the deadline holds the claim. -/
def expired (claim : DeliveryClaim) : Bool := claim.state = .deadline

/-- A settlement frame was handed to the transport. -/
def sent (claim : DeliveryClaim) (event : DeadlineEvent) (settlement : Settlement)
    (returned : Bool) : DeliveryClaim :=
  { claim with
    log := claim.log ++ [event]
    disposition := if returned then settlement.disposition else claim.disposition }

end DeliveryClaim

/-- Where the owner thread stands in `check`; `due` are the deliveries still to be looked at. -/
inductive OwnerPhase
  | idle
  | scanning (due : List Nat)
  | expiring (delivery : Nat) (due : List Nat)
  | guarding (delivery : Nat) (settlement : Settlement) (due : List Nat)
  | sending (delivery : Nat) (settlement : Settlement) (due : List Nat)
  | handingBack (delivery : Nat) (due : List Nat)
  deriving DecidableEq

structure SyncDeadlines where
  claims : List DeliveryClaim := []
  owner : OwnerPhase := .idle
  deriving DecidableEq

inductive DeadlineAction
  | begin
  | handlerEnters (delivery : Nat) (settlement : Settlement)
  | handlerGuards (delivery call : Nat)
  | handlerSends (delivery call : Nat) (returned : Bool)
  | finish (delivery : Nat)
  | check (due : List Nat)
  | claimDue
  | channelGone
  | expire (decision : Option Settlement)
  | ownerGuards
  | ownerSends (returned : Bool)
  | handBack
  deriving DecidableEq

namespace SyncDeadlines

def move (world : SyncDeadlines) (delivery : Nat) (claim : DeliveryClaim) : SyncDeadlines :=
  { world with claims := world.claims.set delivery claim }

/-- A settlement method of the message returns at once when the message is settled;
otherwise it goes through the guard to the transport.  `expire` is
`settle_expired_sync` with the decision of the failure policy: without one the
exception comes back and the claim is handed back. -/
def step (world : SyncDeadlines) : DeadlineAction → Option SyncDeadlines
  | .begin => some { world with claims := world.claims ++ [{}] }
  | .handlerEnters delivery settlement =>
    match world.claims[delivery]? with
    | some claim =>
      if claim.disposition = .pending then
        some (world.move delivery { claim with calls := claim.calls ++ [.entered settlement] })
      else some world
    | none => none
  | .handlerGuards delivery call =>
    match world.claims[delivery]? with
    | some claim =>
      match claim.calls[call]? with
      | some (.entered settlement) =>
        match claim.guard false with
        | some passed =>
          some (world.move delivery
            { passed with calls := claim.calls.set call (.claimed settlement) })
        | none =>
          some (world.move delivery { claim with calls := claim.calls.eraseIdx call })
      | _ => none
    | none => none
  | .handlerSends delivery call returned =>
    match world.claims[delivery]? with
    | some claim =>
      match claim.calls[call]? with
      | some (.claimed settlement) =>
        some (world.move delivery
          { claim.sent (.handlerCall settlement) settlement returned with
            calls := claim.calls.eraseIdx call })
      | _ => none
    | none => none
  | .finish delivery =>
    match world.claims[delivery]? with
    | some claim => some (world.move delivery { claim with running := false })
    | none => none
  | .check due =>
    match world.owner with
    | .idle =>
      if due.all fun delivery =>
          world.claims[delivery]?.any fun claim => claim.running && !claim.expired then
        some { world with owner := .scanning due }
      else none
    | _ => none
  | .claimDue =>
    match world.owner with
    | .scanning [] => some { world with owner := .idle }
    | .scanning (delivery :: due) =>
      match world.claims[delivery]?.bind (·.claimForDeadline) with
      | some claimed =>
        some { world.move delivery claimed with owner := .expiring delivery due }
      | none => some { world with owner := .scanning due }
    | _ => none
  | .channelGone =>
    match world.owner with
    | .expiring _ due => some { world with owner := .scanning due }
    | _ => none
  | .expire decision =>
    match world.owner with
    | .expiring delivery due =>
      match world.claims[delivery]?, decision with
      | some claim, some settlement =>
        if claim.disposition = .pending then
          some { world with owner := .guarding delivery settlement due }
        else some { world with owner := .scanning due }
      | some claim, none =>
        if claim.disposition = .pending then
          some { world with owner := .handingBack delivery due }
        else some { world with owner := .scanning due }
      | none, _ => none
    | _ => none
  | .ownerGuards =>
    match world.owner with
    | .guarding delivery settlement due =>
      match world.claims[delivery]?.bind (·.guard true) with
      | some passed =>
        some { world.move delivery passed with owner := .sending delivery settlement due }
      | none => some { world with owner := .scanning due }
    | _ => none
  | .ownerSends returned =>
    match world.owner with
    | .sending delivery settlement due =>
      match world.claims[delivery]? with
      | some claim =>
        some { world.move delivery
            (claim.sent (.deadlineCall settlement) settlement returned) with
          owner := .scanning due }
      | none => none
    | _ => none
  | .handBack =>
    match world.owner with
    | .handingBack delivery due =>
      match world.claims[delivery]? with
      | some claim =>
        some { world.move delivery claim.handBack with owner := .scanning due }
      | none => none
    | _ => none

inductive Transition (world : SyncDeadlines) : DeadlineAction → SyncDeadlines → Prop
  | begin : Transition world .begin { world with claims := world.claims ++ [{}] }
  | handlerEnters {delivery : Nat} {settlement : Settlement} {claim : DeliveryClaim}
      (found : world.claims[delivery]? = some claim) (unsettled : claim.disposition = .pending) :
      Transition world (.handlerEnters delivery settlement)
        (world.move delivery { claim with calls := claim.calls ++ [.entered settlement] })
  | handlerReturns {delivery : Nat} {settlement : Settlement} {claim : DeliveryClaim}
      (found : world.claims[delivery]? = some claim) (settled : claim.disposition ≠ .pending) :
      Transition world (.handlerEnters delivery settlement) world
  | handlerGuards {delivery call : Nat} {settlement : Settlement} {claim passed : DeliveryClaim}
      (found : world.claims[delivery]? = some claim)
      (entered : claim.calls[call]? = some (.entered settlement))
      (guarded : claim.guard false = some passed) :
      Transition world (.handlerGuards delivery call)
        (world.move delivery { passed with calls := claim.calls.set call (.claimed settlement) })
  | handlerRefused {delivery call : Nat} {settlement : Settlement} {claim : DeliveryClaim}
      (found : world.claims[delivery]? = some claim)
      (entered : claim.calls[call]? = some (.entered settlement))
      (late : claim.guard false = none) :
      Transition world (.handlerGuards delivery call)
        (world.move delivery { claim with calls := claim.calls.eraseIdx call })
  | handlerSends {delivery call : Nat} {returned : Bool} {settlement : Settlement}
      {claim : DeliveryClaim} (found : world.claims[delivery]? = some claim)
      (claimed : claim.calls[call]? = some (.claimed settlement)) :
      Transition world (.handlerSends delivery call returned)
        (world.move delivery
          { claim.sent (.handlerCall settlement) settlement returned with
            calls := claim.calls.eraseIdx call })
  | finish {delivery : Nat} {claim : DeliveryClaim}
      (found : world.claims[delivery]? = some claim) :
      Transition world (.finish delivery) (world.move delivery { claim with running := false })
  | check {due : List Nat} (idle : world.owner = .idle)
      (running : (due.all fun delivery =>
        world.claims[delivery]?.any fun claim => claim.running && !claim.expired) = true) :
      Transition world (.check due) { world with owner := .scanning due }
  | scanned (scanning : world.owner = .scanning []) :
      Transition world .claimDue { world with owner := .idle }
  | claimDue {delivery : Nat} {due : List Nat} {claim : DeliveryClaim}
      (scanning : world.owner = .scanning (delivery :: due))
      (found : world.claims[delivery]? = some claim) (unclaimed : claim.state = .pending) :
      Transition world .claimDue
        { world.move delivery
            { claim with state := .deadline, log := claim.log ++ [.deadlineClaim] } with
          owner := .expiring delivery due }
  | skipDue {delivery : Nat} {due : List Nat} (scanning : world.owner = .scanning (delivery :: due))
      (held : world.claims[delivery]?.bind (·.claimForDeadline) = none) :
      Transition world .claimDue { world with owner := .scanning due }
  | channelGone {delivery : Nat} {due : List Nat} (expiring : world.owner = .expiring delivery due)
    :
      Transition world .channelGone { world with owner := .scanning due }
  | expireSettles {delivery : Nat} {due : List Nat} {settlement : Settlement}
      {claim : DeliveryClaim} (expiring : world.owner = .expiring delivery due)
      (found : world.claims[delivery]? = some claim) (unsettled : claim.disposition = .pending) :
      Transition world (.expire (some settlement))
        { world with owner := .guarding delivery settlement due }
  | expireLeaves {delivery : Nat} {due : List Nat} {claim : DeliveryClaim}
      (expiring : world.owner = .expiring delivery due)
      (found : world.claims[delivery]? = some claim) (unsettled : claim.disposition = .pending) :
      Transition world (.expire none) { world with owner := .handingBack delivery due }
  | expireSettled {delivery : Nat} {due : List Nat} {decision : Option Settlement}
      {claim : DeliveryClaim} (expiring : world.owner = .expiring delivery due)
      (found : world.claims[delivery]? = some claim) (settled : claim.disposition ≠ .pending) :
      Transition world (.expire decision) { world with owner := .scanning due }
  | ownerGuards {delivery : Nat} {due : List Nat} {settlement : Settlement}
      {claim passed : DeliveryClaim} (guarding : world.owner = .guarding delivery settlement due)
      (found : world.claims[delivery]? = some claim) (guarded : claim.guard true = some passed) :
      Transition world .ownerGuards
        { world.move delivery passed with owner := .sending delivery settlement due }
  | ownerRefused {delivery : Nat} {due : List Nat} {settlement : Settlement}
      (guarding : world.owner = .guarding delivery settlement due)
      (refused : world.claims[delivery]?.bind (·.guard true) = none) :
      Transition world .ownerGuards { world with owner := .scanning due }
  | ownerSends {delivery : Nat} {due : List Nat} {settlement : Settlement} {returned : Bool}
      {claim : DeliveryClaim} (sending : world.owner = .sending delivery settlement due)
      (found : world.claims[delivery]? = some claim) :
      Transition world (.ownerSends returned)
        { world.move delivery (claim.sent (.deadlineCall settlement) settlement returned) with
          owner := .scanning due }
  | handBack {delivery : Nat} {due : List Nat} {claim : DeliveryClaim}
      (handingBack : world.owner = .handingBack delivery due)
      (found : world.claims[delivery]? = some claim) :
      Transition world .handBack
        { world.move delivery claim.handBack with owner := .scanning due }

/-- The log of a delivery by the holder of its claim; only the handler's claim, or one
handed back, lets a call of the handler through. -/
def Consistent (claim : DeliveryClaim) : Prop :=
  match claim.state with
  | .pending => claim.log = [] ∧ ∀ settlement, .claimed settlement ∉ claim.calls
  | .deadline => (∃ sent : List Settlement, claim.log = .deadlineClaim :: sent.map .deadlineCall) ∧
      ∀ settlement, .claimed settlement ∉ claim.calls
  | .handler => ∃ sent : List Settlement, claim.log = sent.map .handlerCall ∨
      claim.log = .deadlineClaim :: .handBack :: sent.map .handlerCall

/-- The delivery the owner is settling: claimed, and no call has been made for it. -/
def Held (world : SyncDeadlines) (delivery : Nat) : Prop :=
  ∃ claim, world.claims[delivery]? = some claim ∧ claim.state = .deadline ∧
    claim.log = [.deadlineClaim]

def Settling (world : SyncDeadlines) : Prop :=
  match world.owner with
  | .expiring delivery _ | .guarding delivery _ _ | .sending delivery _ _
  | .handingBack delivery _ => world.Held delivery
  | _ => True

structure Exclusive (world : SyncDeadlines) : Prop where
  consistent : ∀ claim ∈ world.claims, Consistent claim
  settling : world.Settling

variable {world world' : SyncDeadlines} {action : DeadlineAction} {delivery : Nat}
  {claim moved : DeliveryClaim}

theorem transition_of_step (taken : world.step action = some world') :
    Transition world action world' := by
  cases action <;> simp only [step] at taken
  case begin =>
      cases taken
      exact .begin
  case handlerEnters =>
      split at taken
      next found =>
        split at taken
        next unsettled =>
          cases taken
          exact .handlerEnters found unsettled
        next settled =>
          cases taken
          exact .handlerReturns found settled
      · cases taken
  case handlerGuards =>
      split at taken
      next found =>
        split at taken
        next entered =>
          split at taken
          next guarded =>
            cases taken
            exact .handlerGuards found entered guarded
          next late =>
            cases taken
            exact .handlerRefused found entered late
        · cases taken
      · cases taken
  case handlerSends =>
      split at taken
      next found =>
        split at taken
        next claimed =>
          cases taken
          exact .handlerSends found claimed
        · cases taken
      · cases taken
  case finish =>
      split at taken
      next found =>
        cases taken
        exact .finish found
      · cases taken
  case check =>
      split at taken
      next idle =>
        split at taken
        next running =>
          cases taken
          exact .check idle running
        · cases taken
      · cases taken
  case claimDue =>
      split at taken
      next scanning =>
        cases taken
        exact .scanned scanning
      next delivery due scanning =>
        split at taken
        next claimed success =>
          cases taken
          obtain ⟨claim, found, claims⟩ := Option.bind_eq_some_iff.mp success
          unfold DeliveryClaim.claimForDeadline at claims
          split at claims
          next unclaimed =>
            cases claims
            exact .claimDue scanning found unclaimed
          · cases claims
        next held =>
          cases taken
          exact .skipDue scanning held
      · cases taken
  case channelGone =>
      split at taken
      next expiring =>
        cases taken
        exact .channelGone expiring
      · cases taken
  case expire =>
      split at taken
      next expiring =>
        split at taken
        next found =>
          split at taken
          next unsettled =>
            cases taken
            exact .expireSettles expiring found unsettled
          next settled =>
            cases taken
            exact .expireSettled expiring found settled
        next found =>
          split at taken
          next unsettled =>
            cases taken
            exact .expireLeaves expiring found unsettled
          next settled =>
            cases taken
            exact .expireSettled expiring found settled
        · cases taken
      · cases taken
  case ownerGuards =>
      split at taken
      next guarding =>
        split at taken
        next passed success =>
          cases taken
          obtain ⟨claim, found, guarded⟩ := Option.bind_eq_some_iff.mp success
          exact .ownerGuards guarding found guarded
        next refused =>
          cases taken
          exact .ownerRefused guarding refused
      · cases taken
  case ownerSends =>
      split at taken
      next sending =>
        split at taken
        next found =>
          cases taken
          exact .ownerSends sending found
        · cases taken
      · cases taken
  case handBack =>
      split at taken
      next handingBack =>
        split at taken
        next found =>
          cases taken
          exact .handBack handingBack found
        · cases taken
      · cases taken

theorem consistent_move (inv : world.Exclusive) (delivery : Nat) (after : Consistent moved) :
    ∀ present ∈ (world.move delivery moved).claims, Consistent present := by
  intro present member
  rcases mem_or_eq_of_mem_set member with old | rfl
  · exact inv.consistent present old
  · exact after

theorem Settling.mono (settling : world.Settling) (owner : world'.owner = world.owner)
    (held : ∀ target, world.Held target → world'.Held target) : world'.Settling := by
  unfold Settling at settling ⊢
  rw [owner]
  split at settling
  case h_5 => trivial
  all_goals exact held _ settling

theorem settling_move (inv : world.Exclusive) (found : world.claims[delivery]? = some claim)
    (kept : claim.state = .deadline → moved.state = .deadline ∧ moved.log = claim.log) :
    (world.move delivery moved).Settling := by
  refine inv.settling.mono rfl ?_
  rintro target ⟨present, located, state, log⟩
  rcases getElem?_moved moved found located with ⟨rfl, after⟩ | after
  · exact ⟨moved, after, (kept state).1, (kept state).2.trans log⟩
  · exact ⟨present, after, state, log⟩

theorem Exclusive.moveHandler (inv : world.Exclusive)
    (found : world.claims[delivery]? = some claim) (after : Consistent moved)
    (kept : claim.state = .deadline → moved.state = .deadline ∧ moved.log = claim.log) :
    (world.move delivery moved).Exclusive :=
  ⟨consistent_move inv delivery after, settling_move inv found kept⟩

variable {settlement : Settlement}

theorem not_claimed_append {calls : List HandlerCall} (none : ∀ other, .claimed other ∉ calls) :
    ∀ other, HandlerCall.claimed other ∉ calls ++ [.entered settlement] := by
  intro other member
  rcases mem_append.mp member with old | new
  · exact none other old
  · cases mem_singleton.mp new

theorem consistent_enter (settlement : Settlement) (consistent : Consistent claim) :
    Consistent { claim with calls := claim.calls ++ [.entered settlement] } := by
  unfold Consistent at consistent ⊢
  cases state : claim.state <;> simp only [state] at consistent ⊢
  · exact ⟨consistent.1, not_claimed_append consistent.2⟩
  · exact consistent
  · exact ⟨consistent.1, not_claimed_append consistent.2⟩

variable {passed : DeliveryClaim}

theorem consistent_guard (calls : List HandlerCall)
    (consistent : Consistent claim) (guarded : claim.guard false = some passed) :
    Consistent { passed with calls := calls } ∧ claim.state ≠ .deadline := by
  unfold DeliveryClaim.guard at guarded
  unfold Consistent at consistent
  cases state : claim.state <;> simp only [state] at guarded consistent
  · cases guarded
    exact ⟨⟨[], .inl consistent.1⟩, by simp⟩
  · cases guarded
    refine ⟨?_, by simp⟩
    simp only [state]
    exact consistent
  · cases guarded

variable {call : Nat}

theorem consistent_late (consistent : Consistent claim) :
    Consistent { claim with calls := claim.calls.eraseIdx call } := by
  unfold Consistent at consistent ⊢
  cases state : claim.state <;> simp only [state] at consistent ⊢
  · exact ⟨consistent.1, fun other member => consistent.2 other (mem_of_mem_eraseIdx member)⟩
  · exact consistent
  · exact ⟨consistent.1, fun other member => consistent.2 other (mem_of_mem_eraseIdx member)⟩

theorem consistent_send (returned : Bool)
    (consistent : Consistent claim) (found : claim.calls[call]? = some (.claimed settlement)) :
    Consistent { claim.sent (.handlerCall settlement) settlement returned with
      calls := claim.calls.eraseIdx call } ∧ claim.state ≠ .deadline := by
  have member := mem_of_getElem? found
  unfold Consistent at consistent ⊢
  cases state : claim.state <;> simp only [state] at consistent
  · exact absurd member (consistent.2 settlement)
  · refine ⟨?_, by simp⟩
    simp only [DeliveryClaim.sent, state]
    obtain ⟨sent, shape⟩ := consistent
    refine ⟨sent ++ [settlement], ?_⟩
    rcases shape with log | log <;> simp [log]
  · exact absurd member (consistent.2 settlement)

theorem Held.of_found (held : world.Held delivery) (found : world.claims[delivery]? = some claim) :
    claim.state = .deadline ∧ claim.log = [.deadlineClaim] := by
  obtain ⟨present, located, state, log⟩ := held
  cases found.symm.trans located
  exact ⟨state, log⟩

theorem held_move (found : world.claims[delivery]? = some claim) (state : moved.state = .deadline)
    (log : moved.log = [.deadlineClaim]) : (world.move delivery moved).Held delivery := by
  have inBounds := (List.getElem?_eq_some_iff.mp found).1
  exact ⟨moved, by simp [move, inBounds], state, log⟩

theorem Exclusive.begin (inv : world.Exclusive) :
    ({ world with claims := world.claims ++ [{}] } : SyncDeadlines).Exclusive := by
  refine ⟨?_, ?_⟩
  · intro claim member
    rcases mem_append.mp member with old | new
    · exact inv.consistent claim old
    · cases mem_singleton.mp new
      exact ⟨rfl, by simp⟩
  · refine inv.settling.mono rfl ?_
    rintro target ⟨claim, found, rest⟩
    have inBounds := (List.getElem?_eq_some_iff.mp found).1
    exact ⟨claim, (List.getElem?_append_left inBounds).trans found, rest⟩

variable {due : List Nat}

section

variable (inv : world.Exclusive)
include inv

theorem Exclusive.claimDue
    (found : world.claims[delivery]? = some claim) (unclaimed : claim.state = .pending) :
    ({ world.move delivery
        { claim with state := .deadline, log := claim.log ++ [.deadlineClaim] } with
      owner := .expiring delivery due } : SyncDeadlines).Exclusive := by
  have consistent := inv.consistent claim (mem_of_getElem? found)
  unfold Consistent at consistent
  simp only [unclaimed] at consistent
  have log : claim.log ++ [.deadlineClaim] = [.deadlineClaim] := by simp [consistent.1]
  refine ⟨consistent_move inv delivery ⟨⟨[], log⟩, consistent.2⟩, ?_⟩
  exact held_move found rfl log

section

variable (held : world.Held delivery) (found : world.claims[delivery]? = some claim)
include held found

theorem Exclusive.ownerGuards (guarded : claim.guard true = some passed) :
    ({ world.move delivery passed with
      owner := .sending delivery settlement due } : SyncDeadlines).Exclusive := by
  obtain ⟨state, log⟩ := held.of_found found
  have same : passed = claim := by simpa [DeliveryClaim.guard, state, eq_comm] using guarded
  subst same
  refine ⟨consistent_move inv delivery (inv.consistent _ (mem_of_getElem? found)), ?_⟩
  exact held_move found state log

theorem Exclusive.ownerSends {returned : Bool} :
    ({ world.move delivery (claim.sent (.deadlineCall settlement) settlement returned) with
      owner := .scanning due } : SyncDeadlines).Exclusive := by
  obtain ⟨state, log⟩ := held.of_found found
  have consistent := inv.consistent claim (mem_of_getElem? found)
  unfold Consistent at consistent
  simp only [state] at consistent
  refine ⟨consistent_move inv delivery ?_, trivial⟩
  simp only [DeliveryClaim.sent, state]
  exact ⟨⟨[settlement], by simp [log]⟩, consistent.2⟩

theorem Exclusive.handBack :
    ({ world.move delivery claim.handBack with owner := .scanning due } : SyncDeadlines).Exclusive
    := by
  obtain ⟨state, log⟩ := held.of_found found
  refine ⟨consistent_move inv delivery ⟨[], .inr ?_⟩, trivial⟩
  simp [DeliveryClaim.handBack, log]

end

theorem Exclusive.step (taken : world.step action = some world') : world'.Exclusive := by
  have settling := inv.settling
  unfold Settling at settling
  cases transition_of_step taken with
  | begin => exact inv.begin
  | @handlerEnters delivery settlement claim found unsettled =>
    have consistent := inv.consistent claim (mem_of_getElem? found)
    exact inv.moveHandler found (consistent_enter settlement consistent) fun state => ⟨state, rfl⟩
  | handlerReturns => exact inv
  | @handlerGuards delivery call settlement claim passed found entered guarded =>
    have consistent := inv.consistent claim (mem_of_getElem? found)
    obtain ⟨after, free⟩ := consistent_guard _ consistent guarded
    exact inv.moveHandler found after fun state => absurd state free
  | @handlerRefused delivery call settlement claim found entered late =>
    have consistent := inv.consistent claim (mem_of_getElem? found)
    exact inv.moveHandler found (consistent_late consistent) fun state => ⟨state, rfl⟩
  | @handlerSends delivery call returned settlement claim found claimed =>
    have consistent := inv.consistent claim (mem_of_getElem? found)
    obtain ⟨after, free⟩ := consistent_send returned consistent claimed
    exact inv.moveHandler found after fun state => absurd state free
  | @finish delivery claim found =>
    exact inv.moveHandler found (inv.consistent claim (mem_of_getElem? found))
      fun state => ⟨state, rfl⟩
  | claimDue _ found unclaimed => exact inv.claimDue found unclaimed
  | check | scanned | skipDue | channelGone | expireSettled | ownerRefused =>
    exact ⟨inv.consistent, trivial⟩
  | expireSettles expiring | expireLeaves expiring =>
    rw [expiring] at settling
    exact ⟨inv.consistent, settling⟩
  | ownerGuards guarding found guarded =>
    rw [guarding] at settling
    exact inv.ownerGuards settling found guarded
  | ownerSends sending found =>
    rw [sending] at settling
    exact inv.ownerSends settling found
  | handBack handingBack found =>
    rw [handingBack] at settling
    exact inv.handBack settling found

end

/-- What reached the transport came from one party, and nothing from the handler after
the claim of the deadline unless that was handed back in between. -/
structure OneSettler (log : List DeadlineEvent) : Prop where
  exclusive : ∀ settlement other, .handlerCall settlement ∈ log → .deadlineCall other ∉ log
  handedBack : ∀ before between after settlement,
    log = before ++ .deadlineClaim :: (between ++ .handlerCall settlement :: after) →
    .handBack ∈ between

section

variable (sent : List Settlement)

theorem oneSettler_of_handler : OneSettler (sent.map .handlerCall) := by
  refine ⟨by simp, fun before between after settlement split => ?_⟩
  have claimed : DeadlineEvent.deadlineClaim ∈ sent.map DeadlineEvent.handlerCall := by
    simp [split]
  simp at claimed

theorem oneSettler_of_deadline : OneSettler (.deadlineClaim :: sent.map .deadlineCall) := by
  refine ⟨by simp, fun before between after settlement split => ?_⟩
  have called : DeadlineEvent.handlerCall settlement ∈
      DeadlineEvent.deadlineClaim :: sent.map DeadlineEvent.deadlineCall := by
    simp [split]
  simp at called

theorem oneSettler_of_handedBack :
    OneSettler (.deadlineClaim :: .handBack :: sent.map .handlerCall) := by
  refine ⟨by simp, fun before between after settlement split => ?_⟩
  cases before with
  | nil =>
    obtain ⟨_, rest⟩ := cons.inj split
    cases between with
    | nil => cases (cons.inj rest).1
    | cons first others =>
      have same : .handBack = first := (cons.inj rest).1
      exact same ▸ mem_cons_self
  | cons first others =>
    have claimed : DeadlineEvent.deadlineClaim ∈
        DeadlineEvent.handBack :: sent.map DeadlineEvent.handlerCall := by
      rw [(cons.inj split).2]
      simp
    simp at claimed

end

theorem oneSettler_of_consistent (consistent : Consistent claim) : OneSettler claim.log := by
  unfold Consistent at consistent
  split at consistent
  · rw [consistent.1]
    exact oneSettler_of_handler []
  · obtain ⟨⟨sent, log⟩, _⟩ := consistent
    rw [log]
    exact oneSettler_of_deadline sent
  · obtain ⟨sent, log | log⟩ := consistent <;> rw [log]
    · exact oneSettler_of_handler sent
    · exact oneSettler_of_handedBack sent

/-- In every interleaving of handlers and owner each delivery has one settler. -/
theorem deadline_claim_exclusive {actions : List DeadlineAction}
    (run : Run SyncDeadlines.step {} actions world) :
    ∀ claim ∈ world.claims, OneSettler claim.log := by
  have start : ({} : SyncDeadlines).Exclusive := ⟨by simp, trivial⟩
  have inv := run.invariant (fun held _ taken => held.step taken) start
  exact fun claim member => oneSettler_of_consistent (inv.consistent claim member)

/-- One delivery is settled by its deadline while its handler is on its way into the
guard, one is acked first, and one is handed back and nacked twice. -/
theorem deadline_claim_exclusive_three : ∃ world, Run SyncDeadlines.step {}
        [.begin, .begin, .begin, .handlerEnters 0 .ack, .handlerEnters 1 .ack, .handlerGuards 1 0,
          .check [0, 1, 2], .claimDue, .expire (some (.nack true)), .ownerGuards,
          .handlerGuards 0 0, .ownerSends true, .claimDue, .handlerSends 1 0 true, .claimDue,
          .expire none, .handBack, .handlerEnters 2 (.nack true), .handlerGuards 2 0,
          .handlerSends 2 0 false, .handlerEnters 2 (.nack false), .handlerGuards 2 0,
          .handlerSends 2 0 true] world ∧ (∀ claim ∈ world.claims, OneSettler claim.log) ∧
      world.claims.map (·.log) = [[.deadlineClaim, .deadlineCall (.nack true)], [.handlerCall .ack],
          [.deadlineClaim, .handBack, .handlerCall (.nack true), .handlerCall (.nack false)]] := by
  refine exists_runWithin_of_check (fun world => decide (world.claims.map (·.log) =
    [[.deadlineClaim, .deadlineCall (.nack true)], [.handlerCall .ack],
      [.deadlineClaim, .handBack, .handlerCall (.nack true), .handlerCall (.nack false)]]))
        (by decide)
    fun world run checked => ?_
  simp only [decide_eq_true_eq] at checked
  exact ⟨deadline_claim_exclusive run, checked⟩

end SyncDeadlines
end RabbitKit
