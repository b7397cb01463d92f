import RabbitKit.AsyncChannelPool

/-! # The accounts of the async channel pool

While the pool is open its counter agrees with its channels, whoever gives back whatever
channel.  That a channel has one holder at a time needs more: the pool knows a channel
that is checked out, and not to whom.
-/

namespace RabbitKit

open LabelledRun AsyncChannelPool List Nat

/-- The counter of an open pool counts the idle channels, those checked out and those being
opened, and no channel twice; a closed pool has none. -/
structure ChannelBooks (size created opened : Nat) (idle inUse : List Nat) (closed : Bool)
    (opening : Nat) : Prop where
  balanced : closed = false → created = idle.length + inUse.length + opening
  bounded : created ≤ size
  distinct : (idle ++ inUse).Nodup
  known : ∀ channel, channel ∈ idle ∨ channel ∈ inUse → channel < opened
  emptied : closed = true → idle = [] ∧ inUse = []

namespace ChannelBooks

variable {size created opened opening channel : Nat} {idle inUse stale rest : List Nat}
  {closed : Bool}

theorem check_out
    (books : ChannelBooks size created opened (stale ++ channel :: rest) inUse false opening) :
    ChannelBooks size (created - stale.length) opened rest (channel :: inUse) false opening where
  balanced _ := by
    have before := books.balanced rfl
    simp only [length_append, length_cons] at before ⊢
    omega
  bounded := le_trans (sub_le _ _) books.bounded
  distinct := by
    have distinct := books.distinct
    rw [append_assoc] at distinct
    have kept := (nodup_append.mp distinct).2.1
    exact (perm_middle.nodup_iff).mpr kept
  known other member := by
    refine books.known other ?_
    rcases member with member | member
    · exact .inl (mem_append_right _ (mem_cons_of_mem _ member))
    · rcases mem_cons.mp member with rfl | member
      · exact .inl (mem_append_right _ mem_cons_self)
      · exact .inr member
  emptied := nofun

section

variable (books : ChannelBooks size created opened idle inUse false opening)
include books

theorem drop_idle : ChannelBooks size (created - idle.length) opened [] inUse false opening where
  balanced _ := by
    have before := books.balanced rfl
    simp only [length_nil]
    omega
  bounded := le_trans (sub_le _ _) books.bounded
  distinct := (nodup_append.mp books.distinct).2.1
  known other member := books.known other (.inr (member.resolve_left not_mem_nil))
  emptied := nofun

theorem reserve (room : created < size) :
    ChannelBooks size (created + 1) opened idle inUse false (opening + 1) :=
  { books with
    balanced := fun isOpen => by rw [books.balanced isOpen, Nat.add_assoc]
    bounded := room }

end

theorem unreserve (books : ChannelBooks size created opened idle inUse closed (opening + 1)) :
    ChannelBooks size (created - 1) opened idle inUse closed opening :=
  { books with
    balanced := fun isOpen => by rw [books.balanced isOpen]; omega
    bounded := le_trans (sub_le _ _) books.bounded }

theorem open_channel (books : ChannelBooks size created opened idle inUse false (opening + 1)) :
    ChannelBooks size created (opened + 1) idle (opened :: inUse) false opening where
  balanced isOpen := by
    rw [books.balanced isOpen, length_cons]
    omega
  bounded := books.bounded
  distinct := by
    refine perm_middle.nodup_iff.mpr (nodup_cons.mpr ⟨fun member => ?_, books.distinct⟩)
    exact lt_irrefl _ (books.known opened (mem_append.mp member))
  known other member := by
    rcases member with member | member
    · exact lt_succ_of_lt (books.known other (.inl member))
    · rcases mem_cons.mp member with rfl | member
      · exact lt_succ_self _
      · exact lt_succ_of_lt (books.known other (.inr member))
  emptied := nofun

section

variable (books : ChannelBooks size created opened idle inUse closed opening)
include books

theorem check_in (member : channel ∈ inUse) :
    ChannelBooks size created opened (idle ++ [channel]) (inUse.erase channel) closed opening where
  balanced isOpen := by
    have shorter := length_erase_of_mem member
    have some := length_pos_of_mem member
    rw [books.balanced isOpen, length_append, length_singleton]
    omega
  bounded := books.bounded
  distinct := by
    rw [append_assoc]
    have same : (idle ++ inUse).Perm (idle ++ ([channel] ++ inUse.erase channel)) :=
      (perm_cons_erase member).append_left idle
    exact same.nodup_iff.mp books.distinct
  known other listed := by
    refine books.known other ?_
    rcases listed with listed | listed
    · rcases mem_append.mp listed with listed | listed
      · exact .inl listed
      · exact .inr (mem_singleton.mp listed ▸ member)
    · exact .inr (mem_of_mem_erase listed)
  emptied isClosed := by
    rw [(books.emptied isClosed).2] at member
    cases member

theorem remove (member : channel ∈ inUse) :
    ChannelBooks size (created - 1) opened idle (inUse.erase channel) closed opening where
  balanced isOpen := by
    have shorter := length_erase_of_mem member
    have some := length_pos_of_mem member
    rw [books.balanced isOpen]
    omega
  bounded := le_trans (sub_le _ _) books.bounded
  distinct := books.distinct.sublist (erase_sublist.append_left idle)
  known other listed := books.known other (listed.imp_right mem_of_mem_erase)
  emptied isClosed := by
    rw [(books.emptied isClosed).2] at member
    cases member

end

theorem shut (opening : Nat) (size opened : Nat) : ChannelBooks size 0 opened [] [] true opening :=
  ⟨nofun, zero_le _, nodup_nil, by simp, fun _ => ⟨rfl, rfl⟩⟩

end ChannelBooks

namespace AsyncChannelPool

variable {pool pool' : AsyncChannelPool} {action : ChannelPoolAction} {acquirer : Nat}
  {expired : Bool} {before after : Acquirer}

def Books (pool : AsyncChannelPool) : Prop :=
  ChannelBooks pool.size pool.created pool.opened pool.idle pool.inUse pool.closed
    (pool.number .opening)

theorem number_opening_move (after : Acquirer) (found : pool.acquirers[acquirer]? = some before)
    (notBefore : before ≠ .opening) (notAfter : after ≠ .opening) :
    (pool.move acquirer after).number .opening = pool.number .opening := by
  simpa [notBefore, notAfter] using number_move .opening after found

section

variable (books : pool.Books)
include books

theorem Books.move (after : Acquirer) (found : pool.acquirers[acquirer]? = some before)
    (notBefore : before ≠ .opening) (notAfter : after ≠ .opening) :
    (pool.move acquirer after).Books := by
  unfold Books
  rw [number_opening_move after found notBefore notAfter]
  exact books

theorem Books.woken (woken : Woken pool pool') : pool'.Books := by
  cases woken with
  | nobody => exact books
  | woke _ _ pending => exact books.move .woken pending nofun nofun

theorem Books.join : pool.join.Books := by
  unfold Books
  rw [number_join .opening nofun]
  exact books

theorem Books.attempted (found : pool.acquirers[acquirer]? = some before)
    (notOpening : before ≠ .opening) (attempt : Attempt pool acquirer expired pool') :
    pool'.Books := by
  have same (after : Acquirer) (notAfter : after ≠ .opening) :=
    number_opening_move after found notOpening notAfter
  have books : ChannelBooks _ _ _ _ _ _ _ := books
  cases attempt with
  | refused => exact move books .gone found notOpening nofun
  | @took stale rest channel isOpen idle =>
    rw [isOpen, idle] at books
    change ChannelBooks _ _ _ _ _ pool.closed
      ((pool.move acquirer (.holding channel)).number .opening)
    rw [same (.holding channel) nofun, isOpen]
    exact books.check_out
  | exhausted isOpen =>
    rw [isOpen] at books
    change ChannelBooks _ _ _ _ _ pool.closed ((pool.move acquirer .gone).number .opening)
    rw [same .gone nofun, isOpen]
    exact books.drop_idle
  | opens isOpen room =>
    rw [isOpen] at books
    have opening : (pool.move acquirer .opening).number .opening = pool.number .opening + 1 := by
      simpa [notOpening] using number_move .opening .opening found
    change ChannelBooks _ _ _ _ _ pool.closed ((pool.move acquirer .opening).number .opening)
    rw [opening, isOpen]
    exact books.drop_idle.reserve room
  | waits isOpen =>
    rw [isOpen] at books
    change ChannelBooks _ _ _ _ _ pool.closed ((pool.move acquirer .waiting).number .opening)
    rw [same .waiting nofun, isOpen]
    exact books.drop_idle

theorem Books.giveBack (caller channel : Nat) : (pool.giveBack caller channel).Books := by
  unfold AsyncChannelPool.giveBack
  split
  next held =>
    exact books.move .gone held nofun nofun
  · exact books

theorem Books.drop {channel : Nat} (member : channel ∈ pool.inUse) : (pool.drop channel).Books := by
  have removed : Books { pool with
      inUse := pool.inUse.erase channel, created := pool.created - 1 } :=
    .remove books member
  exact removed.woken (wakeOne_spec _)

theorem Books.discard (channel : Nat) : (pool.discard channel).Books := by
  unfold AsyncChannelPool.discard
  split
  next member =>
    exact books.drop member
  · exact books

theorem Books.release (channel : Nat) : (pool.release channel).Books := by
  unfold AsyncChannelPool.release
  split
  · exact books
  next member =>
    have member : channel ∈ pool.inUse := not_not.mp member
    split
    · have returned : Books { pool with
          inUse := pool.inUse.erase channel, idle := pool.idle ++ [channel] } :=
        .check_in books member
      exact returned.woken (wakeOne_spec _)
    · exact books.drop member

theorem Books.step (taken : pool.step action = some pool') : pool'.Books := by
  cases action <;> simp only [step] at taken
  case acquire expired =>
    cases taken
    exact books.join.attempted pool.join_found nofun (attempt_spec _ _ _)
  case tryAcquireIdle =>
    cases taken
    rw [tryAcquireIdle_eq]
    exact books.join.attempted pool.join_found nofun (attempt_spec _ _ _)
  case resume acquirer expired =>
    split at taken <;> cases taken
    rename_i woken
    exact books.attempted woken nofun (attempt_spec _ _ _)
  case cancel acquirer =>
    split at taken <;> cases taken
    rename_i waiting
    exact books.move .cancelled waiting nofun nofun
  case unwind acquirer =>
    split at taken <;> cases taken
    next woken =>
      exact (books.move .gone woken nofun nofun).woken (wakeOne_spec _)
    next cancelled =>
      exact books.move .gone cancelled nofun nofun
  case openSucceeds acquirer =>
    split at taken
    next opening =>
      have fewer (after : Acquirer) (notOpening : after ≠ .opening) :
          (pool.move acquirer after).number .opening + 1 = pool.number .opening := by
        simpa [notOpening] using number_move .opening after opening
      have books : ChannelBooks _ _ _ _ _ _ _ := books
      split at taken <;> cases taken
      · rw [← fewer .gone nofun] at books
        have kept := books.unreserve
        exact { kept with known := fun other member => lt_succ_of_lt (kept.known other member) }
      next isOpen =>
        have isOpen : pool.closed = false := by simpa using isOpen
        rw [← fewer (.holding pool.opened) nofun, isOpen] at books
        have kept := books.open_channel
        rw [← isOpen] at kept
        exact kept
    · cases taken
  case openFails acquirer =>
    split at taken <;> cases taken
    rename_i opening
    have fewer : (pool.move acquirer .gone).number .opening + 1 = pool.number .opening := by
      simpa using number_move .opening .gone opening
    have books : ChannelBooks _ _ _ _ _ _ _ := books
    rw [← fewer] at books
    have freed : Books { pool.move acquirer .gone with created := pool.created - 1 } :=
      books.unreserve
    exact freed.woken (wakeOne_spec _)
  case release caller channel =>
    cases taken
    exact (books.giveBack caller channel).release channel
  case discard caller channel =>
    cases taken
    exact (books.giveBack caller channel).discard channel
  case dies channel =>
    cases taken
    exact books
  case closeAll =>
    cases taken
    exact .shut _ _ _

end

/-- The caller of `acquire` has the channel and has not given it back. -/
def Holds (pool : AsyncChannelPool) (acquirer channel : Nat) : Prop :=
  pool.acquirers[acquirer]? = some (.holding channel)

theorem holds_of_checkOut {other channel taken : Nat}
    (holds : (pool.checkOut acquirer taken).Holds other channel) :
    other = acquirer ∧ channel = taken ∨ pool.Holds other channel := by
  unfold Holds checkOut move at holds
  rw [getElem?_set] at holds
  split at holds
  next same =>
    split at holds
    · cases holds
      exact .inl ⟨same.symm, rfl⟩
    · cases holds
  · exact .inr holds

theorem not_holds_giveBack (caller channel : Nat) :
    ¬ (pool.giveBack caller channel).Holds caller channel := by
  intro holds
  unfold giveBack at holds
  split at holds
  · exact (stage_of_move holds nofun).1 rfl
  next notHeld =>
    exact notHeld holds

structure Moved (pool : AsyncChannelPool) (action : ChannelPoolAction) (pool' : AsyncChannelPool) :
    Prop where
  shut : pool.closed = true → pool'.closed = true
  opened : pool.opened ≤ pool'.opened
  idle : ∀ channel ∈ pool'.idle, channel ∈ pool.idle ∨
    ∃ caller, action = .release caller channel ∧ channel ∈ pool.inUse ∧
      ¬ pool'.Holds caller channel
  holders : (∀ other held, pool'.Holds other held → pool.Holds other held) ∨
    pool.closed = false ∧ ∃ acquirer channel,
      (channel ∈ pool.idle ∨ channel = pool.opened ∧ pool.opened < pool'.opened) ∧
      channel ∉ pool'.idle ∧ ∀ other held, pool'.Holds other held →
        other = acquirer ∧ held = channel ∨ pool.Holds other held

theorem moved_of_kept (shut : pool'.closed = pool.closed) (opened : pool'.opened = pool.opened)
    (idle : ∀ channel ∈ pool'.idle, channel ∈ pool.idle)
    (holders : ∀ other held, pool'.Holds other held → pool.Holds other held) :
    Moved pool action pool' :=
  ⟨fun isClosed => shut.trans isClosed, le_of_eq opened.symm,
    fun channel member => .inl (idle channel member), .inl holders⟩

theorem moved_of_attempt (books : pool.Books) (attempt : Attempt pool acquirer expired pool') :
    Moved pool action pool' := by
  cases attempt with
  | refused => exact moved_of_kept rfl rfl (fun _ => id) fun _ _ holds =>
    (stage_of_move holds nofun).2
  | exhausted | opens | waits =>
    exact moved_of_kept rfl rfl nofun fun _ _ holds => (stage_of_move holds nofun).2
  | @took stale rest channel isOpen idle =>
    have distinct := (nodup_append.mp books.distinct).1
    rw [idle] at distinct
    have last : channel ∉ rest := (nodup_cons.mp (nodup_append.mp distinct).2.1).1
    have member : channel ∈ pool.idle := by simp [idle]
    refine ⟨id, le_refl _, fun other inRest => .inl ?_, .inr ⟨isOpen, acquirer, channel,
      .inl member, last, fun _ _ => holds_of_checkOut⟩⟩
    have inRest : other ∈ rest := inRest
    simp [idle, inRest]

theorem moved_of_join (moved : Moved pool.join action pool') : Moved pool action pool' where
  shut := moved.shut
  opened := moved.opened
  idle := moved.idle
  holders := by
    refine moved.holders.imp (fun kept other held holds => stage_of_join (kept other held holds)
      nofun)
      fun ⟨isOpen, acquirer, channel, new, notIdle, handed⟩ => ?_
    exact ⟨isOpen, acquirer, channel, new, notIdle, fun other held holds =>
      (handed other held holds).imp_right fun holds => stage_of_join holds nofun⟩

theorem Moved.woken {middle : AsyncChannelPool} (moved : Moved pool action middle)
    (woken : Woken middle pool') : Moved pool action pool' := by
  have fewer : ∀ other held, pool'.Holds other held → middle.Holds other held :=
    fun _ _ holds => stage_of_woken woken holds nofun
  have same : pool'.closed = middle.closed ∧ pool'.opened = middle.opened ∧
      pool'.idle = middle.idle := by
    cases woken <;> exact ⟨rfl, rfl, rfl⟩
  obtain ⟨closed, opened, idle⟩ := same
  refine ⟨closed ▸ moved.shut, opened ▸ moved.opened, fun channel member => ?_, ?_⟩
  · refine (moved.idle channel (idle ▸ member)).imp_right ?_
    rintro ⟨caller, released, inUse, notHeld⟩
    exact ⟨caller, released, inUse, mt (fewer caller channel) notHeld⟩
  · refine moved.holders.imp (fun kept other held holds => kept other held (fewer other held holds))
      ?_
    rintro ⟨isOpen, acquirer, channel, new, notIdle, handed⟩
    exact ⟨isOpen, acquirer, channel, opened ▸ new, idle ▸ notIdle, fun other held holds =>
      handed other held (fewer other held holds)⟩

theorem moved_giveBack (caller channel : Nat) :
    Moved pool action (pool.giveBack caller channel) := by
  have fewer : ∀ other held, (pool.giveBack caller channel).Holds other held →
      pool.Holds other held := fun _ _ holds => stage_of_giveBack holds nofun
  obtain ⟨acquirers, same⟩ := pool.giveBack_eq caller channel
  rw [same] at fewer ⊢
  exact moved_of_kept rfl rfl (fun _ => id) fewer

theorem Moved.drop {middle : AsyncChannelPool} (moved : Moved pool action middle)
    (channel : Nat) : Moved pool action (middle.drop channel) := by
  have removed : Moved pool action { middle with
      inUse := middle.inUse.erase channel, created := middle.created - 1 } :=
    ⟨moved.shut, moved.opened, moved.idle, moved.holders⟩
  exact removed.woken (wakeOne_spec _)

theorem moved_discard (caller channel : Nat) :
    Moved pool action ((pool.giveBack caller channel).discard channel) := by
  unfold discard
  split
  · exact (moved_giveBack caller channel).drop channel
  · exact moved_giveBack caller channel

theorem moved_release (caller channel : Nat) :
    Moved pool (.release caller channel) ((pool.giveBack caller channel).release channel) := by
  have gave : Moved pool (.release caller channel) (pool.giveBack caller channel) :=
    moved_giveBack caller channel
  have kept : ∀ other held, (pool.giveBack caller channel).Holds other held →
      pool.Holds other held := fun _ _ holds => stage_of_giveBack holds nofun
  have notHeld : ¬ (pool.giveBack caller channel).Holds caller channel :=
    not_holds_giveBack caller channel
  obtain ⟨acquirers, same⟩ := pool.giveBack_eq caller channel
  rw [same] at gave kept notHeld ⊢
  unfold release
  split
  · exact gave
  next member =>
    split
    · have returned : Moved pool (.release caller channel) { pool with
          acquirers := acquirers
          inUse := pool.inUse.erase channel
          idle := pool.idle ++ [channel] } := by
        refine ⟨id, le_refl _, fun other listed => ?_, .inl kept⟩
        rcases mem_append.mp listed with listed | listed
        · exact .inl listed
        · obtain rfl := mem_singleton.mp listed
          exact .inr ⟨caller, rfl, not_not.mp member, notHeld⟩
      exact returned.woken (wakeOne_spec _)
    · exact gave.drop channel

theorem moved_of_step (books : pool.Books) (taken : pool.step action = some pool') :
    Moved pool action pool' := by
  cases action with
  | acquire expired =>
    cases taken
    exact moved_of_join (moved_of_attempt books.join (attempt_spec _ _ _))
  | tryAcquireIdle =>
    cases taken
    rw [tryAcquireIdle_eq]
    exact moved_of_join (moved_of_attempt books.join (attempt_spec _ _ _))
  | resume acquirer expired =>
    simp only [step] at taken
    split at taken <;> cases taken
    exact moved_of_attempt books (attempt_spec _ _ _)
  | cancel acquirer =>
    simp only [step] at taken
    split at taken <;> cases taken
    exact moved_of_kept rfl rfl (fun _ => id) fun _ _ holds => (stage_of_move holds nofun).2
  | unwind acquirer =>
    have kept : Moved pool (.unwind acquirer) (pool.move acquirer .gone) :=
      moved_of_kept rfl rfl (fun _ => id) fun _ _ holds => (stage_of_move holds nofun).2
    simp only [step] at taken
    split at taken <;> cases taken
    · exact kept.woken (wakeOne_spec _)
    · exact ⟨kept.shut, kept.opened, kept.idle, kept.holders⟩
  | openSucceeds acquirer =>
    simp only [step] at taken
    split at taken
    · split at taken <;> cases taken
      · exact ⟨id, le_succ _, fun _ => .inl, .inl fun _ _ holds =>
          (stage_of_move holds nofun).2⟩
      next isOpen =>
        have isOpen : pool.closed = false := by simpa using isOpen
        have fresh : pool.opened ∉ pool.idle := fun member =>
          lt_irrefl _ (books.known pool.opened (.inl member))
        exact ⟨id, le_succ _, fun _ => .inl, .inr ⟨isOpen, acquirer, pool.opened,
          .inr ⟨rfl, lt_succ_self _⟩, fresh, fun _ _ => holds_of_checkOut⟩⟩
    · cases taken
  | openFails acquirer =>
    simp only [step] at taken
    split at taken <;> cases taken
    have kept : Moved pool (.openFails acquirer)
        { pool.move acquirer .gone with created := pool.created - 1 } :=
      moved_of_kept rfl rfl (fun _ => id) fun _ _ holds => (stage_of_move holds nofun).2
    exact kept.woken (wakeOne_spec _)
  | release caller channel =>
    cases taken
    exact moved_release caller channel
  | discard caller channel =>
    cases taken
    exact moved_discard caller channel
  | dies channel =>
    cases taken
    exact moved_of_kept rfl rfl (fun _ => id) fun _ _ => id
  | closeAll =>
    cases taken
    exact ⟨fun _ => rfl, le_refl _, nofun, .inl fun _ _ holds =>
      (stage_of_wakeAll holds nofun).1⟩

/-- A channel in use is released by the caller that has it. -/
def OwnReturns (pool : AsyncChannelPool) : ChannelPoolAction → Prop
  | .release caller channel => channel ∈ pool.inUse →
      pool.acquirers[caller]? = some (.holding channel)
  | _ => True

instance (pool : AsyncChannelPool) : DecidablePred pool.OwnReturns := fun action => by
  unfold OwnReturns
  split <;> infer_instance

/-- No channel has two holders, and none that is held is idle. -/
structure Exclusive (pool : AsyncChannelPool) : Prop where
  known : ∀ acquirer channel, pool.Holds acquirer channel → channel < pool.opened
  apart : ∀ acquirer channel, pool.Holds acquirer channel → channel ∉ pool.idle
  alone : ∀ acquirer other channel, pool.Holds acquirer channel → pool.Holds other channel →
    acquirer = other

theorem Exclusive.moved (inv : pool.Exclusive) (books : pool.Books)
    (own : pool.OwnReturns action) (moved : Moved pool action pool') : pool'.Exclusive := by
  rcases moved.holders with kept | ⟨-, taker, taken, new, notIdle, handed⟩
  · refine ⟨fun acquirer channel holds => ?_, fun acquirer channel holds member => ?_,
      fun acquirer other channel holds also => ?_⟩
    · exact lt_of_lt_of_le (inv.known acquirer channel (kept _ _ holds)) moved.opened
    · rcases moved.idle channel member with member | ⟨caller, rfl, inUse, notHeld⟩
      · exact inv.apart acquirer channel (kept _ _ holds) member
      · obtain rfl := inv.alone acquirer caller channel (kept _ _ holds) (own inUse)
        exact notHeld holds
    · exact inv.alone acquirer other channel (kept _ _ holds) (kept _ _ also)
  · -- nobody had the channel that is handed out
    have free (acquirer : Nat) (holds : pool.Holds acquirer taken) : False := by
      rcases new with idle | ⟨rfl, -⟩
      · exact inv.apart acquirer taken holds idle
      · exact lt_irrefl _ (inv.known acquirer _ holds)
    refine ⟨fun acquirer channel holds => ?_, fun acquirer channel holds member => ?_,
      fun acquirer other channel holds also => ?_⟩
    · rcases handed acquirer channel holds with ⟨-, rfl⟩ | holds
      · rcases new with idle | ⟨rfl, more⟩
        · exact lt_of_lt_of_le (books.known channel (.inl idle)) moved.opened
        · exact more
      · exact lt_of_lt_of_le (inv.known acquirer channel holds) moved.opened
    · rcases handed acquirer channel holds with ⟨-, rfl⟩ | before
      · exact notIdle member
      · rcases moved.idle channel member with member | ⟨caller, rfl, inUse, notHeld⟩
        · exact inv.apart acquirer channel before member
        · obtain rfl := inv.alone acquirer caller channel before (own inUse)
          exact notHeld holds
    · rcases handed acquirer channel holds with ⟨rfl, rfl⟩ | holds
      · rcases handed other channel also with ⟨rfl, -⟩ | also
        · rfl
        · exact (free other also).elim
      · rcases handed other channel also with ⟨rfl, rfl⟩ | also
        · exact (free acquirer holds).elim
        · exact inv.alone acquirer other channel holds also

/-- A pool whose accounts are right: while it is open its counter is the number of its idle,
checked-out and opening channels and within its size, no channel is listed twice, and giving
back a channel that is not in use changes nothing of that; and a closed pool stays closed
and hands nothing out. -/
structure Accounts (pool : AsyncChannelPool) : Prop where
  balanced : pool.closed = false →
    pool.created = pool.idle.length + pool.inUse.length + pool.number .opening
  bounded : pool.created ≤ pool.size
  distinct : pool.idle.Nodup ∧ pool.inUse.Nodup
  disjoint : ∀ channel ∈ pool.idle, channel ∉ pool.inUse
  ignored : ∀ caller channel, channel ∉ pool.inUse →
    ∀ action, action = .release caller channel ∨ action = .discard caller channel →
      ∃ pool', pool.step action = some pool' ∧ pool'.created = pool.created ∧
        pool'.idle = pool.idle ∧ pool'.inUse = pool.inUse ∧ pool'.waiters = pool.waiters
  shut : pool.closed = true → ∀ (action : ChannelPoolAction) (pool' : AsyncChannelPool),
    pool.step action = some pool' → pool'.closed = true ∧
      ∀ acquirer channel, pool'.Holds acquirer channel → pool.Holds acquirer channel

theorem Books.accounts (books : pool.Books) : pool.Accounts where
  balanced := ChannelBooks.balanced books
  bounded := ChannelBooks.bounded books
  distinct := by
    have distinct := nodup_append.mp (ChannelBooks.distinct books)
    exact ⟨distinct.1, distinct.2.1⟩
  disjoint channel idle inUse :=
    (nodup_append.mp (ChannelBooks.distinct books)).2.2 channel idle channel inUse rfl
  ignored caller channel notInUse action returns := by
    obtain ⟨acquirers, same⟩ := pool.giveBack_eq caller channel
    refine ⟨{ pool with acquirers := acquirers }, ?_, rfl, rfl, rfl, rfl⟩
    rcases returns with rfl | rfl
    · simp [AsyncChannelPool.step, same, AsyncChannelPool.release, notInUse]
    · simp [AsyncChannelPool.step, same, AsyncChannelPool.discard, notInUse]
  shut isClosed action pool' taken := by
    have moved := moved_of_step books taken
    refine ⟨moved.shut isClosed, ?_⟩
    rcases moved.holders with kept | ⟨isOpen, -⟩
    · exact kept
    · cases isOpen.symm.trans isClosed

theorem books_init (size : Nat) : Books { size := size } :=
  ⟨fun _ => rfl, zero_le _, nodup_nil, by simp, nofun⟩

/-- The accounts are right in every state of every run, and no channel has two holders as
long as a channel in use is released by its holder. -/
theorem channel_accounts {size : Nat} {actions : List ChannelPoolAction}
    (run : Run step { size := size } actions pool) :
    pool.Accounts ∧ (RunWithin step OwnReturns { size := size } actions pool →
      ∀ acquirer other channel, pool.Holds acquirer channel → pool.Holds other channel →
        acquirer = other) := by
  have books := run.invariant (fun held _ taken => .step held taken) (books_init size)
  refine ⟨books.accounts, fun owned => ?_⟩
  have start : Books { size := size } ∧ Exclusive { size := size } :=
    ⟨books_init size, nofun, nofun, nofun⟩
  have inv := owned.invariant (fun {before} _ _ (held : before.Books ∧ before.Exclusive) admitted
    taken =>
    ⟨held.1.step taken, held.2.moved held.1 admitted (moved_of_step held.1 taken)⟩) start
  exact inv.2.alone

theorem channel_accounts_reuse : ∃ pool, Run step { size := 1 }
        [.acquire false, .openSucceeds 0, .release 0 0, .acquire false, .acquire false] pool ∧
      pool.acquirers = [.gone, .holding 0, .waiting] ∧ pool.created = 1 ∧ pool.Accounts ∧
      ∀ acquirer other channel, pool.Holds acquirer channel → pool.Holds other channel →
        acquirer = other := by
  obtain ⟨pool, owned, checked⟩ := exists_runWithin_of_any step OwnReturns
    ({ size := 1 } : AsyncChannelPool)
    [.acquire false, .openSucceeds 0, .release 0 0, .acquire false, .acquire false]
    (fun pool => decide (pool.acquirers = [.gone, .holding 0, .waiting] ∧ pool.created = 1))
    (by decide)
  obtain ⟨acquirers, created⟩ := of_decide_eq_true checked
  obtain ⟨accounts, alone⟩ := channel_accounts owned.unrestricted
  exact ⟨pool, owned.unrestricted, acquirers, created, accounts, alone owned⟩

/-- A channel that its first holder releases a second time, while another caller has it, is
handed to a third. -/
theorem two_holders : ∃ pool, Run step { size := 1 }
        [.acquire false, .openSucceeds 0, .release 0 0, .acquire false, .release 0 0,
          .acquire false] pool ∧ pool.Holds 1 0 ∧ pool.Holds 2 0 :=
  ⟨_, run_of_execute rfl, rfl, rfl⟩

end AsyncChannelPool
end RabbitKit
