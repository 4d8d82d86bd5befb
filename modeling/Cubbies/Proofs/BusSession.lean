import Cubbies.Proofs.QbusReception
import Cubbies.Proofs.StackRefinement

set_option autoImplicit false

/-! # A session on the bus

A master sends one request after the other, each with fewer than three ticks from byte to byte and some
silence after it, in which the slave is polled. Whatever came over the bus before, a pause of four late
polls takes the slave back to where it started from (`rests_after_pause`). `session_served` follows the
session from there, with the steps of all other tasks anywhere in it: it is a list of transactions, one
for each request, in order. The box executes what the request says and nothing else comes over the bus,
and what the slave sends is the replies, one after the other, each of them telling what became of its
request. -/

namespace Cubbies

open CString Runs

/-! ## Schedules -/

namespace StackEvent

/-- The byte that comes in, with its time. -/
def arrival? : StackEvent → Option (ℕ × UInt8)
  | .byte now recvChar => some (now, recvChar)
  | _ => none

/-- The time of a step of the slave. -/
def time? : StackEvent → Option ℕ
  | .byte now _ => some now
  | .poll now => some now
  | .task _ => none

/-- A poll more than `QB_FRAME_TIMEOUT_MS` ticks after the time `last`, and less than a turn of the
tick. -/
def isLatePoll (last : ℕ) : StackEvent → Bool
  | .poll now => millis last + 3 < millis now ∧ millis now < millis last + 4294967296
  | _ => false

end StackEvent

/-- The bytes of `f` with polls and steps of other tasks between and after them: fewer than three ticks
from one byte to the next, and at least four late polls after the last one. -/
structure Conveys (f : Bytes) (es : List StackEvent) : Prop where
  bytes : (es.filterMap StackEvent.arrival?).map Prod.snd = f
  ordered : (es.filterMap StackEvent.time?).Pairwise fun t t' => t ≤ t'
  gaps : (es.filterMap StackEvent.arrival?).IsChain fun a a' => millis a'.1 < millis a.1 + 3
  silence : ∀ a ∈ (es.filterMap StackEvent.arrival?).getLast?, 4 ≤ es.countP (StackEvent.isLatePoll a.1)

/-- Four late polls after the last byte of `noise`, if there was one, and no byte. -/
structure Pause (noise pause : List StackEvent) : Prop where
  quiet : pause.filterMap StackEvent.arrival? = []
  polls : ∀ a ∈ (noise.filterMap StackEvent.arrival?).getLast?,
    4 ≤ pause.countP (StackEvent.isLatePoll a.1)

/-- One request after the other. -/
inductive Conversation : List Bytes → List StackEvent → Prop where
  | nil : Conversation [] []
  | cons {f : Bytes} {fs : List Bytes} {es rest : List StackEvent} :
      ValidRequest f → Conveys f es → Conversation fs rest → Conversation (f :: fs) (es ++ rest)

namespace QBSlave

/-! ## Recovering -/

section

variable {σ : Type}

/-- How many late polls the slave is away from `QBS_IDLE` with nothing received. -/
def pollsLeft (q : QBSlave σ) : ℕ :=
  match q.qBState with
  | .idle => if q.recvByteCount = 0 then 0 else 4
  | .frameRcv => 3
  | .sendFrame => if q.totalByteToSend = 0 then 1 else 2
  | .init | .stop => 0

theorem pollsLeft_le (q : QBSlave σ) : q.pollsLeft ≤ 4 := by
  unfold pollsLeft
  cases q.qBState with
  | idle => dsimp only; split <;> omega
  | frameRcv => dsimp only; omega
  | sendFrame => dsimp only; split <;> omega
  | init => exact Nat.zero_le _
  | stop => exact Nat.zero_le _

/-- A poll leaves the tick of the last byte, and takes no step back; once the frame has timed out, it
takes one on. -/
theorem Sound.pollsLeft_poll [QBusApp σ] {q : QBSlave σ} (h : Sound q) (now : ℕ) :
    (qbSlavePoll q now).timeOutStartTick = q.timeOutStartTick ∧
      (qbSlavePoll q now).pollsLeft ≤ q.pollsLeft ∧
        (timeSpent now q.timeOutStartTick 3 = true → (qbSlavePoll q now).pollsLeft ≤ q.pollsLeft - 1) := by
  have hleft : ∀ q' : QBSlave σ, q'.qBState = .idle → q'.recvByteCount = 0 → q'.pollsLeft = 0 := by
    intro q' hidle hempty
    unfold pollsLeft
    rw [hidle]
    exact if_pos hempty
  rcases h.states with hstate | hstate | hstate
  · unfold qbSlavePoll
    rw [hstate]
    dsimp only
    by_cases hempty : q.recvByteCount = 0
    · rw [if_neg (by omega), hleft q hstate hempty]
      exact ⟨rfl, le_refl 0, fun _ => le_refl 0⟩
    · have hfour : q.pollsLeft = 4 := by
        unfold pollsLeft
        rw [hstate]
        exact if_neg hempty
      rw [if_pos (by omega), hfour]
      split
      · have hthree : (qbSlaveSetState q .frameRcv).pollsLeft = 3 := rfl
        rw [hthree]
        exact ⟨rfl, by omega, fun _ => le_refl 3⟩
      · rw [hleft _ rfl rfl]
        exact ⟨rfl, by omega, fun _ => by omega⟩
  · have hthree : q.pollsLeft = 3 := by
      unfold pollsLeft
      rw [hstate]
    unfold qbSlavePoll
    rw [hstate, hthree]
    dsimp only
    split
    · split
      · have htwo : (qbSlaveSetState (qbSlaveProcessFrame q now) .sendFrame).pollsLeft ≤ 2 := by
          show (if (qbSlaveProcessFrame q now).totalByteToSend = 0 then 1 else 2) ≤ 2
          split <;> omega
        exact ⟨rfl, by omega, fun _ => by omega⟩
      · rw [hleft _ rfl rfl]
        exact ⟨rfl, by omega, fun _ => by omega⟩
    · next hearly => exact ⟨rfl, hthree.le, fun hlate => absurd hlate hearly⟩
  · unfold qbSlavePoll qbSlavePortTxEmptyIsr
    rw [hstate]
    dsimp only
    by_cases htotal : q.totalByteToSend = 0
    · have hone : q.pollsLeft = 1 := by
        unfold pollsLeft
        rw [hstate]
        exact if_pos htotal
      rw [if_neg (by omega), hleft _ rfl rfl, hone]
      exact ⟨rfl, by omega, fun _ => le_refl 0⟩
    · have htwo : q.pollsLeft = 2 := by
        unfold pollsLeft
        rw [hstate]
        exact if_neg htotal
      have hroom : q.sentByteCount + q.totalByteToSend ≤ q.framBuffLen := by
        rw [h.len]
        exact h.sending.trans (by decide)
      rw [if_pos (by omega), sendByte_iterate _ _ hroom, htwo]
      have hone : ({ q with
          transmitted := q.transmitted ++ (q.frameBuffer.drop q.sentByteCount).take q.totalByteToSend
          sentByteCount := q.sentByteCount + q.totalByteToSend
          totalByteToSend := q.totalByteToSend - q.totalByteToSend } : QBSlave σ).pollsLeft = 1 := by
        unfold pollsLeft
        dsimp only
        rw [hstate]
        exact if_pos (Nat.sub_self _)
      rw [hone]
      exact ⟨rfl, by omega, fun _ => le_refl 1⟩

end

section

variable [CJson]

theorem Sound.runList {q q' : QBSlave Box} (h : Sound q) (es : List StackEvent)
    (hrun : Runs.runList stackStep q es = some q') : Sound q' := by
  induction es generalizing q with
  | nil =>
      obtain rfl := Option.some.inj hrun
      exact h
  | cons e es ih =>
      obtain ⟨q₁, hstep, hrest⟩ := Option.bind_eq_some_iff.1 hrun
      obtain ⟨e', rfl⟩ := stackStep_slave hstep
      exact ih (h.step e').1 hrest

/-- While no byte comes in, the polls that are late after the last one bring the slave nearer to
`QBS_IDLE`. -/
theorem pollsLeft_quiet {q q' : QBSlave Box} (last : ℕ) (es : List StackEvent) (hsound : Sound q)
    (hquiet : es.filterMap StackEvent.arrival? = [])
    (hrun : runList stackStep q es = some q') :
    q'.pollsLeft ≤ q.pollsLeft ∧
      (q.timeOutStartTick = tickOf (millis last) →
        q'.pollsLeft ≤ q.pollsLeft - es.countP (StackEvent.isLatePoll last)) := by
  induction es generalizing q with
  | nil =>
      obtain rfl := Option.some.inj hrun
      exact ⟨le_refl _, fun _ => le_refl _⟩
  | cons e es ih =>
      obtain ⟨q₁, hstep, hrest⟩ := Option.bind_eq_some_iff.1 hrun
      obtain ⟨e', he'⟩ := stackStep_slave hstep
      have hsound₁ : Sound q₁ := he' ▸ (hsound.step e').1
      rw [List.countP_cons]
      cases e with
      | byte now recvChar => cases hquiet
      | poll now =>
          obtain rfl := Option.some.inj hstep
          obtain ⟨htick, hle, hlate⟩ := hsound.pollsLeft_poll now
          obtain ⟨hrestLe, hrestLate⟩ := ih hsound₁ hquiet hrest
          refine ⟨hrestLe.trans hle, fun hlast => ?_⟩
          have hfewer := hrestLate (htick.trans hlast)
          by_cases hpoll : StackEvent.isLatePoll last (.poll now) = true
          · have htimes : millis last + 3 < millis now ∧ millis now < millis last + 4294967296 :=
              of_decide_eq_true hpoll
            have hspent : timeSpent now q.timeOutStartTick 3 = true := by
              rw [hlast]
              exact timeSpent_eq_true (by rw [show (3 : UInt32).toNat = 3 from rfl]; omega) (by omega)
            have hone := hlate hspent
            rw [if_pos hpoll]
            omega
          · rw [if_neg hpoll]
            omega
      | task e =>
          obtain ⟨-, htask⟩ := Option.ite_none_left_eq_some.1 hstep
          obtain ⟨app, -, rfl⟩ := Option.map_eq_some_iff.1 htask
          obtain ⟨hrestLe, hrestLate⟩ := ih hsound₁ hquiet hrest
          exact ⟨hrestLe, hrestLate⟩

/-- The tick is that of the last byte. -/
theorem timeOutStartTick_run {q q' : QBSlave Box} (es : List StackEvent) (hsound : Sound q) {t : ℕ}
    (htick : q.timeOutStartTick = tickOf (millis t)) (hrun : runList stackStep q es = some q') :
    q'.timeOutStartTick =
      tickOf (millis (((es.filterMap StackEvent.arrival?).getLast?.map Prod.fst).getD t)) := by
  induction es generalizing q t with
  | nil =>
      obtain rfl := Option.some.inj hrun
      exact htick
  | cons e es ih =>
      obtain ⟨q₁, hstep, hrest⟩ := Option.bind_eq_some_iff.1 hrun
      obtain ⟨e', he'⟩ := stackStep_slave hstep
      have hsound₁ : Sound q₁ := he' ▸ (hsound.step e').1
      cases e with
      | byte now recvChar =>
          obtain rfl := Option.some.inj hstep
          have hcons : (StackEvent.byte now recvChar :: es).filterMap StackEvent.arrival? =
              (now, recvChar) :: es.filterMap StackEvent.arrival? := rfl
          rw [ih hsound₁ (t := now) rfl hrest, hcons, List.getLast?_cons]
          cases (es.filterMap StackEvent.arrival?).getLast? <;> rfl
      | poll now =>
          obtain rfl := Option.some.inj hstep
          exact ih hsound₁ ((hsound.pollsLeft_poll now).1.trans htick) hrest
      | task e =>
          obtain ⟨-, htask⟩ := Option.ite_none_left_eq_some.1 hstep
          obtain ⟨app, -, rfl⟩ := Option.map_eq_some_iff.1 htask
          exact ih hsound₁ htick hrest

/-- **The slave recovers.** Whatever came over the bus, after a pause it waits for a frame. -/
theorem rests_after_pause {now : ℕ} {b : Box} {q : QBSlave Box} {noise pause : List StackEvent}
    (hrun : runList stackStep (qbusInit now b) (noise ++ pause) = some q) (hpause : Pause noise pause) :
    Sound q ∧ q.qBState = .idle ∧ q.recvByteCount = 0 := by
  have hstart : Sound (qbusInit now b) := sound_start List.length_replicate now b
  have hsound := hstart.runList _ hrun
  rw [runList_append] at hrun
  obtain ⟨q₁, hnoise, hrest⟩ := Option.bind_eq_some_iff.1 hrun
  have hsound₁ := hstart.runList _ hnoise
  have hzero : q.pollsLeft = 0 := by
    cases hlast : (noise.filterMap StackEvent.arrival?).getLast? with
    | none =>
        -- nothing came in at all
        have hnone := (pollsLeft_quiet 0 noise hstart (List.getLast?_eq_none_iff.1 hlast) hnoise).1
        have hrests := (pollsLeft_quiet 0 pause hsound₁ hpause.quiet hrest).1
        exact Nat.le_zero.1 (hrests.trans hnone)
    | some a =>
        have htick := timeOutStartTick_run noise hstart (t := now) rfl hnoise
        rw [hlast] at htick
        have hrests := (pollsLeft_quiet a.1 pause hsound₁ hpause.quiet hrest).2 htick
        have hpolls := hpause.polls a hlast
        have hfour := q₁.pollsLeft_le
        omega
  refine ⟨hsound, ?_⟩
  unfold pollsLeft at hzero
  rcases hsound.states with hstate | hstate | hstate
  · rw [hstate] at hzero
    dsimp only at hzero
    split at hzero
    · next hempty => exact ⟨hstate, hempty⟩
    · cases hzero
  · rw [hstate] at hzero
    cases hzero
  · rw [hstate] at hzero
    dsimp only at hzero
    split at hzero <;> cases hzero

end

/-! ## One request -/

section

variable [CJson]

/-- A run of the stack is one of the slave, in which the other tasks change the box. -/
theorem slaveRun {q q' : QBSlave Box} (es : List StackEvent) (t : ℕ)
    (hafter : ∀ t' ∈ es.filterMap StackEvent.time?, t ≤ t')
    (hordered : (es.filterMap StackEvent.time?).Pairwise fun t t' => t ≤ t')
    (hrun : runList stackStep q es = some q') :
    ∃ ses : List (QBusEvent Box), ses.foldl step q = q' ∧
      arrivals ses = es.filterMap StackEvent.arrival? ∧
      (∀ last, ses.countP (isLatePoll last) = es.countP (StackEvent.isLatePoll last)) ∧
      (ses.Pairwise fun e e' => e.now ≤ e'.now) ∧ ∀ e ∈ ses, t ≤ e.now := by
  induction es generalizing q t with
  | nil =>
      obtain rfl := Option.some.inj hrun
      exact ⟨[], rfl, rfl, fun _ => rfl, .nil, by simp⟩
  | cons e es ih =>
      obtain ⟨q₁, hstep, hrest⟩ := Option.bind_eq_some_iff.1 hrun
      have hcons (se : QBusEvent Box) (hq : q.step se = q₁) (harrival : se.arrival? = e.arrival?)
          (hpoll : ∀ last, isLatePoll last se = e.isLatePoll last) (hle : t ≤ se.now)
          (hnext : ∀ t' ∈ es.filterMap StackEvent.time?, se.now ≤ t')
          (hrest' : (es.filterMap StackEvent.time?).Pairwise fun t t' => t ≤ t') :
          ∃ ses : List (QBusEvent Box), ses.foldl step q = q' ∧
            arrivals ses = (e :: es).filterMap StackEvent.arrival? ∧
            (∀ last, ses.countP (isLatePoll last) = (e :: es).countP (StackEvent.isLatePoll last)) ∧
            (ses.Pairwise fun e e' => e.now ≤ e'.now) ∧ ∀ e ∈ ses, t ≤ e.now := by
        obtain ⟨ses, hrun', harrivals, hlate, hpairwise, hafter'⟩ := ih se.now hnext hrest' hrest
        refine ⟨se :: ses, ?_, ?_, fun last => ?_, .cons hafter' hpairwise, ?_⟩
        · rw [List.foldl_cons, hq]
          exact hrun'
        · unfold arrivals at harrivals ⊢
          rw [List.filterMap_cons, List.filterMap_cons, harrival, harrivals]
        · rw [List.countP_cons, List.countP_cons, hlate, hpoll]
        · intro e' he'
          rcases List.mem_cons.1 he' with rfl | he'
          · exact hle
          · exact hle.trans (hafter' e' he')
      cases e with
      | byte now recvChar =>
          have htimes : (StackEvent.byte now recvChar :: es).filterMap StackEvent.time? =
              now :: es.filterMap StackEvent.time? := rfl
          rw [htimes] at hafter hordered
          obtain ⟨hnext, hrest'⟩ := List.pairwise_cons.1 hordered
          exact hcons ⟨now, .byte recvChar⟩ (Option.some.inj hstep) rfl (fun _ => rfl)
            (hafter now List.mem_cons_self) hnext hrest'
      | poll now =>
          have htimes : (StackEvent.poll now :: es).filterMap StackEvent.time? =
              now :: es.filterMap StackEvent.time? := rfl
          rw [htimes] at hafter hordered
          obtain ⟨hnext, hrest'⟩ := List.pairwise_cons.1 hordered
          exact hcons ⟨now, .poll⟩ (Option.some.inj hstep) rfl (fun _ => by simp [isLatePoll,
            StackEvent.isLatePoll, QBusEvent.isPoll]) (hafter now List.mem_cons_self) hnext hrest'
      -- a step of another task has no time of its own: it is put right after what came before
      | task e =>
          obtain ⟨-, htask⟩ := Option.ite_none_left_eq_some.1 hstep
          obtain ⟨app, -, rfl⟩ := Option.map_eq_some_iff.1 htask
          exact hcons ⟨t, .other app⟩ rfl rfl (fun _ => by simp [isLatePoll, StackEvent.isLatePoll,
            QBusEvent.isPoll]) le_rfl hafter hordered

/-- A request that is conveyed to an idle slave is served. -/
theorem served_of_conveys {q q' : QBSlave Box} {f : Bytes} {es : List StackEvent} (hf : ValidRequest f)
    (hlen : q.framBuffLen = 100) (hidle : q.qBState = .idle) (hempty : q.recvByteCount = 0)
    (hes : Conveys f es) (hrun : runList stackStep q es = some q') : ∃ p, Served q f p q' := by
  obtain ⟨ses, rfl, harrivals, hlate, hpairwise, -⟩ :=
    slaveRun es 0 (fun _ _ => Nat.zero_le _) hes.ordered hrun
  have hbytes : (arrivals ses).map Prod.snd = f := harrivals ▸ hes.bytes
  have harr : arrivals ses ≠ [] := by
    intro hnil
    have hlong := hf.long
    rw [← hbytes, hnil] at hlong
    exact absurd hlong (by decide)
  have hfill : Filling q [] 0 q := ⟨.inl hidle, hlen, ⟨hempty, rfl⟩, fun h => absurd rfl h, rfl, rfl⟩
  have hlast : ((arrivals ses).map Prod.fst).getLastD 0 = ((arrivals ses).getLast harr).1 := by
    rw [List.getLastD_eq_getLast?, List.getLast?_map, List.getLast?_eq_some_getLast harr]
    rfl
  have hsilence : 4 ≤ ses.countP (isLatePoll ((arrivals ses).getLast harr).1) := by
    rw [hlate]
    exact hes.silence _ (harrivals ▸ List.getLast?_eq_some_getLast harr)
  exact hfill.run hf ses hbytes hpairwise (fun _ _ h => absurd rfl h) (fun h => absurd rfl h)
    (harrivals ▸ hes.gaps) hlast hsilence

/-! ## One request after the other -/

/-- The frame that was processed is the request. -/
structure Processed.Of (p : Processed) (f : Bytes) : Prop where
  frame : p.frameBuffer.take f.length = f
  count : p.recvByteCount = f.length

/-- **A session.** Each request is processed once, in order, and the replies go out in that order. -/
theorem session_processed {q q' : QBSlave Box} {fs : List Bytes} {es : List StackEvent}
    (h : Conversation fs es) (hsound : Sound q) (hidle : q.qBState = .idle) (hempty : q.recvByteCount = 0)
    (hrun : runList stackStep q es = some q') :
    ∃ ps, List.Forall₂ Processed.Of ps fs ∧ q'.processed = q.processed ++ ps ∧
      q'.transmitted = q.transmitted ++ (ps.map Processed.reply).flatten ∧ q'.qBState = .idle := by
  induction h generalizing q with
  | nil =>
      obtain rfl := Option.some.inj hrun
      exact ⟨[], .nil, (List.append_nil _).symm, (List.append_nil _).symm, hidle⟩
  | @cons f fs es rest hf hes _ ih =>
      rw [runList_append] at hrun
      obtain ⟨q₁, hfirst, hrest⟩ := Option.bind_eq_some_iff.1 hrun
      obtain ⟨p, hp⟩ := served_of_conveys hf hsound.len hidle hempty hes hfirst
      obtain ⟨ps, hall, hprocessed, htransmitted, hstate⟩ :=
        ih (hsound.runList es hfirst) hp.idle hp.empty hrest
      refine ⟨p :: ps, .cons ⟨hp.processed.frame, hp.processed.count⟩ hall, ?_, ?_, hstate⟩
      · rw [hprocessed, hp.processed.once, List.append_assoc]
        rfl
      · rw [htransmitted, hp.replied, List.append_assoc]
        rfl

/-! ## Transactions -/

/-- A request, the box as it finds it, what it is to the box, and its reply. -/
structure Transaction where
  request : Bytes
  box : Box
  event : BoxEvent
  reply : Bytes

/-- A read of registers that are not there, a write of one that is not there. -/
def Refused (f : Bytes) : Prop :=
  if byteAt f 0 = 0x01 then ¬ InWindow f else Box.writeReg? (requestAddress f) (requestLen f) = none

/-- The box executes the request, and the reply says so. -/
structure Transaction.Proper (t : Transaction) : Prop where
  /-- the bytes of the request are the data, those behind them are not the master's -/
  event : ∃ now data, t.request.drop 5 <+: data ∧
    t.event = if byteAt t.request 0 = 0x01 then .read now data
      else .write now (requestAddress t.request) (requestLen t.request) data
  long : 7 ≤ t.reply.length
  short : t.reply.length ≤ 18
  checksum : crc16Get t.reply = 0
  header : ∀ i, 1 ≤ i → i ≤ 4 → byteAt t.reply i = byteAt t.request i
  refused : Refused t.request → byteAt t.reply 0 = 0x80 ||| byteAt t.request 0
  accepted : ¬ Refused t.request → byteAt t.reply 0 = byteAt t.request 0
  /-- a read that is accepted is answered with the values of the box -/
  registers : byteAt t.request 0 = 0x01 → ¬ Refused t.request →
    t.reply.length = 5 + requestLen t.request + 2 ∧
      ∀ i < requestLen t.request,
        byteAt t.reply (5 + i) = t.box.registerValue (requestAddress t.request - 0x1000 + i)

omit [CJson] in
theorem callbackFails_iff {q : QBSlave Box} {f : Bytes} (hholds : q.Holds f) (hlong : 5 ≤ f.length)
    (now : ℕ) : callbackFails q.frameBuffer now q.app ↔ Refused f := by
  have haddress : word (byteAt q.frameBuffer 1) (byteAt q.frameBuffer 2) = requestAddress f :=
    hholds.requestAddress_eq hlong
  have hlen : word (byteAt q.frameBuffer 3) (byteAt q.frameBuffer 4) = requestLen f :=
    hholds.requestLen_eq hlong
  unfold callbackFails Refused
  dsimp only
  rw [hholds.byteAt_eq (by omega), haddress, hlen]
  by_cases hread : byteAt f 0 = 0x01
  · rw [if_pos hread, if_pos hread]
    unfold qbusRegReadCb
    refine ⟨fun hnone hin => ?_, fun hout => if_neg hout⟩
    rw [if_pos (by exact hin)] at hnone
    cases hnone
  · rw [if_neg hread, if_neg hread]
    cases hreg : Box.writeReg? (requestAddress f) (requestLen f) with
    | none =>
        refine iff_of_true ?_ rfl
        show (if (Box.writeReg? (requestAddress f) (requestLen f)).isSome = true then QBRegRetCode.success
          else .errAddr) ≠ .success
        rw [hreg]
        decide
    | some reg =>
        refine iff_of_false (not_not.2 ?_) (Option.some_ne_none reg)
        show (if (Box.writeReg? (requestAddress f) (requestLen f)).isSome = true then QBRegRetCode.success
          else .errAddr) = .success
        rw [hreg]
        rfl

omit [CJson] in
/-- What was processed for a call, with the request it was, is a proper transaction. -/
theorem Made.proper {p : Processed} {call : Box × BoxEvent} {f : Bytes} (hf : ValidRequest f)
    (hmade : Made p call) (hof : Processed.Of p f) :
    (⟨f, call.1, call.2, p.reply⟩ : Transaction).Proper := by
  obtain ⟨q, now, hsound, -, rfl, hbox, hevents⟩ := hmade
  have hholds : q.Holds f := ⟨hof.count, hof.frame⟩
  have hlong := hf.long
  have hsize : 18 ≤ q.framBuffLen := by
    rw [hsound.len]
    decide
  have hbuffer : 18 ≤ q.frameBuffer.length := q.size ▸ hsize
  have hfirst : byteAt q.frameBuffer 0 = byteAt f 0 := hholds.byteAt_eq (by omega)
  have hstart : byteAt q.frameBuffer 0 = 0x01 ∨ byteAt q.frameBuffer 0 = 0x02 := hfirst ▸ hf.start
  obtain ⟨hbody, hheader, -⟩ := replyBody_spec now q.app hbuffer hstart
  have htotal := replyBody_total_le q.frameBuffer now q.app
  have hlength : (q.reply now).length = (replyBody q.frameBuffer now q.app).totalByteToSend + 2 := by
    rw [reply_eq hsize, List.length_append, length_replyData hsize]
    rfl
  have hcode := reply_code hsize hstart now
  rw [hfirst] at hcode
  have hfails := callbackFails_iff hholds (by omega) now
  constructor
  case event =>
    have hdata : f.drop 5 <+: q.frameBuffer.drop 5 := by
      have hfront : q.frameBuffer.take f.length <+: q.frameBuffer := List.take_prefix _ _
      rw [hholds.2] at hfront
      exact hfront.drop 5
    refine ⟨now, q.frameBuffer.drop 5, hdata, ?_⟩
    unfold requestEvents at hevents
    rw [hfirst] at hevents
    show call.2 = if byteAt f 0 = 0x01 then .read now (q.frameBuffer.drop 5)
      else .write now (requestAddress f) (requestLen f) (q.frameBuffer.drop 5)
    rcases hf.start with hread | hwrite
    · rw [if_pos hread] at hevents ⊢
      exact (List.singleton_inj.1 hevents).symm
    · have hnot : byteAt f 0 ≠ 0x01 := by
        rw [hwrite]
        decide
      rw [if_neg hnot, if_pos hwrite] at hevents
      rw [if_neg hnot, ← hholds.requestAddress_eq (by omega), ← hholds.requestLen_eq (by omega)]
      exact (List.singleton_inj.1 hevents).symm
  case long =>
    show 7 ≤ (q.reply now).length
    omega
  case short =>
    show (q.reply now).length ≤ 18
    omega
  case checksum =>
    show crc16Get (q.reply now) = 0
    rw [reply_eq hsize]
    exact crc16Get_append_checkBytes _
  case header =>
    intro i hlow hhigh
    show byteAt (q.reply now) i = byteAt f i
    rw [byteAt_reply hsize hstart now (by omega), hheader i hlow hhigh, hholds.byteAt_eq (by omega)]
  case refused =>
    intro hrefused
    show byteAt (q.reply now) 0 = 0x80 ||| byteAt f 0
    rw [hcode, if_pos (hfails.2 hrefused)]
  case accepted =>
    intro haccepted
    show byteAt (q.reply now) 0 = byteAt f 0
    rw [hcode, if_neg fun hf => haccepted (hfails.1 hf)]
  case registers =>
    intro hread haccepted
    have hin : InWindow f := by
      unfold Refused at haccepted
      rw [if_pos (show byteAt f 0 = 0x01 from hread)] at haccepted
      exact not_not.1 haccepted
    obtain ⟨hall, -, hregisters⟩ := reply_window hsize hholds (by omega) hread hin now
    refine ⟨hall, ?_⟩
    rw [hbox]
    exact hregisters

omit [CJson] in
theorem conversation_valid {fs : List Bytes} {es : List StackEvent}
    (h : Conversation fs es) : ∀ f ∈ fs, ValidRequest f := by
  induction h with
  | nil => simp
  | cons hf _ _ ih => exact List.forall_mem_cons.2 ⟨hf, ih⟩

omit [CJson] in
/-- Requests, frames and calls that go together are transactions. -/
theorem exists_transactions {fs : List Bytes} {ps : List Processed} {calls : List (Box × BoxEvent)}
    (hvalid : ∀ f ∈ fs, ValidRequest f) (hof : List.Forall₂ Processed.Of ps fs)
    (hmade : List.Forall₂ Made ps calls) :
    ∃ ts : List Transaction, ts.map Transaction.request = fs ∧ (∀ t ∈ ts, t.Proper) ∧
      ts.map (fun t => (t.box, t.event)) = calls ∧
      ts.map Transaction.reply = ps.map Processed.reply := by
  induction hof generalizing calls with
  | nil =>
      cases hmade
      exact ⟨[], rfl, by simp, rfl, rfl⟩
  | @cons p f ps fs hpf _ ih =>
      obtain ⟨hf, hrest⟩ := List.forall_mem_cons.1 hvalid
      cases hmade with
      | @cons _ call _ calls hcall hcalls =>
          obtain ⟨ts, hrequests, hproper, hsame, hreplies⟩ := ih hrest hcalls
          exact ⟨⟨f, call.1, call.2, p.reply⟩ :: ts, congrArg (f :: ·) hrequests,
            List.forall_mem_cons.2 ⟨hcall.proper hf hpf, hproper⟩, congrArg (call :: ·) hsame,
            congrArg (p.reply :: ·) hreplies⟩

/-- **A session with a master.** Whatever came over the bus since power-on, after a pause the requests
are served one after the other, with steps of all other tasks anywhere: there is one transaction for each
of them, in order, and each is proper; the frames the box executes are those of the transactions, with
the box as each finds it; and the bytes sent are their replies. -/
theorem session_served {ok : Box → BoxEvent → Prop} {now : ℕ} {b : Box}
    {noise pause : List StackEvent} {before trace : List (QBSlave Box × StackEvent)}
    {q₀ q : QBSlave Box} {fs : List Bytes}
    (h₀ : Path (fun q e q' => stackStep q e = some q') (StackOk ok) (qbusInit now b) before q₀)
    (hbefore : before.map Prod.snd = noise ++ pause) (hpause : Pause noise pause)
    (h : Path (fun q e q' => stackStep q e = some q') (StackOk ok) q₀ trace q)
    (hsession : Conversation fs (trace.map Prod.snd)) :
    ∃ ts : List Transaction, ts.map Transaction.request = fs ∧ (∀ t ∈ ts, t.Proper) ∧
      ts.map (fun t => (t.box, t.event)) = observed boxCalls trace ∧
      q.transmitted = q₀.transmitted ++ (ts.map Transaction.reply).flatten ∧ q.qBState = .idle := by
  obtain ⟨hsound, hrests, hempty⟩ := rests_after_pause (hbefore ▸ runList_of_path h₀) hpause
  obtain ⟨ps, hof, hprocessed, htransmitted, hidle⟩ :=
    session_processed hsession hsound hrests hempty (runList_of_path h)
  obtain ⟨new, hnew, hmade⟩ := path_made hsound h
  obtain rfl : new = ps := List.append_cancel_left (hnew.symm.trans hprocessed)
  obtain ⟨ts, hrequests, hproper, hcalls, hreplies⟩ :=
    exists_transactions (conversation_valid hsession) hof hmade
  refine ⟨ts, hrequests, hproper, hcalls, ?_, hidle⟩
  rw [htransmitted, hreplies]

end

/-- A request with a poll and a handler step before its last byte, and the polls it needs. -/
def conveyStack (start : ℕ) (f : Bytes) : List StackEvent :=
  (f.dropLast.map fun b => StackEvent.byte start b) ++ [.poll start, .task Box.handlerStep] ++
    (f.drop (f.length - 1)).map (fun b => StackEvent.byte start b) ++
      [.poll (start + 10000), .poll (start + 20000), .poll (start + 30000), .poll (start + 40000)]

/-- Some bytes that are no frame, with a poll between them. -/
def noiseStack : List StackEvent := [.byte 0 0x01, .poll 0, .byte 0 0x55, .byte 0 0xFF]

def pauseStack : List StackEvent := [.poll 10000, .poll 20000, .poll 30000, .poll 40000]

/-- The power register is read twice. -/
def sessionStack : List StackEvent := conveyStack 100000 powerRequest ++ conveyStack 200000 powerRequest

theorem session_served_twice :
    ∃ (q₀ q : QBSlave Box) (ts : List Transaction),
      runList (@stackStep Box.writeParser) (qbusInit 0 Box.emptyBattery) (noiseStack ++ pauseStack) =
          some q₀ ∧
        runList (@stackStep Box.writeParser) q₀ sessionStack = some q ∧
        ts.map Transaction.request = [powerRequest, powerRequest] ∧ (∀ t ∈ ts, t.Proper) ∧
        q.transmitted = q₀.transmitted ++ (ts.map Transaction.reply).flatten := by
  have hruns : ((runGuarded (@stackStep Box.writeParser) (StackOk fun _ _ => True)
      (qbusInit 0 Box.emptyBattery) (noiseStack ++ pauseStack)).bind fun q₀ =>
        runGuarded (@stackStep Box.writeParser) (StackOk fun _ _ => True) q₀ sessionStack).isSome =
          true := by decide +kernel
  obtain ⟨q, hq⟩ := Option.isSome_iff_exists.1 hruns
  obtain ⟨q₀, hq₀, hq⟩ := Option.bind_eq_some_iff.1 hq
  have hpause : Pause noiseStack pauseStack := ⟨by decide +kernel, by decide +kernel⟩
  have hfirst : Conveys powerRequest (conveyStack 100000 powerRequest) :=
    ⟨by decide +kernel, by decide +kernel, by decide +kernel, by decide +kernel⟩
  have hsecond : Conveys powerRequest (conveyStack 200000 powerRequest) :=
    ⟨by decide +kernel, by decide +kernel, by decide +kernel, by decide +kernel⟩
  have hsession : Conversation [powerRequest, powerRequest]
      (conveyStack 100000 powerRequest ++ (conveyStack 200000 powerRequest ++ [])) :=
    .cons powerRequest_valid hfirst (.cons powerRequest_valid hsecond .nil)
  rw [List.append_nil, ← sessionStack] at hsession
  have hrun₀ := runList_of_runGuarded hq₀
  have hrun := runList_of_runGuarded hq
  obtain ⟨ts, hrequests, hproper, -, hsent, -⟩ :=
    @session_served Box.writeParser _ _ _ _ _ _ _ _ _ _ (path_of_runGuarded _ hq₀) (map_history hrun₀)
      hpause (path_of_runGuarded sessionStack hq) ((map_history hrun).symm ▸ hsession)
  exact ⟨q₀, q, ts, hrun₀, hrun, hrequests, hproper, hsent⟩

end QBSlave

end Cubbies
