import Cubbies.Qbus

set_option autoImplicit false

/-! # Receiving a frame does not depend on the polls

A frame goes through five phases: its bytes come in (`Filling`), and then it is `received` in a slave
that has not yet left `QBS_IDLE`, `waiting` for the silence, `built`, `sent` and `served`. After the
last byte every poll that is late enough takes the slave one phase on (`Serving.poll_late`) and no
poll takes it back, so four late polls are enough. Before the last byte no poll can take it out of
`Filling`, because the clock, cut to milliseconds, has not moved by three since the last byte. -/

namespace Cubbies

open CString

/-- A request as the slave accepts it. -/
structure ValidRequest (f : Bytes) : Prop where
  long : 7 ≤ f.length
  short : f.length ≤ 100
  start : byteAt f 0 = 0x01 ∨ byteAt f 0 = 0x02
  checksum : crc16Get f = 0

namespace QBSlave

variable {σ : Type*}

/-- The bytes of a schedule and their times. -/
def arrivals (es : List (QBusEvent σ)) : List (ℕ × UInt8) := es.filterMap QBusEvent.arrival?

/-- A poll more than `QB_FRAME_TIMEOUT_MS` ticks after the time `last`, and less than a turn of the
tick. -/
def isLatePoll (last : ℕ) (e : QBusEvent σ) : Bool :=
  e.isPoll ∧ millis last + 3 < millis e.now ∧ millis e.now < millis last + 4294967296

/-- The bytes of `f` with anything but bytes between and after them: fewer than three ticks from one
byte to the next, and at least four late polls after the last one. -/
structure Delivers (f : Bytes) (es : List (QBusEvent σ)) : Prop where
  bytes : (arrivals es).map Prod.snd = f
  ordered : es.Pairwise fun e e' => e.now ≤ e'.now
  gaps : (arrivals es).IsChain fun a a' => millis a'.1 < millis a.1 + 3
  silence : ∀ a ∈ (arrivals es).getLast?, 4 ≤ es.countP (isLatePoll a.1)

/-- Since `start`, one frame has been processed, and it was `f`. -/
structure ProcessedOnce (start : QBSlave σ) (f : Bytes) (p : Processed) (q : QBSlave σ) : Prop where
  once : q.processed = start.processed ++ [p]
  frame : p.frameBuffer.take f.length = f
  count : p.recvByteCount = f.length

/-- What the slave has to have done with `f` since `start`. -/
structure Served (start : QBSlave σ) (f : Bytes) (p : Processed) (q : QBSlave σ) : Prop where
  processed : ProcessedOnce start f p q
  /-- the reply built was sent, and nothing else -/
  replied : q.transmitted = start.transmitted ++ p.reply
  idle : q.qBState = .idle
  empty : q.recvByteCount = 0
  done : q.totalByteToSend = 0

/-! ## Bytes come in -/

/-- The bytes `r` have been received, the last one at the time `t`. -/
structure Filling (start : QBSlave σ) (r : Bytes) (t : ℕ) (q : QBSlave σ) : Prop where
  state : q.qBState = .idle ∨ (q.qBState = .frameRcv ∧ r ≠ [])
  len : q.framBuffLen = 100
  holds : q.Holds r
  tick : r ≠ [] → q.timeOutStartTick = tickOf (millis t)
  processed : q.processed = start.processed
  transmitted : q.transmitted = start.transmitted

theorem Filling.byte {start q : QBSlave σ} {r : Bytes} {t : ℕ} (h : Filling start r t q)
    (b : UInt8) (now : ℕ) (hroom : r.length < 100) :
    Filling start (r ++ [b]) now (qbSlavePortByteReceived q b now) := by
  obtain ⟨hcount, htake⟩ := h.holds
  have hlt : r.length < q.framBuffLen := by rw [h.len]; exact hroom
  have hbuf : r.length < q.frameBuffer.length := by rw [q.size, h.len]; exact hroom
  have hset : (q.frameBuffer.set r.length b).take (r.length + 1) = r ++ [b] := by
    rw [List.take_add_one, List.take_set_of_le (le_refl _), htake]
    simp [hbuf]
  have hplace : qbSlavePortByteReceived q b now =
      { q with
        frameBuffer := q.frameBuffer.set r.length b
        size := by rw [List.length_set, q.size]
        recvByteCount := r.length + 1
        timeOutStartTick := getStartTime now } := by
    simp only [qbSlavePortByteReceived, hcount, if_pos hlt]
  rw [hplace]
  constructor
  case state =>
    rcases h.state with hidle | ⟨hrcv, -⟩
    · exact .inl hidle
    · exact .inr ⟨hrcv, by simp⟩
  case len => exact h.len
  case holds => exact ⟨by simp, by simpa using hset⟩
  case tick => intro _; rfl
  case processed => exact h.processed
  case transmitted => exact h.transmitted

/-- A pass of the loop that sends. -/
theorem sendByte_eq {q : QBSlave σ} (h : q.sentByteCount < q.framBuffLen) :
    sendByte q = { q with
      transmitted := q.transmitted ++ [byteAt q.frameBuffer q.sentByteCount]
      sentByteCount := q.sentByteCount + 1
      totalByteToSend := q.totalByteToSend - 1 } := by
  unfold sendByte
  rw [if_pos h]

/-- The loop of `QBSlavePortTxEmptyIsr` hands over the bytes from `sentByteCount` on. -/
theorem sendByte_iterate (n : ℕ) (q : QBSlave σ) (hroom : q.sentByteCount + n ≤ q.framBuffLen) :
    (sendByte^[n] q) = { q with
      transmitted := q.transmitted ++ (q.frameBuffer.drop q.sentByteCount).take n
      sentByteCount := q.sentByteCount + n
      totalByteToSend := q.totalByteToSend - n } := by
  induction n generalizing q with
  | zero => simp
  | succ n ih =>
      have hlt : q.sentByteCount < q.framBuffLen := by omega
      have hlen : q.sentByteCount < q.frameBuffer.length := by rw [q.size]; exact hlt
      have hbyte : (q.frameBuffer.drop q.sentByteCount).take (n + 1) =
          byteAt q.frameBuffer q.sentByteCount ::
            (q.frameBuffer.drop (q.sentByteCount + 1)).take n := by
        rw [List.drop_eq_getElem_cons hlen, List.take_succ_cons]
        simp [byteAt, hlen]
      rw [Function.iterate_succ_apply, sendByte_eq hlt, ih _ (by simpa using by omega)]
      simp only [hbyte, List.append_assoc, List.singleton_append, Nat.sub_sub,
        Nat.add_comm 1 n, Nat.add_right_comm, Nat.add_assoc]

theorem Filling.byteAt_zero {start q : QBSlave σ} {r : Bytes} {t : ℕ} (h : Filling start r t q)
    (hne : r ≠ []) : byteAt q.frameBuffer 0 = byteAt r 0 := by
  conv_rhs => rw [← h.holds.2]
  simp [byteAt, List.length_pos_iff.2 hne]

theorem Filling.validate {start q : QBSlave σ} {f : Bytes} {t : ℕ} (h : Filling start f t q)
    (hf : ValidRequest f) : qbSlaveValidateFrame q = true := by
  obtain ⟨hcount, htake⟩ := h.holds
  have hlong := hf.long
  simp only [qbSlaveValidateFrame, hcount, htake, if_neg (Nat.not_lt.2 hlong), hf.checksum,
    decide_true]

/-! ## The frame is complete -/

/-- The reply is in the buffer. -/
structure Built (start : QBSlave σ) (f : Bytes) (p : Processed) (q : QBSlave σ) : Prop where
  processed : ProcessedOnce start f p q
  state : q.qBState = .sendFrame
  len : q.framBuffLen = 100
  transmitted : q.transmitted = start.transmitted
  unsent : q.sentByteCount = 0
  total_pos : 0 < q.totalByteToSend
  total_le : q.totalByteToSend ≤ 100
  reply : q.frameBuffer.take q.totalByteToSend = p.reply

/-- The reply is on the line. -/
structure Sent (start : QBSlave σ) (f : Bytes) (p : Processed) (q : QBSlave σ) : Prop where
  processed : ProcessedOnce start f p q
  state : q.qBState = .sendFrame
  replied : q.transmitted = start.transmitted ++ p.reply
  done : q.totalByteToSend = 0

/-- The slave has all of `f`, the last byte at the time `last`, and is `n` polls away from having
served it. -/
inductive Serving (start : QBSlave σ) (f : Bytes) (last : ℕ) : ℕ → QBSlave σ → Prop
  | received {q : QBSlave σ} : Filling start f last q → q.qBState = .idle →
      Serving start f last 4 q
  | waiting {q : QBSlave σ} : Filling start f last q → q.qBState = .frameRcv →
      Serving start f last 3 q
  | built {q : QBSlave σ} (p : Processed) : Built start f p q → Serving start f last 2 q
  | sent {q : QBSlave σ} (p : Processed) : Sent start f p q → Serving start f last 1 q
  | served {q : QBSlave σ} (p : Processed) : Served start f p q → Serving start f last 0 q

/-- What another task does to the program does not show at the slave. -/
theorem Filling.other {start q : QBSlave σ} {r : Bytes} {t : ℕ} (h : Filling start r t q) (app : σ) :
    Filling start r t { q with app := app } :=
  ⟨h.state, h.len, h.holds, h.tick, h.processed, h.transmitted⟩

theorem Serving.other {start q : QBSlave σ} {f : Bytes} {last n : ℕ}
    (h : Serving start f last n q) (app : σ) : Serving start f last n { q with app := app } := by
  cases h with
  | received hfill hidle => exact .received (hfill.other app) hidle
  | waiting hfill hrcv => exact .waiting (hfill.other app) hrcv
  | built p hb =>
      exact .built p ⟨⟨hb.processed.once, hb.processed.frame, hb.processed.count⟩, hb.state, hb.len,
        hb.transmitted, hb.unsent, hb.total_pos, hb.total_le, hb.reply⟩
  | sent p hs =>
      exact .sent p ⟨⟨hs.processed.once, hs.processed.frame, hs.processed.count⟩, hs.state,
        hs.replied, hs.done⟩
  | served p hdone =>
      exact .served p ⟨⟨hdone.processed.once, hdone.processed.frame, hdone.processed.count⟩,
        hdone.replied, hdone.idle, hdone.empty, hdone.done⟩

/-! ## Polls -/

section Polls

variable [QBusApp σ]

/-- A poll between two bytes finds the frame unfinished. -/
theorem Filling.poll {start q : QBSlave σ} {r : Bytes} {t : ℕ} (h : Filling start r t q) (now : ℕ)
    (hstart : r ≠ [] → byteAt r 0 = 0x01 ∨ byteAt r 0 = 0x02)
    (hnow : r ≠ [] → millis t ≤ millis now ∧ millis now < millis t + 3) :
    Filling start r t (qbSlavePoll q now) := by
  obtain ⟨hcount, htake⟩ := h.holds
  rcases h.state with hidle | ⟨hrcv, hne⟩
  · by_cases hempty : r = []
    -- nothing has come in yet
    · have hzero : ¬ q.recvByteCount ≥ 1 := by simp [hcount, hempty]
      have hsame : qbSlavePoll q now = q := by simp only [qbSlavePoll, hidle, if_neg hzero]
      rwa [hsame]
    · have hpos : q.recvByteCount ≥ 1 := by
        rw [hcount]
        exact List.length_pos_iff.2 hempty
      have hnext : qbSlavePoll q now = { q with qBState := .frameRcv } := by
        simp only [qbSlavePoll, hidle, if_pos hpos, h.byteAt_zero hempty, if_pos (hstart hempty)]
        rfl
      rw [hnext]
      exact ⟨.inr ⟨rfl, hempty⟩, h.len, h.holds, h.tick, h.processed, h.transmitted⟩
  · have hwait : timeSpent now q.timeOutStartTick 3 = false := by
      obtain ⟨hle, hlt⟩ := hnow hne
      rw [h.tick hne]
      exact timeSpent_eq_false hle (by rw [show (3 : UInt32).toNat = 3 from rfl]; omega)
    have hsame : qbSlavePoll q now = q := by
      simp only [qbSlavePoll, hrcv, hwait, Bool.false_eq_true, if_false]
    rwa [hsame]

/-- Processing the frame leaves a reply that fits the buffer. -/
theorem Filling.process {start q : QBSlave σ} {f : Bytes} {t : ℕ} (h : Filling start f t q)
    (now : ℕ) : Built start f ⟨q.frameBuffer, q.recvByteCount, (processFrame q.frameBuffer now q.app).buffer.take
        (processFrame q.frameBuffer now q.app).totalByteToSend⟩
      (qbSlaveSetState (qbSlaveProcessFrame q now) .sendFrame) := by
  have hle := processFrame_total_le q.frameBuffer now q.app
  constructor
  case processed =>
    refine ⟨?_, h.holds.2, h.holds.1⟩
    show q.processed ++ _ = _
    rw [h.processed]
  case state => rfl
  case len => exact h.len
  case transmitted => exact h.transmitted
  case unsent => rfl
  case total_pos => exact Nat.succ_pos _
  case total_le => exact le_trans hle (by omega)
  case reply => rfl

/-- **A poll after the last byte.** It never takes the slave back, and a late one takes it on. -/
theorem Serving.poll {start q : QBSlave σ} {f : Bytes} {last n : ℕ} (hf : ValidRequest f)
    (h : Serving start f last n q) (now : ℕ) :
    ∃ m, Serving start f last m (qbSlavePoll q now) ∧ m ≤ n ∧
      (millis last + 3 < millis now → millis now < millis last + 4294967296 → m ≤ n - 1) := by
  have hne : f ≠ [] := by
    rintro rfl
    exact absurd hf.long (by simp)
  cases h with
  | received hfill hidle =>
      obtain ⟨hcount, htake⟩ := hfill.holds
      have hpos : q.recvByteCount ≥ 1 := by
        rw [hcount]
        exact List.length_pos_iff.2 hne
      have hnext : qbSlavePoll q now = { q with qBState := .frameRcv } := by
        simp only [qbSlavePoll, hidle, if_pos hpos, hfill.byteAt_zero hne, if_pos hf.start]
        rfl
      rw [hnext]
      refine ⟨3, .waiting ⟨.inr ⟨rfl, hne⟩, hfill.len, hfill.holds, hfill.tick, hfill.processed,
        hfill.transmitted⟩ rfl, by omega, fun _ _ => le_refl 3⟩
  | waiting hfill hrcv =>
      by_cases hspent : timeSpent now q.timeOutStartTick 3 = true
      · have hnext : qbSlavePoll q now = qbSlaveSetState (qbSlaveProcessFrame q now) .sendFrame := by
          simp only [qbSlavePoll, hrcv, if_pos hspent, if_pos (hfill.validate hf)]
        rw [hnext]
        exact ⟨2, .built _ (hfill.process now), by omega, fun _ _ => by omega⟩
      · have hsame : qbSlavePoll q now = q := by
          simp only [qbSlavePoll, hrcv, if_neg hspent]
        rw [hsame]
        refine ⟨3, .waiting hfill hrcv, by omega, fun hlate hturn => ?_⟩
        refine absurd ?_ hspent
        rw [hfill.tick hne]
        exact timeSpent_eq_true (by rw [show (3 : UInt32).toNat = 3 from rfl]; omega) (by omega)
  | built p hb =>
      have hsend : qbSlavePoll q now = sendByte^[q.totalByteToSend] q := by
        simp only [qbSlavePoll, hb.state, qbSlavePortTxEmptyIsr, if_pos hb.total_pos]
      rw [hsend, sendByte_iterate _ _ (by rw [hb.unsent, hb.len]; have := hb.total_le; omega)]
      refine ⟨1, .sent p ⟨⟨hb.processed.once, hb.processed.frame, hb.processed.count⟩, hb.state,
        ?_, by simp⟩, by omega, fun _ _ => by omega⟩
      simp only [hb.unsent, List.drop_zero, hb.reply, hb.transmitted]
  | sent p hs =>
      have hnext : qbSlavePoll q now = qbSlaveSetState q .idle := by
        simp only [qbSlavePoll, hs.state, qbSlavePortTxEmptyIsr, hs.done, Nat.lt_irrefl,
          gt_iff_lt, if_false]
      rw [hnext]
      exact ⟨0, .served p ⟨⟨hs.processed.once, hs.processed.frame, hs.processed.count⟩,
        hs.replied, rfl, rfl, hs.done⟩, by omega, fun _ _ => by omega⟩
  | served p hdone =>
      have hsame : qbSlavePoll q now = q := by
        simp only [qbSlavePoll, hdone.idle, hdone.empty, Nat.not_le.2 Nat.zero_lt_one,
          if_false]
      rw [hsame]
      exact ⟨0, .served p hdone, le_refl 0, fun _ _ => Nat.zero_le _⟩

/-! ## Runs -/

omit [QBusApp σ] in
theorem exists_of_mem_arrivals {es : List (QBusEvent σ)} {a : ℕ × UInt8} (h : a ∈ arrivals es) :
    ∃ e ∈ es, e.now = a.1 := by
  obtain ⟨e, he, harr⟩ := List.mem_filterMap.1 h
  refine ⟨e, he, ?_⟩
  unfold QBusEvent.arrival? at harr
  split at harr
  · obtain rfl := Option.some.inj harr
    rfl
  · exact absurd harr (by simp)

/-- After the last byte: as many late polls as phases are left are enough. -/
theorem Serving.run {start : QBSlave σ} {f : Bytes} {last : ℕ} (hf : ValidRequest f)
    (es : List (QBusEvent σ)) {n : ℕ} {q : QBSlave σ} (h : Serving start f last n q)
    (hnone : arrivals es = []) (hlate : n ≤ es.countP (isLatePoll last)) :
    ∃ p, Served start f p (es.foldl step q) := by
  induction es generalizing n q with
  | nil =>
      obtain rfl : n = 0 := by simpa using hlate
      cases h with
      | served p hdone => exact ⟨p, hdone⟩
  | cons e es ih =>
      rw [List.countP_cons] at hlate
      have hnone' : arrivals es = [] := by
        simp only [arrivals, List.filterMap_eq_nil_iff, List.mem_cons] at hnone ⊢
        exact fun a ha => hnone a (.inr ha)
      cases hact : e.action with
      | byte b => simp [arrivals, QBusEvent.arrival?, hact] at hnone
      | poll =>
          obtain ⟨m, hm, hle, hnext⟩ := h.poll hf e.now
          have hstep : q.step e = qbSlavePoll q e.now := by simp only [step, hact]
          refine ih (n := m) ?_ hnone' ?_
          · rwa [hstep]
          · by_cases hl : isLatePoll last e = true
            · rw [if_pos hl] at hlate
              simp only [isLatePoll, Bool.decide_and, Bool.and_eq_true, decide_eq_true_eq] at hl
              have := hnext hl.2.1 hl.2.2
              omega
            · rw [if_neg hl] at hlate
              omega
      | other app =>
          have hstep : q.step e = { q with app := app } := by simp only [step, hact]
          refine ih (n := n) ?_ hnone' ?_
          · rw [hstep]
            exact h.other app
          · simpa [isLatePoll, QBusEvent.isPoll, hact] using hlate

/-- From any point of the frame on. -/
theorem Filling.run {start : QBSlave σ} {f : Bytes} {last : ℕ} (hf : ValidRequest f)
    (es : List (QBusEvent σ)) {q : QBSlave σ} {r : Bytes} {t : ℕ} (h : Filling start r t q)
    (hbytes : r ++ (arrivals es).map Prod.snd = f)
    (hordered : es.Pairwise fun e e' => e.now ≤ e'.now) (hafter : ∀ e ∈ es, r ≠ [] → t ≤ e.now)
    (hgaps : r ≠ [] → ∀ a ∈ (arrivals es).head?, millis a.1 < millis t + 3)
    (hchain : (arrivals es).IsChain fun a a' => millis a'.1 < millis a.1 + 3)
    (hlast : ((arrivals es).map Prod.fst).getLastD t = last)
    (hlate : 4 ≤ es.countP (isLatePoll last)) :
    ∃ p, Served start f p (es.foldl step q) := by
  induction es generalizing q r t with
  | nil => simp at hlate
  | cons e es ih =>
      by_cases hnone : arrivals (e :: es) = []
      -- the frame is complete: the rest are polls
      · obtain rfl : r = f := by simpa [hnone] using hbytes
        obtain rfl : t = last := by simpa [hnone] using hlast
        rcases h.state with hidle | ⟨hrcv, -⟩
        · exact (Serving.received h hidle).run hf _ hnone hlate
        · exact (Serving.waiting h hrcv).run hf _ hnone (by omega)
      rw [List.pairwise_cons] at hordered
      obtain ⟨hfirst, hordered⟩ := hordered
      cases hact : e.action with
      | byte b =>
          have hcons : arrivals (e :: es) = (e.now, b) :: arrivals es := by
            simp [arrivals, QBusEvent.arrival?, hact]
          rw [hcons] at hbytes hchain hlast
          have hroom : r.length < 100 := by
            have hlen := congrArg List.length hbytes
            have := hf.short
            simp only [List.length_append, List.length_map, List.length_cons] at hlen
            omega
          have hstep : q.step e = qbSlavePortByteReceived q b e.now := by simp only [step, hact]
          refine ih (r := r ++ [b]) (t := e.now) ?_ ?_ hordered ?_ ?_ ?_ ?_ ?_
          · rw [hstep]
            exact h.byte b e.now hroom
          · rw [List.append_assoc]
            exact hbytes
          · exact fun e' he' _ => hfirst e' he'
          · exact fun _ a ha => (List.isChain_cons.1 hchain).1 a ha
          · exact (List.isChain_cons.1 hchain).2
          · rwa [List.map_cons, List.getLastD_cons] at hlast
          · simpa [isLatePoll, QBusEvent.isPoll, hact] using hlate
      | poll =>
          have hsame : arrivals (e :: es) = arrivals es := by
            simp [arrivals, QBusEvent.arrival?, hact]
          rw [hsame] at hbytes hgaps hchain hlast hnone
          obtain ⟨a, rest, hcons⟩ := List.exists_cons_of_ne_nil hnone
          have hle : ∀ a' ∈ arrivals es, e.now ≤ a'.1 := by
            intro a' ha'
            obtain ⟨e', he', hnow⟩ := exists_of_mem_arrivals ha'
            exact hnow ▸ hfirst e' he'
          have hstep : q.step e = qbSlavePoll q e.now := by simp only [step, hact]
          refine ih (r := r) (t := t) ?_ hbytes hordered ?_ hgaps hchain hlast ?_
          · rw [hstep]
            refine h.poll e.now (fun hne => ?_) fun hne => ⟨?_, ?_⟩
            · obtain ⟨b, bs, rfl⟩ := List.exists_cons_of_ne_nil hne
              have hstart := hf.start
              rw [← hbytes] at hstart
              exact hstart
            · exact Nat.div_le_div_right (hafter e List.mem_cons_self hne)
            -- the next byte is less than three ticks after the last one, and the poll is before it
            · have hnext := hgaps hne a (by rw [hcons]; rfl)
              have hbefore : millis e.now ≤ millis a.1 :=
                Nat.div_le_div_right (hle a (by rw [hcons]; exact List.mem_cons_self))
              omega
          · exact fun e' he' => hafter e' (List.mem_cons_of_mem _ he')
          · have hmem : last ∈ (arrivals es).map Prod.fst := by
              rw [← hlast, hcons, List.map_cons, List.getLastD_cons]
              exact List.getLastD_mem_cons
            obtain ⟨a', ha', rfl⟩ := List.mem_map.1 hmem
            have hearly : isLatePoll a'.1 e = false := by
              have hbefore : millis e.now ≤ millis a'.1 := Nat.div_le_div_right (hle a' ha')
              simp only [isLatePoll, decide_eq_false_iff_not]
              omega
            simpa [hearly] using hlate
      | other app =>
          have hsame : arrivals (e :: es) = arrivals es := by
            simp [arrivals, QBusEvent.arrival?, hact]
          rw [hsame] at hbytes hgaps hchain hlast
          have hstep : q.step e = { q with app := app } := by simp only [step, hact]
          refine ih (r := r) (t := t) ?_ hbytes hordered ?_ hgaps hchain hlast ?_
          · rw [hstep]
            exact h.other app
          · exact fun e' he' => hafter e' (List.mem_cons_of_mem _ he')
          · simpa [isLatePoll, QBusEvent.isPoll, hact] using hlate

/-- **A frame is served once, whatever the polls.** -/
theorem served_of_delivers {q : QBSlave σ} {f : Bytes} {es : List (QBusEvent σ)}
    (hf : ValidRequest f) (hlen : q.framBuffLen = 100) (hidle : q.qBState = .idle)
    (hempty : q.recvByteCount = 0) (hes : Delivers f es) :
    ∃ p, Served q f p (es.foldl step q) := by
  have hne : f ≠ [] := by
    rintro rfl
    exact absurd hf.long (by simp)
  have harr : arrivals es ≠ [] := by
    intro hnil
    exact hne (by rw [← hes.bytes, hnil]; rfl)
  have hfill : Filling q [] 0 q :=
    ⟨.inl hidle, hlen, ⟨hempty, rfl⟩, fun h => absurd rfl h, rfl, rfl⟩
  refine hfill.run hf es hes.bytes hes.ordered (fun _ _ h => absurd rfl h)
    (fun h => absurd rfl h) hes.gaps rfl ?_
  refine hes.silence ((arrivals es).getLast harr) ?_ |>.trans_eq ?_
  · exact List.getLast?_eq_some_getLast harr
  · rw [List.getLastD_eq_getLast?, List.getLast?_map, List.getLast?_eq_some_getLast harr]
    rfl

end Polls

/-! ## The silence is counted in whole milliseconds -/

@[reducible] def sampleApp : QBusApp Unit where
  readFrame app _ _ := app
  registers _ := Vector.replicate 11 0
  regWriteCb app _ _ _ _ := (.errAddr, app)

/-- A slave right after `QBSlaveStart`. -/
def sampleSlave : QBSlave Unit := qbSlaveStart (qbSlaveInit 0 (List.replicate 100 0) ())

/-- A read of the first register. -/
def sampleRequest : Bytes := [0x01, 0x10, 0x00, 0x00, 0x01, 0xDC, 0xC0]

def byteEvent (now : ℕ) (b : UInt8) : QBusEvent Unit := ⟨now, .byte b⟩

def pollEvent (now : ℕ) : QBusEvent Unit := ⟨now, .poll⟩

def latePolls : List (QBusEvent Unit) := [10000, 20000, 30000, 40000].map pollEvent

/-- The request with its bytes 100 microseconds apart. -/
def wholeRun : List (QBusEvent Unit) :=
  pollEvent 0 :: (List.zipWith byteEvent [100, 200, 300, 400, 500, 600, 700] sampleRequest ++
    latePolls)

/-- The request with 2900 microseconds before its last byte, and a poll just before that byte. The
byte before comes in at 900 microseconds and counts as tick 0, the poll is at tick 3. -/
def splitRun : List (QBusEvent Unit) :=
  byteEvent 0 0x01 :: pollEvent 50 ::
    (List.zipWith byteEvent [100, 200, 300, 400, 900] [0x10, 0x00, 0x00, 0x01, 0xDC] ++
      pollEvent 3700 :: byteEvent 3800 0xC0 :: latePolls)

theorem sampleRequest_valid : ValidRequest sampleRequest :=
  ⟨by decide, by decide, by decide, by decide +kernel⟩

theorem served_of_delivers_wholeRun :
    ∃ p, Served sampleSlave sampleRequest p (wholeRun.foldl (@step _ sampleApp) sampleSlave) :=
  @served_of_delivers _ sampleApp _ _ _ sampleRequest_valid (by decide) (by decide) (by decide)
    ⟨by decide, by decide, by decide, by decide⟩

/-- Less than 3 milliseconds between the bytes are not enough. -/
theorem splitRun_not_served :
    ValidRequest sampleRequest ∧ (arrivals splitRun).map Prod.snd = sampleRequest ∧
      (splitRun.Pairwise fun e e' => e.now ≤ e'.now) ∧
      ((arrivals splitRun).IsChain fun a a' => a'.1 < a.1 + 3000) ∧
      splitRun.countP (isLatePoll 3800) = 4 ∧
      ¬ ∃ p, Served sampleSlave sampleRequest p
        (splitRun.foldl (@step _ sampleApp) sampleSlave) := by
  refine ⟨sampleRequest_valid, by decide, by decide, by decide, by decide, ?_⟩
  rintro ⟨p, hp⟩
  have hnone : (splitRun.foldl (@step _ sampleApp) sampleSlave).processed.length = 0 := by decide
  rw [hp.processed.once] at hnone
  exact absurd hnone (by simp)

end QBSlave

end Cubbies
