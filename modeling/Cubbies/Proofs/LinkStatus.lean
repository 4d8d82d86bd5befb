import Cubbies.Proofs.CredentialsFresh

set_option autoImplicit false

/-! # When `connect` and `isConnected` tell the truth

`connected` is set by `__connect` when its wait returns the connected bit, and cleared by
`__disconnect` when its wait returns the disconnected bit. Nothing else touches it. A link that is lost
while the box means to be connected makes `eventHandler` call `esp_wifi_connect` again and leaves the
flag as it is, and a got-IP event that nobody waited for is taken by the next `__connect` for its own.

`connect_truthful_iff` says which events and calls keep the flag true to the station: after any run of
such, the next one does exactly if it is such a one again. -/

namespace Cubbies

namespace Wifi

/-! ## The latest station event -/

/-- The latest event the station reported, in a history with its latest entry first. -/
def latestStation : List WifiAction → Option StaEvent
  | [] => none
  | .reported e :: _ => some e
  | _ :: older => latestStation older

/-- The station got its address and has not lost the link since. -/
def Linked (w : Wifi) : Prop := latestStation w.history = some .staGotIp

/-- `isConnected` is right if it returns true. -/
def Truthful (w : Wifi) : Prop := w.isConnected = true → w.Linked

/-- The latest station event once these have come. -/
def lastEvent (w : Wifi) (es : List StaEvent) : Option StaEvent :=
  es.getLast? <|> latestStation w.history

theorem latestStation_events (es : List StaEvent) (h : List WifiAction) :
    latestStation ((es.map WifiAction.reported).reverse ++ h) = (es.getLast? <|> latestStation h) := by
  cases es using List.reverseRecOn with
  | nil => rfl
  | append_singleton es e => simp [latestStation]

/-- Where the latest event is that of `es`, or was the latest before, more events come behind those. -/
theorem lastEvent_append {w w' : Wifi} {es : List StaEvent}
    (h : latestStation w'.history = w.lastEvent es) (es' : List StaEvent) :
    w'.lastEvent es' = w.lastEvent (es ++ es') := by
  unfold lastEvent at h ⊢
  rw [h, List.getLast?_append]
  cases es'.getLast? <;> rfl

/-- A wait on the connected bit would see it, with these events before it ends. -/
def SeesGotIp (w : Wifi) (es : List StaEvent) : Prop :=
  w.connectedBit = true ∨ StaEvent.staGotIp ∈ es

instance (w : Wifi) (es : List StaEvent) : Decidable (w.SeesGotIp es) :=
  inferInstanceAs (Decidable (_ ∨ _))

/-! ## What the two waits do to the flag -/

theorem eventHandler_disconnectedBit {w : Wifi} (hflag : w.connectFlag = false) (e : StaEvent) :
    (w.eventHandler e).connectFlag = false ∧
      (w.eventHandler e).disconnectedBit =
        (w.disconnectedBit || decide (e = .staDisconnected)) := by
  cases e <;> simp [eventHandler, hflag]

theorem deliver_disconnectedBit {w : Wifi} (hflag : w.connectFlag = false) (es : List StaEvent) :
    (w.deliver es).connectFlag = false ∧
      (w.deliver es).disconnectedBit =
        (w.disconnectedBit || decide (StaEvent.staDisconnected ∈ es)) := by
  induction es generalizing w with
  | nil => simp [hflag]
  | cons e es ih =>
      obtain ⟨hflag', hbit⟩ := eventHandler_disconnectedBit hflag e
      obtain ⟨hlast, hbits⟩ := ih hflag'
      refine ⟨hlast, ?_⟩
      rw [deliver_cons, hbits, hbit, Bool.or_assoc]
      congr 1
      simp [eq_comm]

/-- A wait on the disconnected bit sees it if it was set or the link is lost meanwhile. -/
theorem waitDisconnected_seen {w : Wifi} (hfail : w.failedBit = false) (hflag : w.connectFlag = false)
    (es : List StaEvent) :
    (w.waitDisconnected es).1 = (w.disconnectedBit || decide (StaEvent.staDisconnected ∈ es)) := by
  rcases waitDisconnected_cases w es with ⟨before, after, rfl, hset, heq⟩ | ⟨hclear, heq⟩
  · obtain ⟨hfail', -⟩ := deliver_frame w before
    rw [hfail', hfail, Bool.or_false] at hset
    rw [heq]
    rw [(deliver_disconnectedBit hflag before).2] at hset ⊢
    simp only [Bool.or_eq_true, decide_eq_true_eq] at hset
    rcases hset with hset | hset <;> simp [hset]
  · rw [heq]
    rw [(deliver_disconnectedBit hflag es).2] at hclear
    exact hclear.symm

/-- A wait on the connected bit that does not see it leaves it clear. -/
theorem waitConnected_unseen {w : Wifi} (hfail : w.failedBit = false) (es : List StaEvent) :
    (w.waitConnected es).1 = false → (w.waitConnected es).2.connectedBit = false := by
  intro hunseen
  rcases waitConnected_cases w es with ⟨before, after, -, hset, heq⟩ | ⟨hclear, heq⟩
  · rw [heq] at hunseen
    rw [(deliver_frame w before).1, hfail, Bool.or_false] at hset
    cases hset.symm.trans hunseen
  · rw [heq]
    exact hclear

/-- `__disconnect` clears the flag if it sees the link go down. -/
theorem disconnectPrivate_connected {w : Wifi} (hfail : w.failedBit = false) (s : WaitScript) :
    (w.disconnectPrivate s).2.connected = true ↔
      w.connected = true ∧ w.disconnectedBit = false ∧ StaEvent.staDisconnected ∉ s.events := by
  obtain ⟨hflag, hbit⟩ := deliver_disconnectedBit (w := { w with connectFlag := false }) rfl s.before
  have hfail' := (deliver_frame { w with connectFlag := false } s.before).1
  have hseen := waitDisconnected_seen (hfail'.trans hfail) hflag s.during
  have hall : (({ w with connectFlag := false }.deliver s.before).waitDisconnected s.during).1 =
      (w.disconnectedBit || decide (StaEvent.staDisconnected ∈ s.events)) := by
    rw [hseen, hbit]
    simp [WaitScript.events, Bool.or_assoc]
  unfold disconnectPrivate
  dsimp only
  rw [hall]
  split
  · next hsees =>
      refine iff_of_false Bool.false_ne_true ?_
      rintro ⟨-, hno, hlost⟩
      simp [hno, hlost] at hsees
  · next hsees =>
      have hsame : (({ w with connectFlag := false } : Wifi).deliver s.before |>.waitDisconnected
          s.during).2.connected = w.connected :=
        (unaffected_connected.waitDisconnected _ _).trans (unaffected_connected.deliver _ _)
      rw [hsame]
      simp only [Bool.or_eq_true, decide_eq_true_eq, not_or, Bool.not_eq_true] at hsees
      exact ⟨fun h => ⟨h, hsees.1, hsees.2⟩, And.left⟩

/-- `__connect` sets the flag if it sees a got-IP event, its own or an old one. -/
theorem connectPrivate_connected {w : Wifi} (hfail : w.failedBit = false) (s : WaitScript) :
    ((w.connectPrivate s).2.connected = true ↔ w.connected = true ∨ w.SeesGotIp s.events) ∧
      (¬ w.SeesGotIp s.events → (w.connectPrivate s).2.connectedBit = false) := by
  obtain ⟨hret, -⟩ := connectPrivate_spec w s hfail
  have hfail' := (deliver_frame w.issueConnect s.before).1
  have hunseen := waitConnected_unseen (hfail'.trans hfail) s.during
  replace hret : (w.connectPrivate s).1 = 0 ↔ w.SeesGotIp s.events := hret
  rw [← hret]
  unfold connectPrivate
  dsimp only
  split
  · exact ⟨iff_of_true rfl (.inr rfl), fun h => absurd rfl h⟩
  · next hsees =>
      have hsame : ((w.issueConnect.deliver s.before).waitConnected s.during).2.connected =
          w.connected :=
        (unaffected_connected.waitConnected _ _).trans (unaffected_connected.deliver _ _)
      refine ⟨?_, fun _ => hunseen (Bool.eq_false_iff.2 hsees)⟩
      rw [hsame]
      exact ⟨.inl, fun h => h.resolve_right (show ¬ (1 : UInt8) = 0 by decide)⟩

/-! ## Which events and calls keep the flag true -/

/-- After its first wait `bleWriteCredentials` still counts the box as connected. -/
def StillConnected (w : Wifi) (s : CredentialsScript) : Prop :=
  w.connected = true ∧ w.disconnectedBit = false ∧ StaEvent.staDisconnected ∉ s.stop.events

/-- No wait of the call makes the box count as connected without a link: not before the request, not
when the wait for the new credentials ends, and not when that for the old ones does. -/
structure CredentialsKept (w : Wifi) (s : CredentialsScript) : Prop where
  prepare : w.StillConnected s → w.lastEvent (w.eventsBeforeConnect s) = some .staGotIp
  connect : w.StillConnected s ∨ w.SeesGotIp (w.eventsBeforeConnect s ++ s.connect.events) →
    w.lastEvent (w.eventsBeforeConnect s ++ s.connect.events) = some .staGotIp
  fallback : ¬ w.SeesGotIp (w.eventsBeforeConnect s ++ s.connect.events) → w.count ≠ 0 →
    w.StillConnected s ∨ StaEvent.staGotIp ∈ s.fallback.events →
    w.lastEvent (w.eventsBeforeConnect s ++ s.connect.events ++ s.fallback.events) = some .staGotIp

/-- The link is not lost while the box counts as connected, and a call that makes the box count as
connected ends with a got-IP event as the latest. -/
def LinkKept (w : Wifi) : Event → Prop
  | .station e => w.connected = true → e = .staGotIp
  | .connect s =>
      w.credentials.ssid ≠ [] → w.connected = false → w.SeesGotIp s.events →
        w.lastEvent s.events = some .staGotIp
  | .bleWriteCredentials s _ => w.CredentialsKept s
  | _ => True

/-- The states in which `isConnected` can be asked once the event has begun: when a call returns, and
between the waits of `bleWriteCredentials`. -/
def moments (w : Wifi) : Event → List Wifi
  | .bleWriteCredentials s new =>
      [w.prepareCredentials s new, ((w.prepareCredentials s new).connectPrivate s.connect).2,
        (w.bleWriteCredentials s new).2]
  | e => [w.step e]

/-- `isConnected` and `connect` tell the truth throughout this event. -/
structure TellsTruth (w : Wifi) (e : Event) : Prop where
  isConnected : ∀ w' ∈ w.moments e, w'.isConnected = true → w'.Linked
  connect : ∀ s, e = .connect s → (w.connect s).1 = 0 → (w.connect s).2.Linked

theorem connectPrivate_latest {w : Wifi} (hfail : w.failedBit = false) (s : WaitScript) :
    latestStation (w.connectPrivate s).2.history = w.lastEvent s.events := by
  rw [(connectPrivate_spec w s hfail).2.1, latestStation_events]
  rfl

/-- `__connect` leaves a truthful flag exactly if the link is up whenever the flag is set. -/
theorem connectPrivate_truthful_iff {w : Wifi} (hfail : w.failedBit = false) (s : WaitScript) :
    (w.connectPrivate s).2.Truthful ↔
      (w.connected = true ∨ w.SeesGotIp s.events → w.lastEvent s.events = some .staGotIp) := by
  have hlink : (w.connectPrivate s).2.Linked ↔ w.lastEvent s.events = some .staGotIp := by
    unfold Linked
    rw [connectPrivate_latest hfail s]
  show ((w.connectPrivate s).2.connected = true → (w.connectPrivate s).2.Linked) ↔ _
  rw [(connectPrivate_connected hfail s).1, hlink]

/-- **`__disconnect` keeps the flag truthful**: with the flag still set, no link was lost. -/
theorem Truthful.disconnectPrivate {w : Wifi} (h : w.Truthful) (hfail : w.failedBit = false)
    (s : WaitScript) : (w.disconnectPrivate s).2.Truthful := by
  intro hconn
  obtain ⟨hbefore, -, hlost⟩ := (disconnectPrivate_connected hfail s).1 hconn
  unfold Linked
  rw [(disconnectPrivate_spec w s hfail).2.1, latestStation_events]
  cases hlast : s.events.getLast? with
  | none => exact h hbefore
  | some e =>
      cases e with
      | staGotIp => rfl
      | staDisconnected => exact absurd (List.mem_of_getLast? hlast) hlost

theorem prepareCredentials_connected {w : Wifi} (hfail : w.failedBit = false) (s : CredentialsScript)
    (new : Credentials) :
    (w.prepareCredentials s new).connected = true ↔ w.StillConnected s := by
  unfold prepareCredentials StillConnected Wifi.isConnected
  rw [unaffected_connected.deliver]
  cases hconn : w.connected with
  | true =>
      rw [if_pos rfl]
      exact (disconnectPrivate_connected hfail s.stop).trans (by rw [hconn])
  | false =>
      refine iff_of_false ?_ fun h => Bool.false_ne_true h.1
      show ¬ w.connected = true
      rw [hconn]
      exact Bool.false_ne_true

/-- Behind a request that did not see the station connect, a second one starts with the connected bit
clear, and leaves a truthful flag by the same rule. -/
theorem fallback_truthful_iff {w : Wifi} (hfail : w.failedBit = false)
    (hbit : w.connectedBit = false) (old : Credentials) (s : WaitScript) :
    ((w.setConfig old).connectPrivate s).2.Truthful ↔
      (w.connected = true ∨ StaEvent.staGotIp ∈ s.events →
        w.lastEvent s.events = some .staGotIp) := by
  have hsees : (w.setConfig old).SeesGotIp s.events ↔ StaEvent.staGotIp ∈ s.events :=
    or_iff_right (show ¬ w.connectedBit = true from hbit ▸ Bool.false_ne_true)
  rw [connectPrivate_truthful_iff (w := w.setConfig old) hfail, hsees]
  exact Iff.rfl

/-- **A call of `bleWriteCredentials`**, wait by wait. -/
theorem bleWriteCredentials_truthful_iff {w : Wifi} (hfail : w.failedBit = false)
    (s : CredentialsScript) (new : Credentials) :
    (∀ w' ∈ w.moments (.bleWriteCredentials s new), w'.Truthful) ↔ w.CredentialsKept s := by
  obtain ⟨hbit, hhistory, hfail₁, -⟩ := prepareCredentials_spec w s new hfail
  have hconn := prepareCredentials_connected hfail s new
  have hcount := prepareCredentials_count w s new
  have hlatest : latestStation (w.prepareCredentials s new).history =
      w.lastEvent (w.eventsBeforeConnect s) := by
    rw [hhistory, latestStation_events]
    rfl
  have hsees : ∀ es, (w.prepareCredentials s new).SeesGotIp es ↔
      w.SeesGotIp (w.eventsBeforeConnect s ++ es) := by
    intro es
    unfold SeesGotIp
    rw [hbit]
    simp [or_assoc]
  unfold moments bleWriteCredentials
  dsimp only
  generalize w.prepareCredentials s new = w₁ at hfail₁ hconn hcount hlatest hsees ⊢
  obtain ⟨hret, -, hfail₂, hcount₂⟩ := connectPrivate_spec w₁ s.connect hfail₁
  obtain ⟨hconn₂, hunseen⟩ := connectPrivate_connected hfail₁ s.connect
  have hlatest₂ : latestStation (w₁.connectPrivate s.connect).2.history =
      w.lastEvent (w.eventsBeforeConnect s ++ s.connect.events) :=
    (connectPrivate_latest hfail₁ s.connect).trans (lastEvent_append hlatest s.connect.events)
  have hprepare : w₁.Truthful ↔
      (w.StillConnected s → w.lastEvent (w.eventsBeforeConnect s) = some .staGotIp) := by
    rw [← hconn, ← hlatest]
    exact Iff.rfl
  have hconnect : (w₁.connectPrivate s.connect).2.Truthful ↔
      (w.StillConnected s ∨ w.SeesGotIp (w.eventsBeforeConnect s ++ s.connect.events) →
        w.lastEvent (w.eventsBeforeConnect s ++ s.connect.events) = some .staGotIp) := by
    rw [connectPrivate_truthful_iff hfail₁, hconn, hsees, lastEvent_append hlatest]
  replace hret : (w₁.connectPrivate s.connect).1 = 0 ↔
      w.SeesGotIp (w.eventsBeforeConnect s ++ s.connect.events) := hret.trans (hsees _)
  rw [hsees] at hconn₂ hunseen
  rw [hcount] at hcount₂
  generalize w₁.connectPrivate s.connect = r at *
  obtain ⟨code, w₂⟩ := r
  dsimp only at hfail₂ hcount₂ hconn₂ hunseen hlatest₂ hconnect hret ⊢
  rw [hconn] at hconn₂
  -- the last of the three states adds something only after a second request
  have hfallback : ¬ w.SeesGotIp (w.eventsBeforeConnect s ++ s.connect.events) →
      (((w₂.setConfig w₂.credentials).connectPrivate s.fallback).2.Truthful ↔
        (w.StillConnected s ∨ StaEvent.staGotIp ∈ s.fallback.events →
          w.lastEvent (w.eventsBeforeConnect s ++ s.connect.events ++ s.fallback.events) =
            some .staGotIp)) := by
    intro hno
    rw [fallback_truthful_iff hfail₂ (hunseen hno), hconn₂, or_iff_left hno,
      lastEvent_append hlatest₂]
  simp only [List.forall_mem_cons, List.not_mem_nil, false_imp_iff, implies_true, and_true]
  constructor
  · rintro ⟨htruth, htruth₂, hfinal⟩
    refine ⟨hprepare.1 htruth, hconnect.1 htruth₂, ?_⟩
    intro hno hused
    rw [if_neg fun h => hno (hret.1 h), if_neg (hcount₂ ▸ hused)] at hfinal
    exact (hfallback hno).1 hfinal
  · intro hkept
    have htruth₂ := hconnect.2 hkept.connect
    refine ⟨hprepare.2 hkept.prepare, htruth₂, ?_⟩
    split
    · -- the credentials worked: the link may be released again
      have hreleased : (if w₂.count = 0 then (w₂.disconnectPrivate s.release).2 else w₂).Truthful := by
        split
        · exact htruth₂.disconnectPrivate hfail₂ s.release
        · exact htruth₂
      exact hreleased
    · next hzero =>
        split
        · exact htruth₂
        · next hused =>
            have hno : ¬ w.SeesGotIp (w.eventsBeforeConnect s ++ s.connect.events) :=
              fun h => hzero (hret.2 h)
            exact (hfallback hno).2 (hkept.fallback hno (hcount₂ ▸ hused))

/-- A change of what the flag and the history do not depend on. -/
theorem truthful_congr {w w' : Wifi} (hconn : w'.connected = w.connected)
    (hhistory : w'.history = w.history) : w'.Truthful ↔ w.Truthful := by
  unfold Truthful Wifi.isConnected Linked
  rw [hconn, hhistory]

theorem connect_truthful_step {w : Wifi} (hfail : w.failedBit = false) (h : w.Truthful)
    (s : WaitScript) : (w.connect s).2.Truthful ↔ w.LinkKept (.connect s) := by
  have hcounted : ({ w with count := w.count + 1 } : Wifi).Truthful :=
    (truthful_congr rfl rfl).2 h
  unfold connect LinkKept
  dsimp only
  split
  · next hempty => exact iff_of_true h fun hne => absurd hempty hne
  · next hne =>
      split
      · next hconn =>
          refine iff_of_true hcounted fun _ hno => ?_
          rw [hconn] at hno
          cases hno
      · next hconn =>
          refine (connectPrivate_truthful_iff (w := { w with count := w.count + 1 }) hfail s).trans ?_
          constructor
          · intro hkept _ _ hsees
            exact hkept (.inr hsees)
          · intro hkept hor
            exact hkept hne (Bool.eq_false_iff.2 hconn) (hor.resolve_left hconn)

theorem disconnect_truthful {w : Wifi} (hfail : w.failedBit = false) (h : w.Truthful)
    (s : WaitScript) : (w.disconnect s).2.Truthful := by
  have hcounted : ({ w with count := w.count - 1 } : Wifi).Truthful :=
    (truthful_congr rfl rfl).2 h
  unfold disconnect
  dsimp only
  split
  · exact h
  · split
    · exact hcounted.disconnectPrivate hfail s
    · exact hcounted

theorem configSdCardCredentials_truthful {w : Wifi} (h : w.Truthful) :
    w.configSdCardCredentials.2.Truthful := by
  have hread : w.readCredentials.2.connected = w.connected ∧
      w.readCredentials.2.history = w.history := by
    unfold readCredentials
    split <;> exact ⟨rfl, rfl⟩
  have hsame := (truthful_congr hread.1 hread.2).2 h
  unfold configSdCardCredentials
  dsimp only
  split
  · exact hsame
  · exact (truthful_congr rfl rfl).2 hsame

/-- **One event.** A truthful flag stays truthful through an event exactly if the event keeps the
link. -/
theorem moments_truthful_iff {w : Wifi} (hfail : w.failedBit = false) (h : w.Truthful) (e : Event) :
    (∀ w' ∈ w.moments e, w'.Truthful) ↔ w.LinkKept e := by
  cases e with
  | bleWriteCredentials s new => exact bleWriteCredentials_truthful_iff hfail s new
  | connect s => exact List.forall_mem_singleton.trans (connect_truthful_step hfail h s)
  | disconnect s =>
      exact List.forall_mem_singleton.trans (iff_of_true (disconnect_truthful hfail h s) trivial)
  | configSdCardCredentials =>
      exact List.forall_mem_singleton.trans
        (iff_of_true (configSdCardCredentials_truthful h) trivial)
  | init =>
      exact List.forall_mem_singleton.trans (iff_of_true ((truthful_congr rfl rfl).2 h) trivial)
  | station e =>
      refine List.forall_mem_singleton.trans ?_
      show ((w.eventHandler e).connected = true →
        latestStation (w.eventHandler e).history = some .staGotIp) ↔ _
      rw [(eventHandler_frame w e).2.2.1, eventHandler_history]
      show (w.connected = true → some e = some .staGotIp) ↔ (w.connected = true → e = .staGotIp)
      rw [Option.some.injEq]

/-- Where an event takes the object is the last of its moments. -/
theorem step_mem_moments (w : Wifi) (e : Event) : w.step e ∈ w.moments e := by
  cases e with
  | bleWriteCredentials s new => simp [moments, step]
  | _ => exact List.mem_singleton_self _

/-- `connect` returns 0 only with the flag set. -/
theorem connected_of_connect_zero {w : Wifi} {s : WaitScript} (h : (w.connect s).1 = 0) :
    (w.connect s).2.connected = true := by
  unfold connect at h ⊢
  dsimp only at h ⊢
  split at h
  · exact absurd h (show ¬ (1 : UInt8) = 0 by decide)
  · next hne =>
      rw [if_neg hne]
      split at h
      · next hconn =>
          rw [if_pos hconn]
          exact hconn
      · next hconn =>
          rw [if_neg hconn]
          unfold connectPrivate at h ⊢
          dsimp only at h ⊢
          split at h
          · next hsees =>
              rw [if_pos hsees]
          · exact absurd h (show ¬ (1 : UInt8) = 0 by decide)

theorem tellsTruth_iff {w : Wifi} (hfail : w.failedBit = false) (h : w.Truthful) (e : Event) :
    w.TellsTruth e ↔ w.LinkKept e := by
  rw [← moments_truthful_iff hfail h e]
  refine ⟨TellsTruth.isConnected, fun htruth => ⟨htruth, ?_⟩⟩
  rintro s rfl hzero
  exact htruth _ (step_mem_moments w (.connect s)) (connected_of_connect_zero hzero)

/-! ## Runs -/

/-- **`connect` and `isConnected` tell the truth exactly as long as the link is kept.** After a run
whose every step keeps the link, `isConnected` is right, and through the next event `isConnected` and
`connect` are if and only if that one keeps the link too. -/
theorem connect_truthful_iff (file : Option Credentials) {w : Wifi}
    (h : Runs.Reached (fun w e w' => w' = w.step e) LinkKept (boot file) w) :
    (w.isConnected = true → w.Linked) ∧ ∀ e, w.TellsTruth e ↔ w.LinkKept e := by
  have htruth : w.failedBit = false ∧ w.Truthful := by
    refine h.invariant (I := fun w => w.failedBit = false ∧ w.Truthful)
      ⟨rfl, fun hconn => absurd hconn Bool.false_ne_true⟩ ?_
    rintro w e _ ⟨hfail, htruth⟩ hkept rfl
    refine ⟨step_failedBit w e hfail, ?_⟩
    exact (moments_truthful_iff hfail htruth e).2 hkept _ (step_mem_moments w e)
  exact ⟨htruth.2, tellsTruth_iff htruth.1 htruth.2⟩

/-! ## A link that is gone -/

/-- The box connects, and then the link is lost. -/
def lostRun : List Event :=
  [.init, .configSdCardCredentials, .connect ⟨[], [.staGotIp]⟩, .station .staDisconnected]

/-- The station lost its link and nothing came since, but `isConnected` still returns true and
`connect` still returns 0. -/
theorem lostLink_reported :
    Runs.Reached (fun w e w' => w' = w.step e) (fun _ _ => True) (boot (some home))
        (lostRun.foldl step (boot (some home))) ∧
      (lostRun.foldl step (boot (some home))).isConnected = true ∧
      ((lostRun.foldl step (boot (some home))).connect ⟨[], []⟩).1 = 0 ∧
      latestStation ((lostRun.foldl step (boot (some home))).connect ⟨[], []⟩).2.history =
        some .staDisconnected :=
  ⟨Runs.reached_foldl step _ lostRun, by decide, by decide, by decide⟩

/-- The run up to the lost link. -/
def keptRun : List Event := [.init, .configSdCardCredentials, .connect ⟨[], [.staGotIp]⟩]

/-- As long as the link is there, `isConnected` is right, and so is the next `connect`. -/
theorem keptLink_truthful :
    ((keptRun.foldl step (boot (some home))).isConnected = true →
        (keptRun.foldl step (boot (some home))).Linked) ∧
      (keptRun.foldl step (boot (some home))).TellsTruth (.connect ⟨[], []⟩) := by
  have hmeets : Runs.Meets step LinkKept (boot (some home)) keptRun :=
    ⟨trivial, trivial, fun _ _ _ => by decide, trivial⟩
  obtain ⟨hright, hnext⟩ :=
    connect_truthful_iff (some home) (Runs.reached_foldl_of step _ keptRun hmeets)
  exact ⟨hright, (hnext _).2 fun _ hno => absurd hno (by decide)⟩

end Wifi

end Cubbies
